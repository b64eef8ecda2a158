import SerialMachine.Proofs.Effects
import SerialMachine.Proofs.Faults
import SerialMachine.Proofs.Leftovers
import SerialMachine.Proofs.Operations

/-!
# What a reset forgets

The reset state clears the latches in its first cycle, shifts zeros into the word registers and out
as an address, and so breaks off whatever the bus was doing. Main statement: from any record that
has words in its word registers, and on any bus, it ends in the same record as after power-on, and
nothing that happens later tells the two apart.
-/

namespace SerialMachine

open Bits (keep)

/-- Overwriting word registers keeps a record sound. -/
theorem Registers.Sound.overwritten {config : Config} {r : Registers} (h : r.Sound config)
    (values : List ({ x : Register // x ∈ Register.words } × Int)) :
    ((values.map fun e => (e.1.1, e.2)).foldl
      (fun r entry => r.set entry.1 (keep config.width entry.2)) r).Sound config := by
  rw [List.foldl_map]
  exact List.foldlRecOn _ _ h fun _ sound entry _ =>
    sound.set entry.1.2 (Bits.fits_keep config.width entry.2)

namespace Machine

/-! ## Machines that show the same -/

/-- Two running machines that differ in what transfers have left behind on the bus, and in the count
of cycles and the last lines, which no cycle that completes reads. -/
structure Twin (m e : Machine Bus) : Prop where
  config : m.processor.config = e.processor.config
  registers : m.processor.registers = e.processor.registers
  sound : m.processor.registers.Sound m.processor.config
  irq : m.processor.irq = e.processor.irq
  running : m.processor.fault = none ∧ e.processor.fault = none
  bus : m.bus.tidy = e.bus.tidy

/-- Two machines have the same registers and devices, their buses stand at the same address, and the
next clock cycle ends alike. -/
structure SameView (m e : Machine Bus) : Prop where
  registers : m.processor.registers = e.processor.registers
  memory : m.bus.memory = e.bus.memory
  peripherals : m.bus.peripherals = e.bus.peripherals
  address : m.bus.address = e.bus.address
  status : m.step.status = e.step.status

variable {m e : Machine Bus}

/-- A clock cycle takes twins to twins. -/
theorem Twin.step (h : m.Twin e) :
    m.step.state.Twin e.step.state ∧ m.step.status = e.step.status := by
  obtain ⟨signals, lines, single⟩ := h.sound.exists_lines
  obtain ⟨bit, reply, quiet⟩ := m.bus.exists_reply single
  obtain ⟨next, done, sound, -⟩ := h.sound.transition bit m.processor.irq
  obtain ⟨bus, -, reply'⟩ := Bus.sameTurn_cycle h.bus signals
  have lines' : e.processor.registers.drive e.processor.config = .ok signals := by
    rw [← h.config, ← h.registers, lines]
  have done' : e.processor.registers.transition e.processor.config bit e.processor.irq =
      .ok next := by
    rw [← h.config, ← h.registers, ← h.irq, done]
  rw [step_eq h.running.1 lines single reply quiet done,
    step_eq h.running.2 lines' single (reply'.symm.trans reply) quiet done']
  exact ⟨⟨h.config, rfl, sound, h.irq, h.running, bus⟩, rfl⟩

theorem Twin.act (h : m.Twin e) (action : Action) : (m.act action).Twin (e.act action) := by
  have bus (action : BusAction) : (m.bus.act action).tidy = (e.bus.act action).tidy :=
    Bus.tidy_act h.bus action
  cases action with
  | clock => exact h.step.1
  | interrupt level => exact { h with irq := rfl }
  | feed bytes => exact { h with bus := bus (.feed bytes) }
  | setSwitches value => exact { h with bus := bus (.setSwitches value) }
  | readWord address => exact { h with bus := bus (.readWord address) }
  | writeWord address value => exact { h with bus := bus (.writeWord address value) }
  | overwrite values =>
    refine { h with registers := ?_, sound := h.sound.overwritten values }
    simp only [Machine.act, Processor.setRegisters, h.config, h.registers]

/-- Twins stay twins through every session. -/
theorem Twin.after (h : m.Twin e) (actions : List Action) :
    (m.after actions).Twin (e.after actions) := by
  induction actions generalizing m e with
  | nil => exact h
  | cons action rest ih => exact ih (h.act action)

theorem Twin.sameView (h : m.Twin e) : m.SameView e :=
  ⟨h.registers, congrArg (·.memory) h.bus, congrArg (·.peripherals) h.bus,
    congrArg (·.address) h.bus, h.step.2⟩

/-! ## The reset state -/

/-- The machine is about to reset: its word registers hold words, and so does the address register
of its bus. The latches may hold anything. -/
structure Restarting (m : Machine Bus) : Prop where
  running : m.processor.fault = none
  begins : m.processor.registers.Begins .reset
  words : m.processor.registers.Words m.processor.config.width
  width : m.bus.width = m.processor.config.width
  fits : Word.Fits m.bus.width m.bus.address

/-- Any history of a bus will do. -/
theorem restarting_of_history {p : Processor} (running : p.fault = none)
    (begins : p.registers.Begins .reset) (words : p.registers.Words p.config.width)
    {memory : Memory} {peripherals : Option Peripherals} {fresh : Bus}
    {host : Host}
    (built : Bus.make host p.config.width memory peripherals = .ok fresh)
    (alike : ∀ q ∈ peripherals, q.width = p.config.width) (history : List BusAction) :
    Restarting { processor := p, bus := fresh.after history } := by
  have uniform := (Bus.uniform_make built alike).after p.config.width_pos history
  exact ⟨running, begins, words, uniform.width, uniform.width.symm ▸ uniform.address⟩

end Machine

namespace Registers

variable {config : Config} {r : Registers}

/-- The first cycle of the reset state finds nothing that it would not clear itself. -/
theorem transition_reset (begins : r.Begins .reset) (bit : Int) (irq : Bool) :
    r.transition config bit irq = .ok ((r.setUp config).timed config 1) := by
  have state := begins.state
  have native : r.Native config := by simp [Native, state, State.baseOnly]
  have work : (r.latched config irq).work config bit (Timing.markers (0 : Nat) config.width) =
      .ok (r.setUp config) := by
    simp [Registers.work, setUp, latched, state, Cycle.reset, Timing.markers]
  have done := transition_of_lt config.width_pos native work
  rwa [← begins.timed config] at done

theorem setUp_setUp_reset (state : r.state = .reset) :
    (r.setUp config).setUp config = r.setUp config := by
  simp [setUp, state]

theorem Begins.setUp (begins : r.Begins .reset) : (r.setUp config).Begins .reset := by
  obtain ⟨state, cycle, first, lastFour⟩ := begins
  constructor <;> simp [Registers.setUp, state, cycle, first, lastFour]

/-- The second cycle drives the first bit of an address. -/
theorem drive_reset (config : Config) (state : r.state = .reset) :
    ((r.setUp config).timed config 1).drive config = .ok (.address 0) := by
  simp [drive, timed, setUp, state, Drive.data]

theorem coherent_setUp_reset (state : r.state = .reset) (words : r.Words config.width) :
    (r.setUp config).Coherent config False where
  words := by
    obtain ⟨acc, pc, operand, flags, shadow, timer, compare⟩ := words
    constructor <;> simpa [setUp, state]
  opcode := by
    simp only [setUp, state]
    exact Bits.fits_zero 4
  native := by simp [setUp, state, State.baseOnly]
  plain := by simp [setUp, state]
  settled := False.elim
  aimed := False.elim

end Registers

namespace Machine

variable {m e f : Machine Bus} {level : Nat → Bool}

/-- The machine on another bus, with what the first cycle of the reset state clears cleared. -/
def cleared (m : Machine Bus) (bus : Bus) : Machine Bus :=
  { processor :=
      { m.processor with registers := m.processor.registers.setUp m.processor.config }
    bus }

theorem Restarting.ready_cleared (h : m.Restarting) {bus : Bus} (width : bus.width = m.bus.width)
    (address : bus.address = m.bus.address) (rests : bus.Rests) : (m.cleared bus).Ready where
  running := h.running
  width := width.trans h.width
  coherent := Registers.coherent_setUp_reset h.begins.state h.words
  timed := h.begins.setUp.timed m.processor.config
  aligned := by
    constructor <;> simp [cleared, Registers.setUp, h.begins.state, Registers.addressee]
  fits := by
    rw [show (m.cleared bus).bus = bus from rfl, width, address]
    exact h.fits
  rests := rests

/-- The lines decide which part of the bus a clock cycle sees. -/
theorem step_of_cycle_eq {p : Processor} {signals : Signals} (running : p.fault = none)
    (lines : p.registers.drive p.config = .ok signals) (single : signals.enables ≤ 1) {b b' : Bus}
    (alike : b.cycle signals = b'.cycle signals) :
    ({ processor := p, bus := b } : Machine Bus).step =
      ({ processor := p, bus := b' } : Machine Bus).step := by
  have check : signals.check = .ok () := if_neg (by omega)
  simp only [step, running, Option.isSome_none, Bool.false_eq_true, if_false, lines, check,
    SerialBus.cycle, alike]

/-- The first cycle of the reset state leaves the bus alone. -/
theorem clocked_reset (running : m.processor.fault = none)
    (begins : m.processor.registers.Begins .reset) (level : Bool) :
    (m.clocked level).state =
      { processor :=
          { m.processor with
              registers :=
                (m.processor.registers.setUp m.processor.config).timed m.processor.config 1
              cycles := m.processor.cycles + 1, signals := {}, irq := level }
        bus := m.bus } := by
  have lines := Registers.drive_first m.processor.config m.processor.registers
  rw [← begins.timed m.processor.config, begins.state] at lines
  have quiet : m.bus.cycle {} = { bus := m.bus, events := [], reply := .ok 0 } := rfl
  rw [clocked_eq running lines (Nat.zero_le 1) rfl (fun _ => rfl)
    (Registers.transition_reset begins 0 level)]
  rfl

/-- After two cycles neither the latches nor the transfer that was under way can be told. -/
theorem Restarting.run_two (h : m.Restarting) (level : Nat → Bool) :
    ∃ bus : Bus, (m.cleared bus).Ready ∧ bus.reset = m.bus.reset ∧
      m.run level 2 = (m.cleared bus).run level 2 := by
  obtain ⟨bus, rests, width, address, devices, alike⟩ := m.bus.exists_settled
  have ready := h.ready_cleared width address rests
  refine ⟨bus, ready, devices, ?_⟩
  have first := clocked_reset h.running h.begins (level 0)
  have first' := clocked_reset (m := m.cleared bus) h.running h.begins.setUp (level 0)
  have cleared : ((m.cleared bus).clocked (level 0)).state =
      { (m.clocked (level 0)).state with bus } := by
    rw [first', first]
    simp only [Machine.cleared, Registers.setUp_setUp_reset h.begins.state]
  -- The second cycle is the first to drive a bit, and with an address bit every transfer ends.
  have lines := Registers.drive_reset m.processor.config h.begins.state
  rw [show (2 : Nat) = 1 + 1 from rfl, run, run, run, run, run, run, cleared, first]
  refine congrArg Step.state (Eq.symm (step_of_cycle_eq ?_ lines (by decide) (alike 0)))
  exact h.running

/-- The reset state takes a machine where it takes one with cleared latches and a bus at rest. -/
theorem Restarting.passed_eq (h : m.Restarting) (level : Nat → Bool) :
    ∃ bus : Bus, (m.cleared bus).Ready ∧ bus.reset = m.bus.reset ∧
      m.passed level = (m.cleared bus).passed level := by
  obtain ⟨bus, ready, devices, two⟩ := h.run_two level
  obtain ⟨k, size⟩ := Nat.exists_eq_add_one.2 m.processor.config.width_pos
  refine ⟨bus, ready, devices, ?_⟩
  rw [passed, passed, show (m.cleared bus).processor.config = m.processor.config from rfl, size,
    show k + 1 + 1 = 2 + k by omega, run_add, run_add, two]

/-- What the reset state comes to. -/
structure Restarted (m : Machine Bus) (level : Nat → Bool) (after : Machine Bus) : Prop where
  ready : after.Ready
  config : after.processor.config = m.processor.config
  registers : after.processor.registers =
    { state := .fetch
      irq := m.processor.config.extended && raised level 1 m.processor.config.width }
  address : after.bus.address = 0
  devices : after.bus.reset = m.bus.reset

theorem Restarting.restarted (h : m.Restarting) (level : Nat → Bool) :
    m.Restarted level (m.passed level) := by
  obtain ⟨bus, ready, devices, same⟩ := h.passed_eq level
  obtain ⟨next, config, registers, address, moved, -⟩ := ready.stage level
  have state : (m.cleared bus).processor.registers.state = .reset := h.begins.setUp.state
  have opened : ((m.cleared bus).processor.registers.opening (m.cleared bus).processor.config level
      0).state = .reset := (Registers.setUp_frame ..).1.trans state
  have traffic : (m.cleared bus).traffic level = .address 0 := by
    simp only [Machine.traffic, Registers.traffic, opened]
  rw [traffic] at address moved
  rw [same]
  refine ⟨next, config, ?_, address.trans ?_, moved.trans devices⟩
  · rw [registers, Registers.passed_reset level _ state ready.coherent.words]
    have begins (irq : Bool) : Registers.Begins .fetch { state := .fetch, irq } :=
      ⟨rfl, rfl, rfl, rfl⟩
    exact ((begins _).timed m.processor.config).symm
  · exact Bits.keep_eq_self (Bits.fits_zero _)

theorem irq_step (m : Machine Bus) : m.step.state.processor.irq = m.processor.irq := by
  have turns := m.turns_step
  generalize m.step = turn at turns ⊢
  cases turns <;> rfl

theorem irq_run (m : Machine Bus) (level : Nat → Bool) (n : Nat) :
    (m.run level (n + 1)).processor.irq = level n :=
  irq_step _

/-- Machines that restart with the same devices are twins once the reset state has passed. -/
theorem Restarting.twin (h : m.Restarting) (h' : e.Restarting)
    (config : e.processor.config = m.processor.config) (memory : e.bus.memory = m.bus.memory)
    (peripherals : e.bus.peripherals = m.bus.peripherals) (level : Nat → Bool) :
    (m.passed level).Twin (e.passed level) := by
  have left := h.restarted level
  have right := h'.restarted level
  have devices : (e.passed level).bus.reset = (m.passed level).bus.reset := by
    rw [left.devices, right.devices]
    simp only [Bus.reset, memory, peripherals, h.width, h'.width, config]
  refine ⟨?_, ?_, ?_, ?_, ⟨left.ready.running, right.ready.running⟩, ?_⟩
  · rw [left.config, right.config, config]
  · rw [left.registers, right.registers, config]
  · exact ⟨0, Nat.zero_le _, left.ready.timed, by simpa using left.ready.coherent⟩
  · rw [passed, passed, irq_run, irq_run, config]
  · rw [Bus.tidy_of_rests left.ready.rests, Bus.tidy_of_rests right.ready.rests, left.address,
      right.address, devices]

/-- At power-on a machine restarts as well. -/
theorem Restarting.reset (h : m.Restarting) : m.reset.1.Restarting where
  running := rfl
  begins := ⟨rfl, rfl, rfl, rfl⟩
  words := by
    have zero := Bits.fits_zero m.processor.config.width
    exact ⟨zero, zero, zero, zero, zero, zero, zero⟩
  width := h.width
  fits := Bits.fits_zero _

/-- Two machines at the first cycle of the reset state, with whatever in their latches and on their
buses, end in the record of a power-on, where only the interrupt latch tells of the interrupt line,
and with zero for an address. From there on neither can be told from a machine that was switched on
with its devices. -/
theorem restart_forgets {m e : Machine Bus} (h : m.Restarting) (h' : e.Restarting)
    (config : e.processor.config = m.processor.config) (level : Nat → Bool) :
    (m.passed level).processor.registers =
        { state := .fetch
          irq := m.processor.config.extended && raised level 1 m.processor.config.width } ∧
      (e.passed level).processor.registers = (m.passed level).processor.registers ∧
      (m.passed level).bus.address = 0 ∧ (e.passed level).bus.address = 0 ∧
      (m.passed level).bus.memory = m.bus.memory ∧
      (m.passed level).bus.peripherals = m.bus.peripherals ∧
      (∀ session, ((m.passed level).after session).SameView
        ((m.reset.1.passed level).after session)) ∧
      (e.bus.memory = m.bus.memory → e.bus.peripherals = m.bus.peripherals →
        ∀ session, ((m.passed level).after session).SameView ((e.passed level).after session)) := by
  have left := h.restarted level
  have right := h'.restarted level
  refine ⟨left.registers, ?_, left.address, right.address, congrArg (·.memory) left.devices,
    congrArg (·.peripherals) left.devices, fun session => ?_, fun memory peripherals session => ?_⟩
  · rw [left.registers, right.registers, config]
  · exact ((h.twin h.reset rfl rfl rfl level).after session).sameView
  · exact ((h.twin h' config memory peripherals level).after session).sameView

/-- A machine with something in every latch, whose bus has given up a read after three bits. -/
def littered : Machine Bus :=
  { processor :=
      { (literalThree .extended).processor with
          registers :=
            { choice := .halt, acc := 0x5A, pc := 0xFF, operand := 0x31, flags := 0xFF
              opcode := 99, carry := 7, shadow := 1, timer := 2, compare := 3, dispatch := true
              indirected := true, target := some .io, matching := true, irq := true } }
    bus := WatchedBus.twoBytes.after WatchedBus.givenUp }

theorem restart_forgets_litter :
    littered.bus.phase = .read ∧
      (littered.passed fun k => k == 3).processor.registers = { state := .fetch, irq := true } ∧
      ∀ session, ((littered.passed fun k => k == 3).after session).SameView
        ((littered.reset.1.passed fun k => k == 3).after session) := by
  have littering : littered.Restarting := by
    have built : Bus.make {} (8 : Nat) WatchedBus.twoBytes.memory WatchedBus.twoBytes.peripherals =
        .ok WatchedBus.twoBytes := rfl
    refine restarting_of_history rfl ⟨rfl, rfl, rfl, rfl⟩ ?_ built (by decide) WatchedBus.givenUp
    constructor <;> exact ⟨by decide, by decide⟩
  obtain ⟨registers, -, -, -, -, -, session, -⟩ :=
    restart_forgets littering littering.reset rfl fun k => k == 3
  exact ⟨by decide +kernel, registers, session⟩

end Machine

end SerialMachine
