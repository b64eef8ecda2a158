import SerialMachine.Proofs.AddressSpace
import SerialMachine.Proofs.Decoding
import SerialMachine.Proofs.Pacing
import SerialMachine.Proofs.SingleSteps
import SerialMachine.Proofs.Tracing

/-!
# A program counter that is overwritten

A fetch takes its word from where the bus stands, and the state before has brought the bus there.
The program counter says no more than where the program goes on. Main statement: when a host
overwrites the program counter ahead of a fetch, the next instruction is the one that the bus stands
at, executed with the new program counter. It is the instruction that the new program counter means
where the two addresses decode alike.
-/

namespace SerialMachine

open Bits (bit keep test)

/-! ## Steps with their instruction from anywhere -/

namespace WordMachine

/-- The word at an address, and the machine when it has been fetched as an instruction. -/
def fetchFrom (config : Config) (address : Int) (m : WordMachine) : Int × WordMachine :=
  let (word, m) := m.read address
  (word, m.refresh config)

/-- What a step comes to when its instruction has been fetched. It takes some number of cycles, with
the interrupt line at `level k` in cycle `k` and the interrupt latch as given. -/
def conclude (config : Config) (level : Nat → Bool) (cycles : Nat) (word : Int) (m : WordMachine)
    (pending : Bool) : Outcome :=
  let n := config.width
  let instruction := config.decode word
  let raised start count := config.extended && raised level start count
  let asked := pending || (config.extended && m.due config)
  if m.isSet config .halt then
    { machine := m, pending := asked || raised 0 cycles, halted := true }
  else if m.isSet config .reset then
    { machine := m.restart, pending := raised (cycles - n) n, halted := false }
  else if config.extended && (m.isSet config .interruptEnable && (asked || raised 0 (n + 1))) then
    { machine := m.dispatch, pending := raised (cycles - n) n, halted := false }
  else if !config.extended && (m.isSet config .indirect && decide (instruction.opcode < 8)) then
    let (operand, m) := m.read instruction.operand
    { machine := m.execute config instruction.operation operand
      pending := asked || raised 0 cycles, halted := false }
  else
    { machine := m.execute config instruction.operation instruction.operand
      pending := asked || raised 0 cycles, halted := false }

/-- One step of either variant that takes its instruction from an address, wherever the program
counter stands. -/
def stepFrom (config : Config) (level : Nat → Bool) (cycles : Nat) (address : Int)
    (m : WordMachine) (pending : Bool) : Outcome :=
  (m.fetchFrom config address).2.conclude config level cycles (m.fetchFrom config address).1 pending

variable {config : Config} (level : Nat → Bool) (cycles : Nat) (m : WordMachine)

/-- One step of either variant. The base variant takes no interrupts. -/
def step (config : Config) (level : Nat → Bool) (cycles : Nat) (m : WordMachine)
    (pending : Bool) : Outcome :=
  match config.variant with
  | .base => m.baseStep config
  | .extended => m.extendedStep config level cycles pending

/-- With the instruction at the program counter it is the step of the variant. -/
theorem stepFrom_pc {pending : Bool} (plain : config.variant = .base → pending = false) :
    m.stepFrom config level cycles m.pc pending = m.step config level cycles pending := by
  have fetch : m.fetchFrom config m.pc = m.fetch config := rfl
  unfold stepFrom conclude step
  cases variant : config.variant with
  | base =>
    have unextended := (Config.extended_eq_false_iff _).2 variant
    simp only [baseStep, fetch, unextended, plain variant, Bool.false_and, Bool.false_or,
      Bool.not_false, Bool.true_and, Bool.false_eq_true, if_false]
  | extended =>
    have extended := (Config.extended_eq_true_iff _).2 variant
    simp only [extendedStep, fetch, extended, Bool.true_and, Bool.not_true, Bool.false_and,
      Bool.false_eq_true, if_false]

/-- Addresses that decode alike mean the same instruction. -/
theorem stepFrom_of_decoded {a b : Int} (wide : 5 ≤ m.bus.width)
    (same : m.bus.decoded a = m.bus.decoded b) (pending : Bool) :
    m.stepFrom config level cycles a pending = m.stepFrom config level cycles b pending := by
  have read : m.read a = m.read b := by
    simp only [WordMachine.read, Bus.readWord, Bus.read_of_decoded wide same, same]
  simp only [stepFrom, fetchFrom, read]

end WordMachine

/-! ## Fetches do not look at the program counter -/

namespace Registers

variable {config : Config} {r next : Registers} {bit : Int} {irq : Bool}

theorem fetch_set_pc (plain : r.dispatch = false) (m : Timing.Markers) (x : Int) :
    Cycle.fetch config bit m (r.set .pc x) = (Cycle.fetch config bit m r).set .pc x := by
  simp only [set, Cycle.fetch, plain, Bool.false_eq_true, if_false, fetchSetUp_eq,
    fetchBit_fetchFlags, fetchChoice_eq]
  cases m.first <;> cases config.extended <;> cases m.last <;> rfl

/-- Nothing in a cycle of a fetch depends on the program counter. -/
theorem Sound.transition_set_pc (h : r.Sound config) (fetch : r.state = .fetch)
    (plain : r.dispatch = false) (done : r.transition config bit irq = .ok next) (x : Int) :
    (r.set .pc x).transition config bit irq = .ok (next.set .pc x) := by
  obtain ⟨c, le, timed, coherent⟩ := id h
  obtain ⟨c', -, worked, cycle, work, -, -, proceeds, enters⟩ := h.exists_worked bit irq
  obtain rfl : c' = c := by
    have := congrArg Registers.cycle timed
    simp only [Registers.timed] at this
    omega
  have native : (r.set .pc x).Native config := fun extended => (coherent.native extended).1
  have timed' : (r.set .pc x).timed config c' = r.set .pc x := by
    conv_rhs => rw [timed]
    rfl
  have work' : ((r.set .pc x).latched config irq).work config bit
      (Timing.markers c' config.width) = .ok (worked.set .pc x) := by
    have state : (r.latched config irq).state = .fetch := fetch
    have state' : ((r.set .pc x).latched config irq).state = .fetch := fetch
    rw [Registers.work, state] at work
    obtain rfl := Except.ok.inj work
    rw [Registers.work, state']
    exact congrArg Except.ok (fetch_set_pc (r := r.latched config irq) plain _ x)
  rcases le.lt_or_eq with lt | rfl
  · obtain rfl := Except.ok.inj ((proceeds lt).symm.trans done)
    have moved := transition_of_lt lt native work'
    rw [timed'] at moved
    exact moved
  · obtain ⟨follows, entered⟩ := enters rfl
    obtain rfl := Except.ok.inj (entered.symm.trans done)
    have moved := transition_of_follows native work' follows
    rw [timed'] at moved
    exact moved

theorem drive_set_pc (config : Config) (fetch : r.state = .fetch) (x : Int) :
    (r.set .pc x).drive config = r.drive config := by
  simp only [drive, Drive.data, set, fetch]

/-- A fetch that is not over stays a fetch. -/
theorem Sound.plain_transition (h : r.Sound config) (fetch : r.state = .fetch)
    (plain : r.dispatch = false) {c : Nat} (cycle : r.cycle = c) (more : c < config.width)
    (done : r.transition config bit irq = .ok next) :
    next.state = .fetch ∧ next.dispatch = false ∧ next.cycle = (c + 1 : Nat) := by
  obtain ⟨c', -, worked, cycle', work, same, -, proceeds, -⟩ := h.exists_worked bit irq
  obtain rfl : c' = c := by omega
  have last : (Timing.markers c' config.width).last = false := by
    rw [markers_cast]
    simp only [beq_eq_false_iff_ne]
    omega
  have dispatch := dispatch_work work last
  obtain rfl := Except.ok.inj ((proceeds more).symm.trans done)
  refine ⟨same.trans fetch, ?_, rfl⟩
  have kept : (r.latched config irq).dispatch = false := plain
  rw [kept] at dispatch
  exact dispatch

end Registers

namespace Machine

variable {m : Machine Bus} {level : Nat → Bool} {reports : List Event} {x : Int}

/-- The machine with another program counter. -/
def withPc (m : Machine Bus) (x : Int) : Machine Bus :=
  { m with processor := { m.processor with registers := m.processor.registers.set .pc x } }

theorem act_overwrite_pc (m : Machine Bus) (x : Int) :
    m.act (.overwrite [(⟨.pc, by decide⟩, x)]) = m.withPc (keep m.processor.config.width x) := rfl

theorem transfers_succ (level : Nat → Bool) (k : Nat) (m : Machine Bus) :
    m.transfers level (k + 1) = m.transfers level k ++
      ((m.run level k).clocked (level k)).events.filter Event.ofBus :=
  List.filter_append ..

theorem clocked_withPc (sound : m.processor.Sound) (fetch : m.processor.registers.state = .fetch)
    (plain : m.processor.registers.dispatch = false) (level : Bool) (x : Int) :
    ((m.withPc x).clocked level).state = (m.clocked level).state.withPc x ∧
      ((m.withPc x).clocked level).events.filter Event.ofBus =
        (m.clocked level).events.filter Event.ofBus := by
  obtain ⟨signals, lines, single⟩ := sound.registers.exists_lines
  obtain ⟨bit, reply, quiet⟩ := m.bus.exists_reply single
  obtain ⟨next, done, -, -⟩ := sound.registers.transition bit level
  have lines' := (Registers.drive_set_pc m.processor.config fetch x).trans lines
  have done' := sound.registers.transition_set_pc fetch plain done x
  rw [clocked_eq sound.running lines single reply quiet done,
    clocked_eq (m := m.withPc x) sound.running lines' single reply quiet done']
  refine ⟨rfl, ?_⟩
  rw [List.filter_append, List.filter_append, Processor.filter_entered, Processor.filter_entered]
  rfl

section

variable (sound : m.processor.Sound) (begins : m.processor.atFetch = true) (level) (x)
include sound begins

/-- The cycles of a fetch that has begun. -/
theorem fetching_run {k : Nat} (le : k ≤ m.processor.config.width) :
    (m.run level k).processor.registers.state = .fetch ∧
      (m.run level k).processor.registers.dispatch = false ∧
      (m.run level k).processor.registers.cycle = k := by
  induction k with
  | zero =>
    obtain ⟨-, timed, fetch, plain⟩ := sound.begins begins
    exact ⟨fetch, plain, congrArg Registers.cycle timed⟩
  | succ k ih =>
    obtain ⟨fetch, plain, cycle⟩ := ih (by omega)
    obtain ⟨sound', config⟩ := sound_run sound level k
    obtain ⟨signals, lines, single⟩ := sound'.registers.exists_lines
    obtain ⟨bit, reply, quiet⟩ := (m.run level k).bus.exists_reply single
    obtain ⟨next, done, -, -⟩ := sound'.registers.transition bit (level k)
    rw [run, clocked_eq sound'.running lines single reply quiet done]
    exact sound'.registers.plain_transition fetch plain cycle (by rw [config]; omega) done

/-- A fetch goes the same way with any program counter. -/
theorem run_withPc {k : Nat} (le : k ≤ m.processor.config.width + 1) :
    (m.withPc x).run level k = (m.run level k).withPc x ∧
      (m.withPc x).transfers level k = m.transfers level k := by
  induction k with
  | zero => exact ⟨rfl, rfl⟩
  | succ k ih =>
    obtain ⟨run, transfers⟩ := ih (by omega)
    obtain ⟨fetch, plain, -⟩ := fetching_run level sound begins (Nat.le_of_succ_le_succ le)
    obtain ⟨state, events⟩ :=
      clocked_withPc (sound_run sound level k).1 fetch plain (level k) x
    constructor
    · rw [Machine.run, run, state]
      rfl
    · rw [transfers_succ, transfers_succ, transfers, run, events]

end

/-- With the program counter at the address of the bus, a machine about to fetch is ready. -/
theorem Paced.ready_withPc (h : m.Paced) (sound : m.processor.Sound)
    (begins : m.processor.atFetch = true) : (m.withPc m.bus.address).Ready := by
  obtain ⟨coherent, timed, fetch, plain⟩ := sound.begins begins
  have word : Register.pc ∈ Register.words := by decide
  constructor
  case running => exact sound.running
  case width => exact h.width
  case coherent => exact coherent.set word (h.width ▸ h.fits)
  case timed =>
    show m.processor.registers.set .pc m.bus.address = _
    conv_lhs => rw [timed]
    rfl
  case aligned =>
    refine ⟨fun _ => fetch, fun a addressee => ?_⟩
    simpa [withPc, Registers.set, Registers.addressee, fetch, plain, eq_comm] using addressee
  case fits => exact h.fits
  case rests => exact h.rests_of_first (congrArg Registers.cycle timed)

theorem sound_withPc (sound : m.processor.Sound) (fits : Word.Fits m.processor.config.width x) :
    (m.withPc x).processor.Sound := by
  have overwritten := (sound_act sound (.overwrite [(⟨.pc, by decide⟩, x)])).1
  rw [act_overwrite_pc, Bits.keep_eq_self fits] at overwritten
  exact overwritten

/-! ## The rest of the instruction -/

/-- What a machine has fetched it has also fetched with another program counter. -/
theorem Fetches.withPc {w : Int} {r : Registers} {v : WordMachine}
    (f : m.Fetches level reports w r v) (sound : m.processor.Sound)
    (begins : m.processor.atFetch = true) (fits : Word.Fits m.processor.config.width x) :
    (m.withPc x).Fetched level reports w (r.set .pc x) { v with pc := x } := by
  have word : Register.pc ∈ Register.words := by decide
  obtain ⟨passed, transfers⟩ := run_withPc level x sound begins le_rfl
  have passed : (m.withPc x).passed level = (m.passed level).withPc x := passed
  have registers : ((m.passed level).withPc x).processor.registers =
      (Cycle.fetchChoice m.processor.config (bit (m.processor.config.width - 1) w)
        (r.set .pc x)).entering m.processor.config := by
    rw [Machine.withPc, f.registers, Registers.fetchChoice_eq, Registers.fetchChoice_eq]
    rfl
  constructor
  case unsettled =>
    intro k pos lt
    rw [(run_withPc level x sound begins lt.le).1]
    exact f.unsettled k pos lt
  case ready =>
    rw [passed]
    have same : ((m.passed level).withPc x).processor.config = m.processor.config := f.config
    refine { f.ready with
      coherent := f.ready.coherent.set word (f.config.symm ▸ fits), timed := ?_, aligned := ?_ }
    · rw [registers, same]
      rfl
    · rw [registers]
      exact Registers.fetchChoice_aligned (r := r.set .pc x) f.plain _ _
  case config => rw [passed]; exact f.config
  case sees =>
    have seen := congrArg (fun v : WordMachine => { v with pc := x }) f.sees
    exact seen
  case view =>
    have seen : (m.withPc x).seen level reports = m.seen level reports :=
      congrArg (reports ++ ·) transfers
    rw [passed, seen, ← f.view]
    rfl
  case registers => rw [passed]; exact registers
  case zero => exact f.zero
  case operand => exact f.operand
  case selected => exact f.selected
  case high => exact f.high
  case irq => exact f.irq

/-- An instruction that gets its turn is executed, by way of its address in the base variant. -/
theorem Fetched.fetchChoice_of_works {w : Int} {s : Registers} {v : WordMachine}
    (f : m.Fetched level reports w s v) (halt : v.isSet m.processor.config .halt = false)
    (reset : v.isSet m.processor.config .reset = false)
    (served : (m.processor.config.extended &&
      (v.isSet m.processor.config .interruptEnable && s.irq)) = false) :
    Cycle.fetchChoice m.processor.config (bit (m.processor.config.width - 1) w) s =
      { s with
        choice := if !m.processor.config.extended && (v.isSet m.processor.config .indirect &&
            decide ((m.processor.config.decode w).opcode < 8)) then .indirect
          else .execute } := by
  have high : test 0 (bit (m.processor.config.width - 1) w) =
      !decide ((m.processor.config.decode w).opcode < 8) := by
    rw [Bits.test_zero_bit, f.high]
  simp only [Cycle.fetchChoice, f.isSet, halt, reset, high, Bool.not_not, Bool.false_eq_true,
    if_false]
  cases extended : m.processor.config.extended with
  | true =>
    rw [extended, Bool.true_and] at served
    simp [served]
  | false =>
    simp only [Bool.false_eq_true, if_false, Bool.not_false, Bool.true_and]
    split <;> rfl

/-- A machine that has fetched an instruction concludes the step. -/
theorem Fetched.performs_conclude {w : Int} {s : Registers} {v : WordMachine}
    (f : m.Fetched level reports w s v) :
    ∃ cycles, m.Performs level cycles reports
      (v.conclude m.processor.config level cycles w m.processor.registers.irq) := by
  have asked : s.irq = ((m.processor.registers.irq ||
      (m.processor.config.extended && v.due m.processor.config)) ||
      (m.processor.config.extended && raised level 0 (m.processor.config.width + 1))) := by
    rw [f.irq, Bool.or_right_comm]
  have lasting : m.processor.config.width + 1 + (m.processor.config.width + 1) -
      m.processor.config.width = m.processor.config.width + 1 + 1 := by
    omega
  unfold WordMachine.conclude
  simp only
  cases halt : v.isSet m.processor.config .halt with
  | true =>
    have halts := f.performs_halt halt
    rw [asked] at halts
    exact ⟨_, halts⟩
  | false =>
    cases reset : v.isSet m.processor.config .reset with
    | true =>
      have restarts := f.performs_restart halt reset
      rw [← lasting] at restarts
      exact ⟨_, restarts⟩
    | false =>
      cases served : m.processor.config.extended &&
          (v.isSet m.processor.config .interruptEnable && s.irq) with
      | true =>
        obtain ⟨extended, serves⟩ := Bool.and_eq_true_iff.1 served
        have dispatches := f.performs_dispatch extended halt reset serves
        rw [← lasting] at dispatches
        rw [asked] at served
        refine ⟨m.processor.config.width + 1 + (m.processor.config.width + 1), ?_⟩
        simp only [Bool.false_eq_true, if_false, if_pos served]
        rw [extended, Bool.true_and]
        exact dispatches
      | false =>
        have chosen := f.fetchChoice_of_works halt reset served
        cases indirect : !m.processor.config.extended &&
            (v.isSet m.processor.config .indirect &&
              decide ((m.processor.config.decode w).opcode < 8)) with
        | true =>
          have runs := f.runsOn_indirect (chosen.trans (by rw [indirect, if_pos rfl]))
          rw [asked] at served
          simpa only [served, Bool.false_eq_true, if_false, if_true] using runs
        | false =>
          have runs := f.runsOn_execute (chosen.trans (by rw [indirect, if_neg Bool.false_ne_true]))
          rw [asked] at served
          simpa only [served, Bool.false_eq_true, if_false, if_true] using runs

/-- The rest of the instruction takes no more than five states. -/
theorem Fetched.le_of_performs {w : Int} {s : Registers} {v : WordMachine}
    (f : m.Fetched level reports w s v) {cycles : Nat} {outcome : WordMachine.Outcome}
    (performs : m.Performs level cycles reports outcome) :
    cycles ≤ 6 * (m.processor.config.width + 1) := by
  obtain ⟨k, le, settled⟩ := f.ready.exists_settled (m.later level)
  rw [f.config] at le
  have there : (m.run level (m.processor.config.width + 1 + k)).processor.settled = true := by
    rw [run_add]
    exact settled
  have few := Nat.mul_le_mul_right (m.processor.config.width + 1)
    (m.passed level).processor.registers.statesLeft_le
  have ended := performs.le_of_settled (by omega) there
  omega

section

variable (sound : m.processor.Sound) (begins : m.processor.atFetch = true)
include sound begins

/-- As long as no registers are overwritten, the bus stands at the program counter. -/
theorem Orderly.address_of_atFetch (h : m.Orderly) :
    m.processor.registers.pc = m.bus.address := by
  obtain ⟨-, timed, fetch, plain⟩ := sound.begins begins
  have ready := h.underway.ready (congrArg Registers.first timed)
  exact ready.aligned.addressed _ (by simp [Registers.addressee, fetch, plain])

/-- With any program counter a machine that is about to fetch performs the step of the instruction
at the address of the bus. -/
theorem Paced.performs_stepFrom (h : m.Paced) (level : Nat → Bool) (reports : List Event)
    (fits : Word.Fits m.processor.config.width x) :
    ∃ cycles ≤ 6 * (m.processor.config.width + 1), (m.withPc x).Performs level cycles reports
      (((m.withPc x).view reports).stepFrom m.processor.config level cycles m.bus.address
        m.processor.registers.irq) := by
  have sound' := sound_withPc sound (h.width ▸ h.fits)
  obtain ⟨w, r, v, f⟩ := (h.ready_withPc sound begins).exists_fetches begins level reports
  have fetched := f.withPc sound' begins fits
  obtain ⟨cycles, performs⟩ := fetched.performs_conclude
  have word : ((m.withPc x).view reports).fetchFrom m.processor.config m.bus.address =
      (w, { v with pc := x }) :=
    congrArg (fun fetched : Int × WordMachine => (fetched.1, { fetched.2 with pc := x })) f.fetch
  refine ⟨cycles, fetched.le_of_performs performs, ?_⟩
  rw [WordMachine.stepFrom, word]
  exact performs

end

end Machine

/-! ## Sessions -/

namespace Emulator

/-- A run of a single instruction performs the step that takes its instruction from an address. -/
structure StepsFrom (e : Emulator) (address : Int) (cycles : Nat) : Prop where
  finished : e.Finished 0 cycles (Clocked.stepInstruction none e)
  performs : e.machine.Performs (fun _ => e.processor.irq) cycles []
    ((e.machine.view []).stepFrom e.processor.config (fun _ => e.processor.irq) cycles address
      e.processor.registers.irq)

variable {e : Emulator}

/-- A step that is performed in the cycles of sixteen states is a run of a single instruction. -/
theorem Sound.finished_of_performs (h : e.Sound) {cycles : Nat} {reports : List Event}
    {outcome : WordMachine.Outcome}
    (performs : e.machine.Performs (fun _ => e.processor.irq) cycles reports outcome)
    (le : cycles ≤ 16 * (e.processor.config.width + 1)) :
    e.Finished 0 cycles (Clocked.stepInstruction none e) := by
  have clocks (k : Nat) : e.machine.clocks k = e.machine.run (fun _ => e.processor.irq) k :=
    (Machine.clocks_eq_run h.processor k).1
  refine h.finished_stepInstruction performs.positive le (fun k pos lt => ?_) ?_
  · rw [clocks]
    exact performs.unsettled k pos lt
  · rw [clocks, Processor.settled, performs.atFetch, performs.halted]
    cases outcome.halted <;> rfl

/-- The emulator when a host has overwritten the program counter. -/
def overwritePc (e : Emulator) (x : Int) : Emulator :=
  e.handle (.act (.overwrite [(⟨.pc, by decide⟩, x)]))

theorem machine_overwritePc (e : Emulator) (x : Int) :
    (e.overwritePc x).machine = e.machine.withPc (keep e.processor.config.width x) :=
  e.machine.act_overwrite_pc x

theorem Sound.stepsFrom_overwritePc (h : e.Sound) (paced : e.machine.Paced)
    (begins : e.processor.atFetch = true) (x : Int) :
    ∃ cycles, (e.overwritePc x).StepsFrom e.machine.bus.address cycles := by
  obtain ⟨cycles, le, performs⟩ := paced.performs_stepFrom h.processor begins
    (fun _ => e.processor.irq) [] (Bits.fits_keep e.processor.config.width x)
  rw [← machine_overwritePc] at performs
  have enough : cycles ≤ 16 * (e.processor.config.width + 1) :=
    le.trans (Nat.mul_le_mul_right _ (by decide))
  exact ⟨cycles, (h.handle _).finished_of_performs performs enough, performs⟩

/-- The instruction at an address that decodes as the program counter does is the one that the
program counter calls for. -/
theorem StepsFrom.performs_step {address : Int} {cycles : Nat} (steps : e.StepsFrom address cycles)
    (h : e.Sound) (width : e.machine.bus.width = e.processor.config.width)
    (alike : e.machine.bus.decoded address = e.machine.bus.decoded e.processor.registers.pc) :
    e.machine.Performs (fun _ => e.processor.irq) cycles []
      ((e.machine.view []).step e.processor.config (fun _ => e.processor.irq) cycles
        e.processor.registers.irq) := by
  obtain ⟨c, -, -, coherent⟩ := h.processor.registers
  have wide : 5 ≤ (e.machine.view []).bus.width :=
    (by decide : 5 ≤ 8).trans (e.processor.config.eight_le_width.trans_eq width.symm)
  have plain (base : e.processor.config.variant = .base) : e.processor.registers.irq = false :=
    (coherent.plain ((Config.extended_eq_false_iff _).2 base)).2
  rw [← WordMachine.stepFrom_pc _ _ _ plain]
  have performs := steps.performs
  rw [WordMachine.stepFrom_of_decoded _ _ _ wide alike] at performs
  exact performs

/-- Whatever program counter a host puts in ahead of a fetch, the next instruction is the one at the
address of the bus, which is the program counter before as long as no registers are overwritten.
Where both addresses decode alike, the step is the one that the new program counter calls for. -/
theorem steps_overwritePc (settings : Settings) (requests : List Request) (x : Int)
    (begins : ((make settings).after requests).processor.atFetch = true) :
    let e := (make settings).after requests
    let s := e.overwritePc x
    s.processor.registers.pc = keep e.processor.config.width x ∧
      ∃ cycles, s.StepsFrom e.machine.bus.address cycles ∧
        ((∀ request ∈ requests, request.sparesRegisters = true) →
          s.StepsFrom e.processor.registers.pc cycles) ∧
        (e.machine.bus.decoded e.machine.bus.address = e.machine.bus.decoded x →
          s.machine.Performs (fun _ => s.processor.irq) cycles []
            ((s.machine.view []).step s.processor.config (fun _ => s.processor.irq) cycles
              s.processor.registers.irq)) := by
  intro e s
  have sound : e.Sound := sound_after settings requests
  have paced : e.machine.Paced := paced_after settings requests
  obtain ⟨cycles, steps⟩ := sound.stepsFrom_overwritePc paced begins x
  refine ⟨rfl, cycles, steps, fun spares => ?_, fun alike => ?_⟩
  · have stands : e.processor.registers.pc = e.machine.bus.address :=
      (orderly_after settings spares).address_of_atFetch sound.processor begins
    rw [stands]
    exact steps
  · refine steps.performs_step (sound.handle _) paced.width (alike.trans ?_)
    have kept := e.machine.bus.decoded_keep x
    rw [paced.width] at kept
    exact kept.symm

/-- A program of eight-bit words, `LITERAL 3` and `LITERAL 7`, up to the fetch of the first. -/
def twoLiterals : List Request :=
  [.loadWords [0xA3, 0xA7] 0, .stepInstruction none]

/-- The program counter is moved on to the second one. -/
theorem steps_overwritePc_literals :
    ((make { config := { width := 8 } }).after twoLiterals).processor.atFetch = true ∧
      let e := (make { config := { width := 8 } }).after twoLiterals
      let s := e.overwritePc 1
      s.processor.registers.pc = keep e.processor.config.width 1 ∧
        ∃ cycles, s.StepsFrom e.machine.bus.address cycles ∧
          ((∀ request ∈ twoLiterals, request.sparesRegisters = true) →
            s.StepsFrom e.processor.registers.pc cycles) ∧
          (e.machine.bus.decoded e.machine.bus.address = e.machine.bus.decoded 1 →
            s.machine.Performs (fun _ => s.processor.irq) cycles []
              ((s.machine.view []).step s.processor.config (fun _ => s.processor.irq) cycles
                s.processor.registers.irq)) := by
  have begins :
      ((make { config := { width := 8 } }).after twoLiterals).processor.atFetch = true := by
    decide +kernel
  exact ⟨begins, steps_overwritePc { config := { width := 8 } } twoLiterals 1 begins⟩

/-- The second one is what the new program counter calls for, and the first one is executed. -/
theorem overwritten_pc_unheeded :
    let e := (make { config := { width := 8 } }).after twoLiterals
    let s := e.overwritePc 1
    let r := (Clocked.stepInstruction none s).state.processor.registers
    e.processor.atFetch = true ∧ s.processor.registers.pc = 1 ∧ s.memory.get 1 = 0xA7 ∧
      ((s.machine.view []).step s.processor.config (fun _ => false) 27 false).machine.acc = 7 ∧
      r.acc = 3 ∧ r.pc = 2 := by
  decide +kernel

end Emulator

end SerialMachine
