import SerialMachine.Proofs.Addressing
import SerialMachine.Proofs.Session

/-!
# A state on the machine

A machine at the first cycle of a state is `Ready` when its bus stands at rest at the state's
addressee; later it is `Amid` the state. Main statements: a machine that nobody writes registers of
is always one or the other, and one state takes a ready machine to a ready machine, carries the
state's traffic out, and leaves the record that `Registers.swept` says.
-/

namespace SerialMachine

open Bits (bit drop keep test weight)

/-- The record after the first cycle and `k` data cycles of a state, as far as setting up and the
interrupt line make it. -/
def Registers.opening (config : Config) (level : Nat → Bool) (k : Nat) (r : Registers) :
    Registers :=
  ((r.latched config (level 0)).setUp config).latched config (raised level 1 k)

/-- The record at the first cycle of the state after, when the word `w` arrives. -/
def Registers.passed (config : Config) (level : Nat → Bool) (w : Int) (r : Registers) : Registers :=
  ((r.opening config level config.width).swept config w config.width).entering config

theorem Registers.opening_zero (config : Config) (level : Nat → Bool) (r : Registers) :
    r.opening config level 0 = (r.latched config (level 0)).setUp config := by
  simp [opening, raised, latched]

theorem Registers.opening_succ (config : Config) (level : Nat → Bool) (k : Nat) (r : Registers) :
    r.opening config level (k + 1) = (r.opening config level k).latched config (level (k + 1)) := by
  rw [opening, opening, raised_succ, latched_latched, add_comm k 1]

namespace Machine

/-- What the machine does on the bus in the state that begins. -/
def traffic (level : Nat → Bool) (m : Machine Bus) : Traffic :=
  (m.processor.registers.opening m.processor.config level 0).traffic m.processor.config

/-- One clock cycle with the interrupt line at a level. -/
def clocked (level : Bool) (m : Machine Bus) : Step (Machine Bus) :=
  (m.act (.interrupt level)).step

/-- The machine after `n` clock cycles, with the interrupt line at `level k` in cycle `k`. -/
def run (level : Nat → Bool) : Nat → Machine Bus → Machine Bus
  | 0, m => m
  | n + 1, m => ((run level n m).clocked (level n)).state

/-- What is reported in `n` clock cycles. -/
def told (level : Nat → Bool) : Nat → Machine Bus → List Event
  | 0, _ => []
  | n + 1, m => told level n m ++ ((run level n m).clocked (level n)).events

/-- The machine when the state that begins has passed. -/
def passed (level : Nat → Bool) (m : Machine Bus) : Machine Bus :=
  m.run level (m.processor.config.width + 1)

theorem run_add (level : Nat → Bool) (a b : Nat) (m : Machine Bus) :
    m.run level (a + b) = (m.run level a).run (fun k => level (a + k)) b := by
  induction b with
  | zero => rfl
  | succ b ih => rw [← Nat.add_assoc, run, run, ih]

theorem told_add (level : Nat → Bool) (a b : Nat) (m : Machine Bus) :
    m.told level (a + b) =
      m.told level a ++ (m.run level a).told (fun k => level (a + k)) b := by
  induction b with
  | zero => exact (List.append_nil _).symm
  | succ b ih => rw [← Nat.add_assoc, told, told, ih, List.append_assoc, run_add]

/-- The machine is at the first cycle of a state, its bus at rest at the state's addressee. -/
structure Ready (m : Machine Bus) : Prop where
  running : m.processor.fault = none
  width : m.bus.width = m.processor.config.width
  coherent : m.processor.registers.Coherent m.processor.config False
  timed : m.processor.registers = m.processor.registers.timed m.processor.config 0
  aligned : m.processor.registers.Aligned m.bus.address
  fits : Word.Fits m.bus.width m.bus.address
  rests : m.bus.Rests

/-- The machine has been through the first cycle of a state, which left the record `r`, and `k` data
cycles. The bus found the address `old`, and the word that arrives is `w`. -/
structure Amid (m : Machine Bus) (r : Registers) (old w : Int) (k : Nat) : Prop where
  running : m.processor.fault = none
  width : m.bus.width = m.processor.config.width
  inside : k < m.bus.width
  opened : r.Opened m.processor.config
  aligned : r.Aligned old
  fits : Word.Fits m.bus.width old
  registers : m.processor.registers =
    (r.swept m.processor.config w k).timed m.processor.config (k + 1)
  carries : m.bus.Carries (r.traffic m.processor.config) old w k

variable {m : Machine Bus} {r : Registers} {old w : Int} {k : Nat} {level : Bool}

theorem ready_reset (width : m.bus.width = m.processor.config.width) : m.reset.1.Ready where
  running := rfl
  width := width
  coherent := by
    have sound : Registers.Sound m.processor.config {} := Registers.sound_reset
    obtain ⟨c, -, -, coherent⟩ := sound
    exact { coherent with settled := False.elim, aimed := False.elim }
  timed := by
    have := m.processor.config.eight_le_width
    simp [reset, Registers.timed]
    omega
  aligned := ⟨by simp [reset], by simp [reset, Registers.addressee]⟩
  fits := Bits.fits_zero _
  rests := ⟨by simp [reset, SerialBus.reset, Bus.reset], by
    simp [reset, SerialBus.reset, Bus.reset]⟩

/-! ## Clock cycles of a state -/

/-- A clock cycle in which nothing goes wrong. -/
theorem clocked_eq (running : m.processor.fault = none) {signals : Signals} {bit : Int}
    {next : Registers} (lines : m.processor.registers.drive m.processor.config = .ok signals)
    (single : signals.enables ≤ 1) (reply : (m.bus.cycle signals).reply = .ok bit)
    (quiet : signals.ie = false → bit = 0)
    (done : m.processor.registers.transition m.processor.config bit level = .ok next) :
    m.clocked level = {
      state := {
        processor := { m.processor.commit signals next with irq := level }
        bus := (m.bus.cycle signals).bus }
      events := (m.bus.cycle signals).events ++
        (m.processor.commit signals next).entered m.processor.registers.state
      status := .ok (if next.state == .halt then .halted else .normal) } :=
  step_eq (m := m.act (.interrupt level)) running lines single reply quiet done

/-- The first cycle of a state sets up and leaves the bus alone. -/
theorem Ready.clocked (h : m.Ready) (level : Bool) (w : Int) :
    (m.clocked level).state.Amid
        ((m.processor.registers.latched m.processor.config level).setUp m.processor.config)
        m.bus.address w 0 ∧
      (m.clocked level).state.processor.config = m.processor.config ∧
      (m.clocked level).state.bus = m.bus ∧ (m.clocked level).events = [] ∧
      (m.clocked level).state.processor.signals =
        { stop := m.processor.registers.state == .halt } := by
  have lines := Registers.drive_first m.processor.config m.processor.registers
  have done := Registers.transition_first h.coherent 0 level
  rw [← h.timed] at lines done
  have quiet (stop : Bool) :
      m.bus.cycle { stop } = { bus := m.bus, events := [], reply := .ok 0 } := rfl
  have opened := Registers.opened_setUp (h.coherent.latched level)
  rw [clocked_eq h.running lines (Nat.zero_le 1) rfl (fun _ => rfl) done, quiet]
  refine ⟨?_, rfl, rfl, rfl, rfl⟩
  exact {
    running := h.running
    width := h.width
    inside := h.width ▸ m.processor.config.width_pos
    opened := opened
    aligned := (h.aligned.latched level).setUp
    fits := h.fits
    registers := congrArg (Registers.timed m.processor.config 1)
      (Registers.swept_zero opened w).symm
    carries := Bus.carries_zero h.rests w }

section DataCycle

variable (h : m.Amid r old w k) (level : Bool)
include h

/-- A word that the bus has not latched yet may still be any. -/
theorem Amid.registers_eq : m.processor.registers =
    (r.swept m.processor.config (m.bus.latched old w k) k).timed m.processor.config (k + 1) := by
  rw [h.registers]
  unfold Bus.latched
  split
  · next zero => subst zero; rw [Registers.swept_zero h.opened, Registers.swept_zero h.opened]
  · rfl

theorem Amid.moves :
    m.bus.Moves (r.traffic m.processor.config) old w k
      (m.bus.cycle ((r.traffic m.processor.config).line k)) :=
  h.carries.moves h.inside h.fits

theorem Amid.lines : m.processor.registers.drive m.processor.config =
    .ok ((r.traffic m.processor.config).line k) := by
  rw [h.registers]
  exact Registers.drive_swept (h.width ▸ h.inside) h.opened w

/-- A data cycle takes up the record that the register file's theory says. -/
theorem Amid.clocked {next : Registers}
    (done : ∀ b, (r.traffic m.processor.config = .input →
        test 0 b = test k (m.bus.latched old w k)) →
      m.processor.registers.transition m.processor.config b level = .ok next) :
    m.clocked level = {
      state := {
        processor :=
          { m.processor.commit ((r.traffic m.processor.config).line k) next with irq := level }
        bus := (m.bus.cycle ((r.traffic m.processor.config).line k)).bus }
      events := (m.bus.cycle ((r.traffic m.processor.config).line k)).events ++
        (m.processor.commit ((r.traffic m.processor.config).line k) next).entered
          m.processor.registers.state
      status := .ok (if next.state == .halt then .halted else .normal) } := by
  obtain ⟨b, reply, silent, arrives⟩ := h.moves.reply
  refine clocked_eq h.running h.lines (Traffic.enables_line_le _ k) reply ?_ (done b ?_)
  · intro asked
    rcases silent with zero | input
    · exact zero
    · simp [input, Traffic.line, Signals.input] at asked
  · intro input
    rw [arrives input, Bits.test_zero_bit]

/-- A data cycle that another one follows. -/
theorem Amid.clocked_data (more : k + 1 < m.bus.width) :
    (m.clocked level).state.Amid (r.latched m.processor.config level) old
        (m.bus.latched old w k) (k + 1) ∧
      (m.clocked level).state.processor.config = m.processor.config ∧
      (m.clocked level).state.bus =
        (m.bus.cycle ((r.traffic m.processor.config).line k)).bus ∧
      (m.clocked level).events =
        (m.bus.cycle ((r.traffic m.processor.config).line k)).events ∧
      (m.clocked level).state.processor.signals = (r.traffic m.processor.config).line k := by
  have moves := h.moves
  rw [h.clocked level fun b arrives => by
    rw [h.registers_eq]
    exact Registers.transition_data h.opened arrives level (h.width ▸ more)]
  refine ⟨?_, rfl, rfl, List.append_nil _, rfl⟩
  exact {
    running := h.running
    width := moves.width.trans h.width
    inside := moves.width.symm ▸ more
    opened := h.opened.latched level
    aligned := h.aligned.latched level
    fits := moves.width.symm ▸ h.fits
    registers := rfl
    carries := moves.carries }

/-- The last cycle of a state. -/
theorem Amid.clocked_last (last : k + 1 = m.bus.width) :
    (m.clocked level).state.Ready ∧
      (m.clocked level).state.processor.config = m.processor.config ∧
      (m.clocked level).state.processor.registers =
        ((r.latched m.processor.config level).swept m.processor.config (m.bus.latched old w k)
          m.processor.config.width).entering m.processor.config ∧
      (m.clocked level).state.bus =
        (m.bus.cycle ((r.traffic m.processor.config).line k)).bus ∧
      (m.clocked level).events =
        (m.bus.cycle ((r.traffic m.processor.config).line k)).events ++
          (m.clocked level).state.processor.entered r.state ∧
      (m.clocked level).state.processor.signals = (r.traffic m.processor.config).line k := by
  have moves := h.moves
  have eq : k + 1 = m.processor.config.width := last.trans h.width
  have opened := h.opened.latched level
  have state : m.processor.registers.state = r.state := by
    rw [h.registers]
    exact Registers.state_swept (h.width ▸ h.inside) w r
  have carries : (m.bus.cycle ((r.traffic m.processor.config).line k)).bus.Carries
      (r.traffic m.processor.config) old (m.bus.latched old w k)
      (m.bus.cycle ((r.traffic m.processor.config).line k)).bus.width := by
    rw [moves.width, ← last]
    exact moves.carries
  have finish := carries.finish (moves.width.symm ▸ h.fits)
  have aligned := (h.aligned.latched level).entering opened (m.bus.latched old w k)
  rw [h.clocked level fun b arrives => by
    rw [h.registers_eq]
    exact Registers.transition_last h.opened arrives level eq]
  rw [eq, state]
  refine ⟨?_, rfl, rfl, rfl, rfl, rfl⟩
  exact {
    running := h.running
    width := moves.width.trans h.width
    coherent := (Registers.coherent_swept opened _ le_rfl).entering
      (Registers.follows_swept opened _)
    timed := rfl
    aligned := by
      rw [finish.2, moves.width, h.width]
      exact aligned
    fits := by
      rw [finish.2]
      exact Traffic.fits_leaves (moves.width.symm ▸ h.fits) _
    rests := finish.1 }

end DataCycle

/-! ## A whole state -/

section

variable (h : m.Ready) (level : Nat → Bool)
include h

theorem Ready.amid_run (lt : k < m.bus.width) :
    (m.run level (k + 1)).Amid (m.processor.registers.opening m.processor.config level k)
        m.bus.address (m.bus.read m.bus.address).1 k ∧
      (m.run level (k + 1)).processor.config = m.processor.config ∧
      (m.run level (k + 1)).bus = Bus.carried (m.traffic level) k m.bus ∧
      m.told level (k + 1) = Bus.reports (m.traffic level) k m.bus := by
  induction k with
  | zero =>
    obtain ⟨amid, config, bus, events, -⟩ := h.clocked (level 0) (m.bus.read m.bus.address).1
    refine ⟨?_, config, bus, ?_⟩
    · rwa [Registers.opening_zero]
    · exact events
  | succ k ih =>
    obtain ⟨amid, config, bus, events⟩ := ih (Nat.lt_of_succ_lt lt)
    have width : (m.run level (k + 1)).bus.width = m.bus.width := by
      rw [amid.width, config, h.width]
    obtain ⟨next, config', bus', events', -⟩ :=
      amid.clocked_data (level (k + 1)) (by rw [width]; exact lt)
    have traffic : (m.processor.registers.opening m.processor.config level k).traffic
        (m.run level (k + 1)).processor.config = m.traffic level := by
      rw [config]
      rfl
    rw [traffic, bus] at bus' events'
    -- What the interrupt line has raised so far goes into the record that the state began with.
    rw [config, ← Registers.opening_succ] at next
    rw [bus, Bus.latched_carried] at next
    exact ⟨next, config'.trans config, bus', congrArg₂ _ events events'⟩

/-- Between the first cycle and the last the machine stays in its state. -/
theorem Ready.state_run (lt : k < m.bus.width) :
    (m.run level (k + 1)).processor.registers.state = m.processor.registers.state ∧
      (m.run level (k + 1)).processor.registers.first = false := by
  obtain ⟨amid, config, -, -⟩ := h.amid_run level lt
  rw [amid.registers]
  refine ⟨?_, rfl⟩
  rw [config]
  exact (Registers.state_swept (h.width ▸ lt) _ _).trans (Registers.setUp_frame ..).1

/-- One state takes a ready machine to a ready machine. -/
theorem Ready.stage :
    (m.passed level).Ready ∧
      (m.passed level).processor.config = m.processor.config ∧
      (m.passed level).processor.registers =
        m.processor.registers.passed m.processor.config level (m.bus.read m.bus.address).1 ∧
      (m.passed level).bus.address =
        (m.traffic level).leaves m.bus.width m.bus.address ∧
      (m.passed level).bus.reset =
        (m.bus.reset.carryOut m.bus.address (m.traffic level)).1 ∧
      m.told level (m.processor.config.width + 1) =
        (m.bus.reset.carryOut m.bus.address (m.traffic level)).2 ++
          (m.passed level).processor.entered
            m.processor.registers.state := by
  obtain ⟨k, eq⟩ := Nat.exists_eq_add_one.2 m.processor.config.width_pos
  have lt : k < m.bus.width := by rw [h.width]; omega
  obtain ⟨amid, config, bus, events⟩ := h.amid_run level lt
  have width : (m.run level (k + 1)).bus.width = k + 1 := by rw [amid.width, config, eq]
  obtain ⟨ready, config', registers, bus', events', -⟩ :=
    amid.clocked_last (level (k + 1)) width.symm
  have traffic : (m.processor.registers.opening m.processor.config level k).traffic
      (m.run level (k + 1)).processor.config = m.traffic level := by
    rw [config]
    rfl
  have state : (m.processor.registers.opening m.processor.config level k).state =
      m.processor.registers.state := (Registers.setUp_frame ..).1
  have whole (word : Int) (output : m.traffic level = .output word) :
      Word.Fits m.bus.width word := by
    have fits := amid.opened.coherent.words.acc
    rw [← traffic] at output
    rwa [Registers.traffic_eq_output output, h.width, ← congrArg Config.width config]
  obtain ⟨address, devices, reports⟩ :=
    Bus.carried_width h.rests h.fits (h.width ▸ m.processor.config.width_pos) whole
  rw [h.width, eq] at address devices reports
  rw [traffic, bus] at bus' events'
  rw [config, bus, Bus.latched_carried, ← Registers.opening_succ, eq] at registers
  rw [passed, Registers.passed, eq]
  refine ⟨ready, config'.trans config, registers, ?_, ?_, ?_⟩
  · rw [h.width, eq]
    exact (congrArg Bus.address bus').trans address
  · exact (congrArg Bus.reset bus').trans devices
  · rw [← state, ← reports, Bus.reports, List.append_assoc, ← events]
    exact congrArg _ events'

end

/-! ## Everything a machine can come to -/

/-- The machine is at the first cycle of a state or amid one. -/
def Underway (m : Machine Bus) : Prop :=
  m.Ready ∨ ∃ r old w k, m.Amid r old w k

theorem Ready.of_act (h : m.Ready) {action : Action} (spares : action.sparesRegisters = true)
    (idle : action ≠ .clock) : (m.act action).Ready := by
  cases action with
  | clock => exact absurd rfl idle
  | overwrite => simp [Action.sparesRegisters] at spares
  | interrupt | feed | setSwitches => exact { h with }
  | readWord address =>
    obtain ⟨peripherals, read⟩ := m.bus.exists_read_eq address
    simp only [act, read]
    exact { h with }
  | writeWord address value =>
    obtain ⟨memory, peripherals, written⟩ := m.bus.exists_write_eq address value
    simp only [act, written]
    exact { h with }

theorem Amid.of_act (h : m.Amid r old w k) {action : Action}
    (spares : action.sparesRegisters = true) (idle : action ≠ .clock) :
    (m.act action).Amid r old w k := by
  cases action with
  | clock => exact absurd rfl idle
  | overwrite => simp [Action.sparesRegisters] at spares
  | interrupt | feed | setSwitches => exact { h with }
  | readWord address =>
    obtain ⟨peripherals, read⟩ := m.bus.exists_read_eq address
    simp only [act, read]
    exact { h with }
  | writeWord address value =>
    obtain ⟨memory, peripherals, written⟩ := m.bus.exists_write_eq address value
    simp only [act, written]
    exact { h with }

/-- What a machine comes to when nobody writes its registers. -/
theorem Underway.of_act (h : m.Underway) {action : Action}
    (spares : action.sparesRegisters = true) : (m.act action).Underway := by
  by_cases clock : action = .clock
  · have step : m.act action = (m.clocked m.processor.irq).state := by rw [clock]; rfl
    rw [step]
    rcases h with ready | ⟨r, old, w, k, amid⟩
    · exact Or.inr ⟨_, _, 0, 0, (ready.clocked m.processor.irq 0).1⟩
    · rcases Nat.lt_or_eq_of_le (Nat.succ_le_of_lt amid.inside) with more | last
      · exact Or.inr ⟨_, _, _, _, (amid.clocked_data m.processor.irq more).1⟩
      · exact Or.inl (amid.clocked_last m.processor.irq last).1
  · rcases h with ready | ⟨r, old, w, k, amid⟩
    · exact Or.inl (ready.of_act spares clock)
    · exact Or.inr ⟨r, old, w, k, amid.of_act spares clock⟩

theorem underway_after (h : m.Underway) {actions : List Action}
    (spares : ∀ action ∈ actions, action.sparesRegisters = true) : (m.after actions).Underway := by
  induction actions generalizing m with
  | nil => exact h
  | cons action rest ih =>
    exact ih (h.of_act (spares action List.mem_cons_self)) fun other member =>
      spares other (List.mem_cons_of_mem action member)

/-- A run is a session that moves the interrupt line before every clock cycle. -/
theorem run_eq_after (level : Nat → Bool) (n : Nat) (m : Machine Bus) : m.run level n =
    m.after ((List.range n).flatMap fun k => [.interrupt (level k), .clock]) := by
  induction n with
  | zero => rfl
  | succ n ih =>
    rw [List.range_succ, List.flatMap_append, after, List.foldl_append, run, ih]
    rfl

theorem underway_clocked (h : m.Underway) (level : Bool) : (m.clocked level).state.Underway := by
  have raised : (m.act (.interrupt level)).Underway := h.of_act rfl
  exact raised.of_act (show Action.clock.sparesRegisters = true from rfl)

theorem underway_run (h : m.Underway) (level : Nat → Bool) (n : Nat) :
    (m.run level n).Underway := by
  induction n with
  | zero => exact h
  | succ n ih => exact underway_clocked ih (level n)

theorem sound_clocked (h : m.processor.Sound) (level : Bool) :
    (m.clocked level).state.processor.Sound ∧
      (m.clocked level).state.processor.config = m.processor.config := by
  obtain ⟨sound, config⟩ := sound_act h (.interrupt level)
  obtain ⟨sound', config'⟩ := sound_act sound .clock
  exact ⟨sound', config'.trans config⟩

theorem sound_run (h : m.processor.Sound) (level : Nat → Bool) (n : Nat) :
    (m.run level n).processor.Sound ∧
      (m.run level n).processor.config = m.processor.config := by
  induction n with
  | zero => exact ⟨h, rfl⟩
  | succ n ih =>
    obtain ⟨sound, config⟩ := sound_clocked ih.1 (level n)
    exact ⟨sound, config.trans ih.2⟩

/-- An eight-bit machine with `LITERAL 3`, which both variants encode alike, at address zero. -/
def literalThree (variant : Variant) : Machine Bus :=
  { processor := { config := { width := 8, variant } }
    bus :=
      { width := 8, memory := { width := 8, size := 8, cells := #[0xA3] }, peripherals := none } }

end Machine

end SerialMachine
