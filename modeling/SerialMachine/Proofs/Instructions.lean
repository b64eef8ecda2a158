import SerialMachine.Proofs.Outcomes

/-!
# One instruction on the machine

An instruction begins with a fetch, whose last cycle decides what becomes of it: a halt, a restart,
the dispatch of an interrupt, or its execution. Main statements: a clocked machine of either variant
performs exactly the step of its word machine, in whichever cycles the interrupt line is high.
-/

namespace SerialMachine

open Bits (bit test)

namespace Machine

variable {m : Machine Bus} {level : Nat → Bool} {reports : List Event}

/-! ## A whole instruction -/

/-- An instruction fetch, wherever it has found the word `w`, has left the record `s` and a machine
that is ready for the next state, which remains to be chosen. Programs see `v`. -/
structure Fetched (level : Nat → Bool) (reports : List Event) (m : Machine Bus) (w : Int)
    (s : Registers) (v : WordMachine) : Prop where
  unsettled : ∀ k, 0 < k → k < m.processor.config.width + 1 →
    (m.run level k).processor.settled = false
  ready : (m.passed level).Ready
  config : (m.passed level).processor.config = m.processor.config
  sees : s.view v.bus v.reports = v
  view : (m.passed level).view (m.seen level reports) = v
  registers : (m.passed level).processor.registers =
    (Cycle.fetchChoice m.processor.config (bit (m.processor.config.width - 1) w) s).entering
      m.processor.config
  zero : Flag.isSet m.processor.config.variant .zero s.flags = (s.acc == 0)
  operand : s.operand = (m.processor.config.decode w).operand
  selected : s.selected m.processor.config = (m.processor.config.decode w).operation
  high : test (m.processor.config.width - 1) w =
    !decide ((m.processor.config.decode w).opcode < 8)
  irq : s.irq = (m.processor.registers.irq ||
    (m.processor.config.extended && raised level 0 (m.processor.config.width + 1)) ||
    (m.processor.config.extended && v.due m.processor.config))

/-- The instruction fetch of a machine has brought in the word `w` from where the program counter
points. -/
structure Fetches (level : Nat → Bool) (reports : List Event) (m : Machine Bus) (w : Int)
    (s : Registers) (v : WordMachine) : Prop extends m.Fetched level reports w s v where
  fetch : (m.view reports).fetch m.processor.config = (w, v)
  plain : s.dispatch = false

theorem Ready.exists_fetches (h : m.Ready) (begins : m.processor.atFetch = true)
    (level : Nat → Bool) (reports : List Event) : ∃ w s v, m.Fetches level reports w s v := by
  simp only [Processor.atFetch, Bool.and_eq_true, beq_iff_eq, Bool.not_eq_true'] at begins
  obtain ⟨⟨hs, -⟩, hd⟩ := begins
  obtain ⟨ready, config, registers, -, -, -⟩ := h.stage level
  have addressee : m.processor.registers.addressee = some m.processor.registers.pc := by
    simp [Registers.addressee, hs, hd]
  have traffic := traffic_of_moves level (by rw [addressee]; rfl)
  rw [hs, if_neg (by decide)] at traffic
  have address := h.aligned.addressed _ addressee
  have seen := h.view_passed level reports
  rw [Registers.passed_fetch h.coherent.words h.coherent.opcode hs hd] at registers seen
  rw [traffic, Registers.view_fetchChoice] at seen
  generalize hl : m.processor.registers.latched m.processor.config
    (raised level 0 (m.processor.config.width + 1)) = l at registers seen
  have words : l.Words m.processor.config.width := by
    rw [← hl]
    exact (h.coherent.latched _).words
  obtain ⟨operand, selected, high⟩ := Registers.arrived_decode h.fits_read l
  obtain ⟨dispatch, zero, irq⟩ := Registers.arrived_latches words (m.bus.read m.bus.address).1
  refine ⟨_, l.arrived m.processor.config (m.bus.read m.bus.address).1, _,
    { unsettled := fun _ pos lt => h.unsettled level (by simp [hs]) pos lt, ready, config
      sees := rfl, view := seen, registers, zero, operand, selected, high
      irq := ?_, fetch := ?_, plain := ?_ }⟩
  · rw [irq, ← hl]
    rfl
  · rw [Registers.view_arrived words, ← hl, view, WordMachine.fetch,
      show (m.processor.registers.view m.bus.reset reports).pc = m.bus.address from address,
      Registers.view_read]
    rfl
  · rw [dispatch, ← hl]
    exact hd

/-! ## The choice of what follows the fetch -/

section

variable {w : Int} {s : Registers} {v : WordMachine} (f : m.Fetched level reports w s v)
include f

theorem Fetched.isSet (flag : Flag) : Flag.isSet m.processor.config.variant flag s.flags =
    v.isSet m.processor.config flag := by
  rw [← f.sees]
  rfl

/-- The fetch leaves the rest of the instruction to the states after it. -/
theorem Fetched.performs_add (unsettled : (m.passed level).processor.settled = false)
    {cycles : Nat} {outcome : WordMachine.Outcome}
    (rest : (m.passed level).Performs (m.later level) cycles (m.seen level reports) outcome) :
    m.Performs level (m.processor.config.width + 1 + cycles) reports outcome :=
  Performs.after f.unsettled unsettled rest

theorem Fetched.performs_halt (halt : v.isSet m.processor.config .halt = true) :
    m.Performs level (m.processor.config.width + 1) reports
      { machine := v, pending := s.irq, halted := true } := by
  have registers := f.registers
  simp only [Cycle.fetchChoice, f.isSet, halt, if_true] at registers
  have halted : (m.passed level).processor.halted = true := by
    rw [Processor.halted, registers]
    rfl
  have away : (m.passed level).processor.atFetch = false := by
    rw [Processor.atFetch, registers]
    rfl
  have latch : (m.passed level).processor.registers.irq = s.irq := by
    rw [registers]
    rfl
  exact ⟨Nat.succ_pos _, f.unsettled, halted, away, f.view, latch⟩

theorem Fetched.performs_restart (halt : v.isSet m.processor.config .halt = false)
    (reset : v.isSet m.processor.config .reset = true) :
    m.Performs level (m.processor.config.width + 1 + (m.processor.config.width + 1)) reports {
      machine := v.restart
      pending := m.processor.config.extended &&
        raised level (m.processor.config.width + 1 + 1) m.processor.config.width
      halted := false } := by
  have registers := f.registers
  simp only [Cycle.fetchChoice, f.isSet, halt, reset, Bool.false_eq_true, if_false, if_true]
    at registers
  have next : (m.passed level).processor.registers.state = .reset := by
    rw [registers]
    rfl
  have rest := f.ready.performs_reset (m.later level) (m.seen level reports) next
  rw [f.view, f.config, raised_later] at rest
  exact f.performs_add (Processor.settled_eq_false (by simp [next]) (by simp [next])) rest

theorem Fetched.performs_dispatch (extended : m.processor.config.extended = true)
    (halt : v.isSet m.processor.config .halt = false)
    (reset : v.isSet m.processor.config .reset = false)
    (served : (v.isSet m.processor.config .interruptEnable && s.irq) = true) :
    m.Performs level (m.processor.config.width + 1 + (m.processor.config.width + 1)) reports {
      machine := v.dispatch
      pending := raised level (m.processor.config.width + 1 + 1) m.processor.config.width
      halted := false } := by
  have registers := f.registers
  simp only [Cycle.fetchChoice, f.isSet, halt, reset, extended, served, Bool.false_eq_true,
    if_false, if_true] at registers
  have next : (m.passed level).processor.registers.state = .fetch := by
    rw [registers]
    rfl
  have going : (m.passed level).processor.registers.dispatch = true := by
    rw [registers]
    rfl
  have rest := f.ready.performs_dispatch (m.later level) (m.seen level reports) next going
  rw [f.view, f.config, raised_later, extended, Bool.true_and] at rest
  refine f.performs_add ?_ rest
  simp [Processor.settled, Processor.atFetch, Processor.halted, next, going]

/-- An instruction that gets its turn runs on, with the requests of the interrupt line and the timer
in the latch. -/
theorem Fetched.runsOn {choice : State} (works : choice = .execute ∨ choice = .indirect)
    (chosen : Cycle.fetchChoice m.processor.config (bit (m.processor.config.width - 1) w) s =
      { s with choice }) {next : WordMachine}
    (rest : (m.passed level).RunsOn (m.later level) (m.seen level reports) next) :
    ∃ cycles, m.Performs level cycles reports {
      machine := next
      pending := m.processor.registers.irq ||
        (m.processor.config.extended && v.due m.processor.config) ||
        (m.processor.config.extended && raised level 0 cycles)
      halted := false } := by
  obtain ⟨cycles, rest⟩ := rest
  have registers := f.registers
  rw [chosen] at registers
  have state : (m.passed level).processor.registers.state = choice := by
    rw [registers]
    rfl
  have latch : (m.passed level).processor.registers.irq = s.irq := by
    rw [registers]
    rfl
  refine ⟨m.processor.config.width + 1 + cycles, ?_⟩
  have total : raised level 0 (m.processor.config.width + 1 + cycles) =
      (raised level 0 (m.processor.config.width + 1) ||
        raised level (m.processor.config.width + 1) cycles) := by
    rw [raised_add, zero_add]
  rw [latch, f.irq, f.config, raised_later, add_zero, Bool.or_right_comm _ (_ && raised _ _ _),
    Bool.or_assoc, ← Bool.and_or_distrib_left, ← total] at rest
  refine f.performs_add (Processor.settled_eq_false ?_ ?_) rest
  · rcases works with rfl | rfl <;> simp [state]
  · rcases works with rfl | rfl <;> simp [state]

theorem Fetched.runsOn_execute
    (chosen : Cycle.fetchChoice m.processor.config (bit (m.processor.config.width - 1) w) s =
      { s with choice := .execute }) :
    ∃ cycles, m.Performs level cycles reports {
      machine := v.execute m.processor.config (m.processor.config.decode w).operation
        (m.processor.config.decode w).operand
      pending := m.processor.registers.irq ||
        (m.processor.config.extended && v.due m.processor.config) ||
        (m.processor.config.extended && raised level 0 cycles)
      halted := false } := by
  refine f.runsOn (Or.inl rfl) chosen ?_
  have registers := f.registers
  rw [chosen] at registers
  have rest := f.ready.runsOn_execute (m.later level) (m.seen level reports) f.config
    (by rw [registers]; rfl) (by rw [registers]; exact f.zero)
  rw [f.view, registers] at rest
  rw [← f.operand, ← f.selected]
  exact rest

theorem Fetched.runsOn_indirect
    (chosen : Cycle.fetchChoice m.processor.config (bit (m.processor.config.width - 1) w) s =
      { s with choice := .indirect }) :
    ∃ cycles, m.Performs level cycles reports {
      machine := (v.read (m.processor.config.decode w).operand).2.execute m.processor.config
        (m.processor.config.decode w).operation (v.read (m.processor.config.decode w).operand).1
      pending := m.processor.registers.irq ||
        (m.processor.config.extended && v.due m.processor.config) ||
        (m.processor.config.extended && raised level 0 cycles)
      halted := false } := by
  refine f.runsOn (Or.inr rfl) chosen ?_
  have registers := f.registers
  rw [chosen] at registers
  have rest := f.ready.runsOn_indirect (m.later level) (m.seen level reports) f.config
    (by rw [registers]; rfl) (by rw [registers]; exact f.zero)
  rw [f.view, registers] at rest
  rw [← f.operand, ← f.selected]
  exact rest

end

/-! ## Both variants -/

/-- At the first cycle of a state a machine is ready. -/
theorem Underway.ready (h : m.Underway) (first : m.processor.registers.first = true) : m.Ready := by
  rcases h with ready | ⟨r, old, w, k, amid⟩
  · exact ready
  · rw [amid.registers] at first
    simp [Registers.timed] at first

theorem ready_of_atFetch (width : m.bus.width = m.processor.config.width) {actions : List Action}
    (spares : ∀ action ∈ actions, action.sparesRegisters = true)
    (begins : (m.reset.1.after actions).processor.atFetch = true) :
    (m.reset.1.after actions).Ready ∧
      (m.reset.1.after actions).processor.config = m.processor.config := by
  have underway := underway_after (Or.inl (ready_reset width)) spares
  simp only [Processor.atFetch, Bool.and_eq_true, beq_iff_eq] at begins
  exact ⟨underway.ready begins.1.2, (sound_after m.sound_reset actions).2⟩

/-- Whenever a machine of the base variant is about to fetch an instruction, it performs the step of
its word machine, in whichever cycles the interrupt line is high. -/
theorem performs_baseStep (m : Machine Bus) (base : m.processor.config.variant = .base)
    (width : m.bus.width = m.processor.config.width) (actions : List Action)
    (spares : ∀ action ∈ actions, action.sparesRegisters = true)
    (begins : (m.reset.1.after actions).processor.atFetch = true) (level : Nat → Bool) :
    ∃ cycles, (m.reset.1.after actions).Performs level cycles []
      (WordMachine.baseStep m.processor.config ((m.reset.1.after actions).view [])) := by
  obtain ⟨ready, config⟩ := ready_of_atFetch width spares begins
  rw [← config] at base ⊢
  generalize m.reset.1.after actions = m at *
  have plain := (Config.extended_eq_false_iff _).2 base
  have unasked := (ready.coherent.plain plain).2
  obtain ⟨w, s, v, f⟩ := ready.exists_fetches begins level []
  have high : test 0 (bit (m.processor.config.width - 1) w) =
      !decide ((m.processor.config.decode w).opcode < 8) := by
    rw [Bits.test_zero_bit, f.high]
  have quiet : s.irq = false := by simp [f.irq, unasked, plain]
  rw [WordMachine.baseStep, f.fetch]
  simp only
  cases halt : v.isSet m.processor.config .halt with
  | true =>
    have halts := f.performs_halt halt
    rw [quiet] at halts
    exact ⟨_, halts⟩
  | false =>
    cases reset : v.isSet m.processor.config .reset with
    | true =>
      have restarts := f.performs_restart halt reset
      rw [plain] at restarts
      exact ⟨_, restarts⟩
    | false =>
      cases indirect : v.isSet m.processor.config .indirect &&
          decide ((m.processor.config.decode w).opcode < 8) with
      | true =>
        have runs := f.runsOn_indirect (by
          simp [Cycle.fetchChoice, f.isSet, halt, reset, plain, high, indirect])
        simpa [plain, unasked] using runs
      | false =>
        have runs := f.runsOn_execute (by
          simp [Cycle.fetchChoice, f.isSet, halt, reset, plain, high, indirect])
        simpa [plain, unasked] using runs

/-- The first instruction after the nine cycles of the reset state. -/
theorem performs_baseStep_literal :
    ((literalThree .base).reset.1.after (List.replicate 9 .clock)).processor.atFetch = true ∧
      ∃ cycles, ((literalThree .base).reset.1.after (List.replicate 9 .clock)).Performs
        (fun k => k == 5) cycles []
        (WordMachine.baseStep (literalThree .base).processor.config
          (((literalThree .base).reset.1.after (List.replicate 9 .clock)).view [])) :=
  ⟨by decide, performs_baseStep (literalThree .base) rfl rfl _ (by decide) (by decide) _⟩

/-- Whenever a machine of the extended variant is about to fetch an instruction, it performs the
step of its word machine, with an interrupt line that is free to change in every cycle. -/
theorem performs_extendedStep (m : Machine Bus)
    (extended : m.processor.config.variant = .extended)
    (width : m.bus.width = m.processor.config.width) (actions : List Action)
    (spares : ∀ action ∈ actions, action.sparesRegisters = true)
    (begins : (m.reset.1.after actions).processor.atFetch = true) (level : Nat → Bool) :
    ∃ cycles, (m.reset.1.after actions).Performs level cycles []
      (WordMachine.extendedStep m.processor.config level cycles
        ((m.reset.1.after actions).view [])
        (m.reset.1.after actions).processor.registers.irq) := by
  obtain ⟨ready, config⟩ := ready_of_atFetch width spares begins
  rw [← config] at extended ⊢
  generalize m.reset.1.after actions = m at *
  have extended := (Config.extended_eq_true_iff _).2 extended
  obtain ⟨w, s, v, f⟩ := ready.exists_fetches begins level []
  have asked : s.irq = (m.processor.registers.irq ||
      v.due m.processor.config ||
      raised level 0 (m.processor.config.width + 1)) := by
    rw [f.irq, extended, Bool.true_and, Bool.true_and, Bool.or_right_comm]
  have lasting : m.processor.config.width + 1 + (m.processor.config.width + 1) -
      m.processor.config.width = m.processor.config.width + 1 + 1 := by
    omega
  simp only [WordMachine.extendedStep, f.fetch]
  cases halt : v.isSet m.processor.config .halt with
  | true =>
    have halts := f.performs_halt halt
    rw [asked] at halts
    exact ⟨_, halts⟩
  | false =>
    cases reset : v.isSet m.processor.config .reset with
    | true =>
      have restarts := f.performs_restart halt reset
      rw [extended, Bool.true_and, ← lasting] at restarts
      exact ⟨_, restarts⟩
    | false =>
      cases served : v.isSet m.processor.config .interruptEnable && s.irq with
      | true =>
        have dispatches := f.performs_dispatch extended halt reset served
        rw [← lasting] at dispatches
        rw [asked] at served
        simp only [served, Bool.false_eq_true, if_false, if_true]
        exact ⟨_, dispatches⟩
      | false =>
        have runs := f.runsOn_execute (by
          simp [Cycle.fetchChoice, f.isSet, halt, reset, extended, served])
        rw [asked] at served
        simp only [extended, Bool.true_and] at runs
        simp only [served, Bool.false_eq_true, if_false]
        exact runs

/-- The first instruction after the nine cycles of the reset state, with a request in cycle five. -/
theorem performs_extendedStep_literal :
    ((literalThree .extended).reset.1.after (List.replicate 9 .clock)).processor.atFetch = true ∧
      ∃ cycles, ((literalThree .extended).reset.1.after (List.replicate 9 .clock)).Performs
        (fun k => k == 5) cycles []
        (WordMachine.extendedStep (literalThree .extended).processor.config (fun k => k == 5) cycles
          (((literalThree .extended).reset.1.after (List.replicate 9 .clock)).view [])
          ((literalThree .extended).reset.1.after
            (List.replicate 9 .clock)).processor.registers.irq) :=
  ⟨by decide, performs_extendedStep (literalThree .extended) rfl rfl _ (by decide) (by decide) _⟩

end Machine

end SerialMachine
