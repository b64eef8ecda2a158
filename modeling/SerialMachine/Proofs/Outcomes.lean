import SerialMachine.Proofs.Effects

/-!
# The rest of an instruction

When the instruction word is there, the machine goes through up to five more states. Each of them,
the last one first, is compared with what is left of the instruction on the word machine. Main
statement: from the execute state on, programs see the whole effect of the operation at the next
fetch and not before.
-/

namespace SerialMachine

open Bits (bit drop keep test weight)

/-- Whether an event is about the bus and the devices behind it. -/
def Event.ofBus : Event → Bool
  | .wordRead .. | .wordWritten .. | .unmappedMemoryRead _ | .unmappedMemoryWrite _ => true
  | .unmappedSpaceRead _ | .unmappedSpaceWrite _ => true
  | .unmappedPeripheralRead _ | .unmappedPeripheralWrite _ | .switchWrite | .transmitted _ => true
  | _ => false

/-- Whether a fetch of an instruction is about to begin or the machine stands in a halt. -/
def Processor.settled (p : Processor) : Bool :=
  p.atFetch || p.halted

theorem Processor.settled_eq_false {p : Processor} (fetch : p.registers.state ≠ .fetch)
    (halt : p.registers.state ≠ .halt) : p.settled = false := by
  simp [settled, atFetch, halted, fetch, halt]

namespace Bus

theorem ofBus_read (bus : Bus) (address : Int) :
    ∀ event ∈ (bus.read address).2.2, event.ofBus = true := by
  unfold read
  split
  · split
    · simp [Event.ofBus]
    · simp only [Peripherals.read]
      split
      · split <;> simp
      · simp
      · simp
      · simp [Event.ofBus]
  · simp only [Memory.read]
    split <;> simp [Event.ofBus]

theorem ofBus_write (bus : Bus) (address value : Int) :
    ∀ event ∈ (bus.write address value).2, event.ofBus = true := by
  unfold write
  simp only
  split
  · split
    · simp [Event.ofBus]
    · simp only [Peripherals.write]
      split <;> simp [Event.ofBus]
  · simp only [Memory.write]
    split <;> simp [Event.ofBus]

theorem ofBus_cycle (bus : Bus) (signals : Signals) :
    ∀ event ∈ (bus.cycle signals).events, event.ofBus = true := by
  unfold cycle
  split
  · simp
  · split_ifs
    · simp
    · have begun : ∀ event ∈ bus.beginRead.2, event.ofBus = true := by
        unfold beginRead
        split
        · simp
        · exact ofBus_read bus bus.address
      unfold shiftRead
      simp only
      split
      · simpa [Event.ofBus, or_imp, forall_and] using begun
      · exact begun
    · unfold shiftWrite
      simp only
      split
      · simpa [Event.ofBus, or_imp, forall_and] using ofBus_write _ _ _
      · simp
    · simp

theorem ofBus_carryOut (bus : Bus) (address : Int) (traffic : Traffic) :
    ∀ event ∈ (bus.carryOut address traffic).2, event.ofBus = true := by
  intro event member
  cases traffic with
  | quiet | halted | address => simp [carryOut] at member
  | input =>
    simp only [carryOut, readWord, List.mem_append, List.mem_singleton] at member
    rcases member with before | rfl
    · exact ofBus_read bus address event before
    · rfl
  | output word =>
    simp only [carryOut, writeWord, List.mem_append, List.mem_singleton] at member
    rcases member with before | rfl
    · exact ofBus_write bus address word event before
    · rfl

end Bus

theorem Processor.filter_entered (p : Processor) (previous : State) :
    (p.entered previous).filter Event.ofBus = [] := by
  unfold entered
  split_ifs <;> simp [Event.ofBus]

namespace Registers

variable (r : Registers) (bus : Bus) (reports : List Event)

theorem view_read (address : Int) :
    (r.view bus.reset reports).read address =
      ((bus.read address).1, r.view (bus.reset.carryOut address .input).1
        (reports ++ (bus.reset.carryOut address .input).2)) := by
  simp only [WordMachine.read, view, Bus.carryOut, Bus.readWord, Bus.read_reset]

theorem view_load (address : Int) :
    (r.view bus.reset reports).load address =
      { r with acc := (bus.read address).1 }.view (bus.reset.carryOut address .input).1
        (reports ++ (bus.reset.carryOut address .input).2) := by
  rw [WordMachine.load, view_read]
  rfl

theorem view_write (address value : Int) :
    (r.view bus reports).write address value =
      r.view (bus.carryOut address (.output value)).1
        (reports ++ (bus.carryOut address (.output value)).2) := rfl

end Registers

namespace Machine

/-- What programs see of a machine. -/
def view (m : Machine Bus) (reports : List Event) : WordMachine :=
  m.processor.registers.view m.bus.reset reports

/-- What the bus reports in `n` clock cycles. -/
def transfers (level : Nat → Bool) (n : Nat) (m : Machine Bus) : List Event :=
  (m.told level n).filter Event.ofBus

/-- In some number of cycles, and in no fewer, the machine comes to the fetch of an instruction or
to a halt, and that is the given outcome for a program that has seen `reports` before. -/
structure Performs (level : Nat → Bool) (cycles : Nat) (reports : List Event) (m : Machine Bus)
    (outcome : WordMachine.Outcome) : Prop where
  positive : 0 < cycles
  unsettled : ∀ k, 0 < k → k < cycles → (m.run level k).processor.settled = false
  halted : (m.run level cycles).processor.halted = outcome.halted
  atFetch : (m.run level cycles).processor.atFetch = !outcome.halted
  machine : (m.run level cycles).view (reports ++ m.transfers level cycles) = outcome.machine
  pending : (m.run level cycles).processor.registers.irq = outcome.pending

/-- The levels of the interrupt line from the next state on. -/
def later (level : Nat → Bool) (m : Machine Bus) (k : Nat) : Bool :=
  level (m.processor.config.width + 1 + k)

/-- What the bus has reported when the state that begins has passed. -/
def seen (level : Nat → Bool) (reports : List Event) (m : Machine Bus) : List Event :=
  reports ++ m.transfers level (m.processor.config.width + 1)

variable {m : Machine Bus} {level : Nat → Bool} {reports : List Event}

theorem raised_later (level : Nat → Bool) (m : Machine Bus) (start count : Nat) :
    raised (m.later level) start count =
      raised level (m.processor.config.width + 1 + start) count :=
  raised_shift ..

theorem transfers_add (level : Nat → Bool) (a b : Nat) (m : Machine Bus) :
    m.transfers level (a + b) =
      m.transfers level a ++ (m.run level a).transfers (fun k => level (a + k)) b := by
  rw [transfers, told_add, List.filter_append]
  rfl

/-! ## States in a row -/

/-- What comes after some cycles that do not end the instruction belongs to it. -/
theorem Performs.after {before cycles : Nat} {outcome : WordMachine.Outcome}
    (inside : ∀ k, 0 < k → k < before → (m.run level k).processor.settled = false)
    (unsettled : (m.run level before).processor.settled = false)
    (rest : (m.run level before).Performs (fun k => level (before + k)) cycles
      (reports ++ m.transfers level before) outcome) :
    m.Performs level (before + cycles) reports outcome where
  positive := Nat.add_pos_right before rest.positive
  unsettled := by
    intro k pos lt
    -- Inside the first cycles, right after them, and from there on.
    rcases Nat.lt_trichotomy k before with early | rfl | late
    · exact inside k pos early
    · exact unsettled
    · obtain ⟨d, rfl⟩ := Nat.exists_eq_add_of_lt late
      rw [Nat.add_assoc, run_add]
      exact rest.unsettled (d + 1) (Nat.succ_pos d) (by omega)
  halted := by rw [run_add]; exact rest.halted
  atFetch := by rw [run_add]; exact rest.atFetch
  machine := by rw [run_add, transfers_add, ← List.append_assoc]; exact rest.machine
  pending := by rw [run_add]; exact rest.pending

/-- What a state with a word transfer does on the bus. -/
theorem traffic_of_moves (level : Nat → Bool)
    (moves : m.processor.registers.addressee.isSome = true) :
    m.traffic level =
      if m.processor.registers.state = .store then .output m.processor.registers.acc
      else .input := by
  obtain ⟨addressee, acc⟩ := Registers.addressee_setUp m.processor.config
    (m.processor.registers.latched m.processor.config (level 0))
  have state := (Registers.setUp_frame m.processor.config
    (m.processor.registers.latched m.processor.config (level 0))).1
  rw [traffic, Registers.opening_zero, Registers.traffic_of_moves, state, acc]
  · rfl
  · rw [addressee]
    exact moves

section

variable (h : m.Ready) (level) (reports)
include h

/-- What programs see when a state has passed. -/
theorem Ready.view_passed :
    (m.passed level).view (m.seen level reports) =
      (m.processor.registers.passed m.processor.config level (m.bus.read m.bus.address).1).view
        (m.bus.reset.carryOut m.bus.address (m.traffic level)).1
        (reports ++ (m.bus.reset.carryOut m.bus.address (m.traffic level)).2) := by
  obtain ⟨-, -, registers, -, devices, told⟩ := h.stage level
  have all := List.filter_eq_self.2
    (Bus.ofBus_carryOut m.bus.reset m.bus.address (m.traffic level))
  rw [view, registers, devices, seen, transfers, told, List.filter_append,
    Processor.filter_entered, all, List.append_nil]

/-- What programs see when a state without a word transfer has passed. -/
theorem Ready.view_of_rests (rests : m.processor.registers.addressee = none) :
    (m.passed level).view (m.seen level reports) =
      (m.processor.registers.passed m.processor.config level (m.bus.read m.bus.address).1).view
        m.bus.reset reports := by
  have idle : m.bus.reset.carryOut m.bus.address (m.traffic level) = (m.bus.reset, []) := by
    refine Registers.carryOut_of_rests _ ?_ _ _
    rw [Registers.opening_zero, (Registers.addressee_setUp ..).1]
    exact rests
  rw [h.view_passed, idle, List.append_nil]

theorem Ready.unsettled (running : m.processor.registers.state ≠ .halt) {k : Nat} (pos : 0 < k)
    (le : k < m.processor.config.width + 1) : (m.run level k).processor.settled = false := by
  obtain ⟨k, rfl⟩ := Nat.exists_eq_add_one.2 pos
  have lt : k < m.bus.width := by
    rw [h.width]
    omega
  obtain ⟨state, first⟩ := h.state_run level lt
  simp [Processor.settled, Processor.atFetch, Processor.halted, state, first, running]

/-- The state that begins ends the instruction. -/
theorem Ready.performs (running : m.processor.registers.state ≠ .halt)
    {outcome : WordMachine.Outcome}
    (halted : (m.passed level).processor.halted = outcome.halted)
    (atFetch : (m.passed level).processor.atFetch = !outcome.halted)
    (machine : (m.passed level).view (m.seen level reports) = outcome.machine)
    (pending : (m.passed level).processor.registers.irq = outcome.pending) :
    m.Performs level (m.processor.config.width + 1) reports outcome where
  positive := Nat.succ_pos _
  unsettled := fun _ pos lt => h.unsettled level running pos lt
  halted := halted
  atFetch := atFetch
  machine := machine
  pending := pending

/-- The state that begins leaves the rest of the instruction to the states after it. -/
theorem Ready.performs_add (running : m.processor.registers.state ≠ .halt)
    (unsettled : (m.passed level).processor.settled = false) {cycles : Nat}
    {outcome : WordMachine.Outcome}
    (rest : (m.passed level).Performs (m.later level) cycles (m.seen level reports) outcome) :
    m.Performs level (m.processor.config.width + 1 + cycles) reports outcome :=
  Performs.after (fun _ pos lt => h.unsettled level running pos lt) unsettled rest

end

/-! ## The rest of an instruction -/

/-- The machine goes on to the fetch of an instruction, for which programs see `next`. Its interrupt
latch takes up what the interrupt line asks for on the way. -/
def RunsOn (level : Nat → Bool) (reports : List Event) (m : Machine Bus) (next : WordMachine) :
    Prop :=
  ∃ cycles, m.Performs level cycles reports {
    machine := next
    pending :=
      m.processor.registers.irq || (m.processor.config.extended && raised level 0 cycles)
    halted := false }

section

variable (h : m.Ready) (level) (reports)
include h

theorem Ready.runsOn (running : m.processor.registers.state ≠ .halt)
    (atFetch : (m.passed level).processor.atFetch = true)
    (latch : (m.passed level).processor.registers.irq =
      (m.processor.registers.irq ||
        (m.processor.config.extended && raised level 0 (m.processor.config.width + 1)))) :
    m.RunsOn level reports ((m.passed level).view
      (m.seen level reports)) := by
  have moving : (m.passed level).processor.halted = false := by
    simp only [Processor.atFetch, Bool.and_eq_true, beq_iff_eq] at atFetch
    simp [Processor.halted, atFetch]
  exact ⟨_, h.performs level reports running moving atFetch rfl latch⟩

theorem Ready.runsOn_add (running : m.processor.registers.state ≠ .halt)
    (unsettled : (m.passed level).processor.settled = false)
    (latch : (m.passed level).processor.registers.irq =
      (m.processor.registers.irq ||
        (m.processor.config.extended && raised level 0 (m.processor.config.width + 1))))
    {next : WordMachine}
    (rest : (m.passed level).RunsOn
      (m.later level)
      (m.seen level reports) next) :
    m.RunsOn level reports next := by
  obtain ⟨cycles, rest⟩ := rest
  have config := (h.stage level).2.1
  rw [latch, config, raised_later, add_zero, Bool.or_assoc, ← Bool.and_or_distrib_left,
    show raised level (m.processor.config.width + 1) cycles =
      raised level (0 + (m.processor.config.width + 1)) cycles by rw [zero_add],
    ← raised_add] at rest
  exact ⟨_, h.performs_add level reports running unsettled rest⟩

/-- The word that the bus would deliver is a word. -/
theorem Ready.fits_read : Word.Fits m.processor.config.width (m.bus.read m.bus.address).1 :=
  h.width ▸ m.bus.fits_read m.bus.address

theorem Ready.undispatched (other : m.processor.registers.state ≠ .fetch) :
    m.processor.registers.dispatch = false :=
  Bool.eq_false_iff.2 fun going => other (h.aligned.dispatches going)

theorem Ready.runsOn_advance {config : Config} (same : m.processor.config = config)
    (hs : m.processor.registers.state = .advance) :
    m.RunsOn level reports ((m.view reports).advance config) := by
  subst same
  obtain ⟨-, -, registers, -, -, -⟩ := h.stage level
  have plain := h.undispatched (by simp [hs])
  have view := h.view_of_rests level reports (by rw [Registers.addressee, hs])
  rw [Registers.passed_advance hs h.coherent.words] at registers view
  have done : (m.view reports).advance m.processor.config =
      (m.passed level).view (m.seen level reports) := by
    rw [view]
    rfl
  rw [done]
  refine h.runsOn level reports (by simp [hs]) ?_ ?_
  · rw [Processor.atFetch, registers]
    simp [Registers.timed, Registers.latched, plain]
  · rw [registers]
    rfl

/-- The fetch of an operand, a load and a store find the bus at the operand. -/
theorem Ready.operand_eq (moves : m.processor.registers.state = .operand ∨
      m.processor.registers.state = .load ∨ m.processor.registers.state = .store) :
    m.processor.registers.addressee = some m.processor.registers.operand ∧
      m.processor.registers.operand = m.bus.address := by
  have addressee : m.processor.registers.addressee = some m.processor.registers.operand := by
    rw [Registers.addressee]
    rcases moves with hs | hs | hs <;> rw [hs]
  exact ⟨addressee, h.aligned.addressed _ addressee⟩

theorem Ready.runsOn_load {config : Config} (same : m.processor.config = config)
    (hs : m.processor.registers.state = .load) :
    m.RunsOn level reports
      (((m.view reports).load m.processor.registers.operand).advance config) := by
  subst same
  obtain ⟨ready, config, registers, -, -, -⟩ := h.stage level
  obtain ⟨addressee, address⟩ := h.operand_eq (Or.inr (Or.inl hs))
  have traffic := traffic_of_moves level (by rw [addressee]; rfl)
  have view := h.view_passed level reports
  rw [Registers.passed_load hs h.coherent.words h.fits_read] at registers view
  rw [hs, if_neg (by decide)] at traffic
  have done : (m.view reports).load m.processor.registers.operand =
      (m.passed level).view (m.seen level reports) := by
    rw [view, traffic, Machine.view, Registers.view_load, address]
    rfl
  have next : (m.passed level).processor.registers.state = .advance := by
    rw [registers]
    rfl
  rw [done]
  refine h.runsOn_add level reports (by simp [hs]) ?_ ?_ (ready.runsOn_advance _ _ config next)
  · exact Processor.settled_eq_false (by simp [next]) (by simp [next])
  · rw [registers]
    rfl

theorem Ready.runsOn_store {config : Config} (same : m.processor.config = config)
    (hs : m.processor.registers.state = .store) :
    m.RunsOn level reports
      (((m.view reports).write m.processor.registers.operand
        m.processor.registers.acc).advance config) := by
  subst same
  obtain ⟨ready, config, registers, -, -, -⟩ := h.stage level
  obtain ⟨addressee, address⟩ := h.operand_eq (Or.inr (Or.inr hs))
  have traffic := traffic_of_moves level (by rw [addressee]; rfl)
  have view := h.view_passed level reports
  rw [Registers.passed_store hs h.coherent.words] at registers view
  rw [if_pos hs] at traffic
  have done : (m.view reports).write m.processor.registers.operand m.processor.registers.acc =
      (m.passed level).view (m.seen level reports) := by
    rw [view, traffic, Machine.view, Registers.view_write, address]
    rfl
  have next : (m.passed level).processor.registers.state = .advance := by
    rw [registers]
    rfl
  rw [done]
  refine h.runsOn_add level reports (by simp [hs]) ?_ ?_ (ready.runsOn_advance _ _ config next)
  · exact Processor.settled_eq_false (by simp [next]) (by simp [next])
  · rw [registers]
    rfl

/-- What an operation has left to the states after its execute state gets done. -/
theorem Ready.runsOn_finish {config : Config} (same : m.processor.config = config) {x : Int}
    (hs : m.processor.registers.state = .advance ∨
      (m.processor.registers.state = .load ∨ m.processor.registers.state = .store) ∧
        m.processor.registers.operand = x) :
    m.RunsOn level reports ((m.view reports).finish config m.processor.registers.state x) := by
  rcases hs with hs | ⟨hs | hs, rfl⟩
  · rw [hs]
    exact h.runsOn_advance level reports same hs
  · rw [hs]
    exact h.runsOn_load level reports same hs
  · rw [hs]
    exact h.runsOn_store level reports same hs

theorem Ready.runsOn_execute {config : Config} (same : m.processor.config = config)
    (hs : m.processor.registers.state = .execute)
    (zero : Flag.isSet config.variant .zero m.processor.registers.flags =
      (m.processor.registers.acc == 0)) :
    m.RunsOn level reports
      ((m.view reports).execute config (m.processor.registers.selected config)
        m.processor.registers.operand) := by
  subst same
  obtain ⟨ready, config, registers, -, -, -⟩ := h.stage level
  have plain := h.undispatched (by simp [hs])
  have view := h.view_of_rests level reports (by rw [Registers.addressee, hs])
  obtain ⟨follows, dispatch, irq, operand, finish⟩ := Registers.finish_passed level
    (m.bus.read m.bus.address).1 h.coherent hs zero m.bus.reset reports
  rw [← registers] at follows dispatch irq operand
  rw [← view, ← registers] at finish
  rw [Machine.view, ← finish]
  have running : m.processor.registers.state ≠ .halt := by simp [hs]
  by_cases ends : (m.passed level).processor.registers.state = .fetch
  · rw [ends]
    refine h.runsOn level reports running ?_ irq
    simp [Processor.atFetch, ends, dispatch, plain, congrArg Registers.first ready.timed,
      Registers.timed]
  · simp only [State.successors, List.mem_cons, List.not_mem_nil, or_false, ends, false_or]
      at follows
    refine h.runsOn_add level reports running ?_ irq (ready.runsOn_finish _ _ config ?_)
    · refine Processor.settled_eq_false ends ?_
      rcases follows with next | next | next <;> simp [next]
    · exact follows.imp_right fun moves => ⟨moves, operand moves⟩

theorem Ready.runsOn_operand {config : Config} (same : m.processor.config = config)
    (hs : m.processor.registers.state = .operand)
    (zero : Flag.isSet config.variant .zero m.processor.registers.flags =
      (m.processor.registers.acc == 0)) :
    m.RunsOn level reports
      (((m.view reports).read m.processor.registers.operand).2.execute config
        (m.processor.registers.selected config)
        ((m.view reports).read m.processor.registers.operand).1) := by
  subst same
  obtain ⟨ready, config, registers, -, -, -⟩ := h.stage level
  obtain ⟨addressee, address⟩ := h.operand_eq (Or.inl hs)
  have traffic := traffic_of_moves level (by rw [addressee]; rfl)
  have view := h.view_passed level reports
  rw [Registers.passed_operand hs h.coherent.words h.fits_read] at registers view
  rw [hs, if_neg (by decide)] at traffic
  have done : (m.view reports).read m.processor.registers.operand =
      ((m.bus.read m.bus.address).1, (m.passed level).view (m.seen level reports)) := by
    rw [view, traffic, Machine.view, Registers.view_read, address]
    rfl
  have next : (m.passed level).processor.registers.state = .execute := by
    rw [registers]
    rfl
  have rest := ready.runsOn_execute (m.later level) (m.seen level reports) config next
    (by rw [registers]; exact zero)
  have selected : (m.passed level).processor.registers.selected m.processor.config =
      m.processor.registers.selected m.processor.config := by
    rw [registers]
    rfl
  have operand : (m.passed level).processor.registers.operand = (m.bus.read m.bus.address).1 := by
    rw [registers]
    rfl
  rw [selected, operand] at rest
  rw [done]
  refine h.runsOn_add level reports (by simp [hs]) ?_ ?_ rest
  · exact Processor.settled_eq_false (by simp [next]) (by simp [next])
  · rw [registers]
    rfl

theorem Ready.runsOn_indirect {config : Config} (same : m.processor.config = config)
    (hs : m.processor.registers.state = .indirect)
    (zero : Flag.isSet config.variant .zero m.processor.registers.flags =
      (m.processor.registers.acc == 0)) :
    m.RunsOn level reports
      (((m.view reports).read m.processor.registers.operand).2.execute config
        (m.processor.registers.selected config)
        ((m.view reports).read m.processor.registers.operand).1) := by
  subst same
  obtain ⟨ready, config, registers, -, -, -⟩ := h.stage level
  have view := h.view_of_rests level reports (by rw [Registers.addressee, hs])
  rw [Registers.passed_indirect hs h.coherent.words] at registers view
  have next : (m.passed level).processor.registers.state = .operand := by
    rw [registers]
    rfl
  have rest := ready.runsOn_operand (m.later level) (m.seen level reports) config next
    (by rw [registers]; exact zero)
  rw [view, registers] at rest
  refine h.runsOn_add level reports (by simp [hs]) ?_ ?_ rest
  · exact Processor.settled_eq_false (by simp [next]) (by simp [next])
  · rw [registers]
    rfl

/-- A restart ends in the fetch of the word at address zero. -/
theorem Ready.performs_reset (hs : m.processor.registers.state = .reset) :
    m.Performs level (m.processor.config.width + 1) reports {
      machine := (m.view reports).restart
      pending := m.processor.config.extended && raised level 1 m.processor.config.width
      halted := false } := by
  obtain ⟨-, -, registers, -, -, -⟩ := h.stage level
  have view := h.view_of_rests level reports (by rw [Registers.addressee, hs])
  rw [Registers.passed_reset level _ hs h.coherent.words] at registers view
  refine h.performs level reports (by simp [hs]) ?_ ?_ view ?_
  · rw [Processor.halted, registers]
    rfl
  · rw [Processor.atFetch, registers]
    rfl
  · rw [registers]
    rfl

/-- A dispatch ends in the fetch of the handler's first instruction. -/
theorem Ready.performs_dispatch (hs : m.processor.registers.state = .fetch)
    (hd : m.processor.registers.dispatch = true) :
    m.Performs level (m.processor.config.width + 1) reports {
      machine := (m.view reports).dispatch
      pending := m.processor.config.extended && raised level 1 m.processor.config.width
      halted := false } := by
  obtain ⟨-, -, registers, -, -, -⟩ := h.stage level
  have view := h.view_of_rests level reports (by simp [Registers.addressee, hs, hd])
  rw [Registers.passed_dispatch level _ hs hd h.coherent.words] at registers view
  refine h.performs level reports (by simp [hs]) ?_ ?_ view ?_
  · rw [Processor.halted, registers]
    rfl
  · rw [Processor.atFetch, registers]
    rfl
  · rw [registers]
    rfl

end

end Machine

end SerialMachine
