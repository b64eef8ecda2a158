import SerialMachine.Proofs.Bits
import SerialMachine.Transition

/-!
# One clock cycle of a record

A record whose markers agree with its cycle does the work of its state, which neither reads nor
moves cycle and markers, and then goes on to the next cycle or, after the last one, to the state it
has chosen.
-/

namespace SerialMachine

/-- Whether one state may follow another in the machine of a configuration. -/
def State.Follows (config : Config) (state next : State) : Prop :=
  next ∈ state.successors ∧ (config.extended = true → next.baseOnly = false) ∧
    (config.extended = false → ¬(state = .fetch ∧ next = .fetch))

/-- Whether the interrupt line is high in one of `count` cycles from `start` on. -/
def raised (level : Nat → Bool) (start count : Nat) : Bool :=
  (List.range count).any fun k => level (start + k)

theorem raised_succ (level : Nat → Bool) (start count : Nat) :
    raised level start (count + 1) = (raised level start count || level (start + count)) := by
  simp [raised, List.range_succ]

theorem raised_add (level : Nat → Bool) (start a b : Nat) :
    raised level start (a + b) = (raised level start a || raised level (start + a) b) := by
  induction b with
  | zero => simp [raised]
  | succ b ih => rw [← Nat.add_assoc, raised_succ, raised_succ, ih, Bool.or_assoc, Nat.add_assoc]

theorem raised_first (level : Nat → Bool) (count : Nat) :
    raised level 0 (count + 1) = (level 0 || raised level 1 count) := by
  rw [add_comm, raised_add]
  simp [raised]

theorem raised_shift (level : Nat → Bool) (start a b : Nat) :
    raised (fun k => level (a + k)) start b = raised level (a + start) b := by
  simp only [raised, Nat.add_assoc]

namespace Config

theorem width_pos (config : Config) : 0 < config.width := by
  have := config.eight_le_width
  omega

theorem four_lt_width (config : Config) : 4 < config.width := by
  have := config.eight_le_width
  omega

theorem extended_eq_false_iff (config : Config) :
    config.extended = false ↔ config.variant = .base := by
  rw [extended]
  cases config.variant <;> decide

theorem extended_eq_true_iff (config : Config) :
    config.extended = true ↔ config.variant = .extended := by
  rw [extended]
  cases config.variant <;> decide

end Config

namespace Registers

/-- The record at a cycle of its state, with the markers of that cycle. -/
def timed (config : Config) (cycle : Nat) (r : Registers) : Registers :=
  { r with
    cycle := cycle, first := cycle == 0, lastFour := (cycle : Int) > (config.width : Int) - 4 }

/-- The record on the first cycle of the state that it has chosen. -/
def entering (config : Config) (r : Registers) : Registers :=
  { r with state := r.choice }.timed config 0

/-- The record with its interrupt latch set by the interrupt line, where the machine has one. -/
def latched (config : Config) (irq : Bool) (r : Registers) : Registers :=
  { r with irq := r.irq || (config.extended && irq) }

variable {config : Config}

@[simp] theorem latched_timed (c : Nat) (irq : Bool) (r : Registers) :
    (r.timed config c).latched config irq = (r.latched config irq).timed config c := rfl

theorem latched_latched (a b : Bool) (r : Registers) :
    (r.latched config a).latched config b = r.latched config (a || b) := by
  simp only [latched, Bool.and_or_distrib_left, Bool.or_assoc]

theorem transition_eq (r : Registers) (bit : Int) (irq : Bool) :
    r.transition config bit irq = (do
      r.checkStart config
      let worked ← ((r.latched config irq).work config bit
        (Timing.markers r.cycle config.width)).mapError Obstacle.absent
      if (Timing.markers r.cycle config.width).last then
        (worked.commit config).mapError Obstacle.violation
      else return worked.proceed config) := rfl

theorem markers_cast (c : Nat) :
    Timing.markers c config.width =
      { first := c == 0, lastFour := (c : Int) > (config.width : Int) - 4
        last := c == config.width } := by
  have first : ((c : Int) == 0) = (c == 0) := by rw [Bool.eq_iff_iff]; simp
  have last : ((c : Int) == config.width) = (c == config.width) := by rw [Bool.eq_iff_iff]; simp
  rw [Timing.markers, first, last]

theorem operation_timed (c : Nat) (r : Registers) :
    (r.timed config c).operation config = r.operation config := rfl

theorem fetch_timed (c : Nat) (r : Registers) (bit : Int) (m : Timing.Markers) :
    Cycle.fetch config bit m (r.timed config c) = (Cycle.fetch config bit m r).timed config c := by
  have bits (r : Registers) : Cycle.fetchBit config bit m (r.timed config c) =
      (Cycle.fetchBit config bit m r).timed config c := by
    unfold Cycle.fetchBit
    split <;> rfl
  have choice (r : Registers) : Cycle.fetchChoice config bit (r.timed config c) =
      (Cycle.fetchChoice config bit r).timed config c := by
    simp only [Cycle.fetchChoice, apply_ite (timed config c)]
    rfl
  have dispatch : Cycle.dispatch config m (r.timed config c) =
      (Cycle.dispatch config m r).timed config c := by
    unfold Cycle.dispatch
    split <;> rfl
  have setUp : Cycle.fetchSetUp config (r.timed config c) =
      (Cycle.fetchSetUp config r).timed config c := by
    simp only [Cycle.fetchSetUp, apply_ite (timed config c)]
    rfl
  have flags : Cycle.fetchFlags config (r.timed config c) =
      (Cycle.fetchFlags config r).timed config c := rfl
  have timer (r : Registers) : Cycle.fetchTimer config m (r.timed config c) =
      (Cycle.fetchTimer config m r).timed config c := rfl
  simp only [Cycle.fetch, dispatch, setUp, flags, bits, apply_ite (timed config c), ← choice,
    ← timer]
  rfl

theorem executeBit_timed (c : Nat) (r : Registers) (operation : Operation) (m : Timing.Markers) :
    Cycle.executeBit config operation m (r.timed config c) =
      (Cycle.executeBit config operation m r).map (timed config c) := by
  cases operation with
  | and =>
    simp only [Cycle.executeBit, apply_ite (Except.map (timed config c))]
    rfl
  | lshift | rshift | jump | jumpz =>
    simp only [Cycle.executeBit, Except.map, apply_ite (Cycle.turn config.width),
      apply_ite (timed config c)]
    rfl
  | get | set | shadow =>
    unfold Cycle.executeBit
    rw [show (r.timed config c).target = r.target from rfl]
    cases r.target with
    | none => rfl
    | some target => cases target <;> rfl
  | _ => rfl

/-- The work of a cycle leaves cycle and markers alone. -/
theorem work_timed (c : Nat) (r : Registers) (bit : Int) (m : Timing.Markers) :
    (r.timed config c).work config bit m = (r.work config bit m).map (timed config c) := by
  obtain ⟨first, lastFour, last⟩ := m
  unfold work
  rw [show (r.timed config c).state = r.state from rfl]
  cases r.state with
  | reset | indirect | operand | store | load | advance => cases first <;> rfl
  | halt =>
    unfold Cycle.halt
    simp only [Except.map, apply_ite (timed config c)]
    rfl
  | fetch => exact congrArg Except.ok (fetch_timed c r bit _)
  | execute =>
    simp only [Cycle.execute, operation_timed]
    cases r.operation config with
    | error absent => rfl
    | ok operation =>
      cases first
      · exact executeBit_timed c r operation _
      · rfl

/-! ## Cycles that succeed -/

/-- The states of the extended variant are those that the base variant does not keep to itself. -/
def Native (config : Config) (r : Registers) : Prop :=
  config.extended = true → r.state.baseOnly = false

theorem checkStart_timed {c : Nat} (le : c ≤ config.width) {r : Registers}
    (native : r.Native config) :
    (r.timed config c).checkStart config = .ok () := by
  have inside : 0 ≤ (c : Int) ∧ (c : Int) ≤ config.width := by omega
  have foreign : (r.state.baseOnly && config.extended) = false := by
    cases h : config.extended
    · simp
    · simp [native h]
  simp only [checkStart, Timing.check, timed, markers_cast, inside, foreign, not_true, if_false,
    and_self, bne_self_eq_false, Bool.false_eq_true]
  rfl

theorem commit_of_follows {r : Registers} (h : State.Follows config r.state r.choice) :
    r.commit config = .ok (r.entering config) := by
  obtain ⟨edge, native, plain⟩ := h
  have lastFour : decide ((0 : Int) > config.width - 4) = false := by
    have := config.eight_le_width
    simp only [decide_eq_false_iff_not]
    omega
  have foreign : ¬(r.choice.baseOnly && config.extended) = true := by
    cases h : config.extended
    · simp
    · simp [native h]
  have dispatch : ¬(r.state == .fetch && r.choice == .fetch && !config.extended) = true := by
    cases h : config.extended
    · simpa [and_assoc] using plain h
    · simp
  rw [commit, if_neg (by simpa using edge), if_neg foreign, if_neg dispatch, entering, timed]
  simp only [Nat.cast_zero, lastFour]
  rfl

theorem transition_timed {c : Nat} (le : c ≤ config.width) {r : Registers}
    (native : r.Native config)
    {bit : Int} {irq : Bool} {worked : Registers}
    (work : (r.latched config irq).work config bit (Timing.markers c config.width) = .ok worked) :
    (r.timed config c).transition config bit irq =
      if c = config.width then (worked.commit config).mapError .violation
      else .ok (worked.timed config (c + 1)) := by
  have worked_timed : ((r.timed config c).latched config irq).work config bit
      (Timing.markers c config.width) = .ok (worked.timed config c) := by
    rw [latched_timed, work_timed, work]
    rfl
  rw [transition_eq, checkStart_timed le native, show (r.timed config c).cycle = c from rfl,
    worked_timed]
  by_cases e : c = config.width
  · have last : (Timing.markers c config.width).last = true := by simp [Timing.markers, e]
    simp only [last, if_pos e]
    rfl
  · have last : (Timing.markers c config.width).last = false := by simp [Timing.markers, e]
    have next : Timing.next c config.width = ((c + 1 : Nat) : Int) := by
      rw [Timing.next, if_neg (by omega)]
      norm_cast
    have proceeds : (worked.timed config c).proceed config = worked.timed config (c + 1) := by
      rw [proceed, show (worked.timed config c).cycle = c from rfl, next]
      rfl
    simp only [last, if_neg e, ← proceeds]
    rfl

theorem transition_of_lt {c : Nat} (lt : c < config.width) {r : Registers}
    (native : r.Native config)
    {bit : Int} {irq : Bool} {worked : Registers}
    (work : (r.latched config irq).work config bit (Timing.markers c config.width) = .ok worked) :
    (r.timed config c).transition config bit irq = .ok (worked.timed config (c + 1)) := by
  rw [transition_timed lt.le native work, if_neg lt.ne]

theorem transition_of_follows {r : Registers} (native : r.Native config) {bit : Int} {irq : Bool}
    {worked : Registers}
    (work : (r.latched config irq).work config bit
      (Timing.markers config.width config.width) = .ok worked)
    (follows : State.Follows config worked.state worked.choice) :
    (r.timed config config.width).transition config bit irq = .ok (worked.entering config) := by
  rw [transition_timed le_rfl native work, if_pos rfl, commit_of_follows follows]
  rfl

end Registers

end SerialMachine
