import SerialMachine.Proofs.Attempts
import SerialMachine.Proofs.Sweep
import SerialMachine.Room

/-!
# What makes a cycle a violation

A cycle checks its record three times: its markers, its state, and on its last cycle the state that
follows. Main statement: whatever its registers and latches hold, a cycle is a violation exactly
when one of these checks has cause to refuse it, and otherwise it leaves a record whose markers
agree with its cycle. A halt and the fetch of an instruction choose their successor on that very
cycle, so that nothing they hold can make them a violation.
-/

namespace SerialMachine

/-- The state graph of a configuration does not lead from one state to another. -/
def State.Barred (config : Config) (state next : State) : Prop :=
  next ∉ state.successors ∨ (config.variant = .extended ∧ next = .indirect) ∨
    (config.variant = .base ∧ state = .fetch ∧ next = .fetch)

/-- Only its other state of indirection could lead the extended variant to the second one. -/
theorem State.barred_iff {config : Config} {state next : State}
    (native : config.extended = true → state.baseOnly = false) :
    State.Barred config state next ↔ ¬State.Follows config state next := by
  unfold Barred Follows
  cases variant : config.variant with
  | base =>
    have plain := (Config.extended_eq_false_iff _).2 variant
    simp only [plain, reduceCtorEq, false_and, false_or, true_and, false_implies, forall_const]
    tauto
  | extended =>
    have extended := (Config.extended_eq_true_iff _).2 variant
    have own := native extended
    simp only [extended, reduceCtorEq, false_and, or_false, true_and, forall_const,
      Bool.true_eq_false, false_implies, and_true]
    revert own
    cases state <;> cases next <;> decide

namespace Registers

/-- The cycle is one of its state, and the markers agree with it. -/
structure Marked (config : Config) (r : Registers) : Prop where
  nonneg : 0 ≤ r.cycle
  le : r.cycle ≤ config.width
  first : r.first = decide (r.cycle = 0)
  lastFour : r.lastFour = decide ((config.width : Int) - 4 < r.cycle)

/-- Whether this cycle of a fetch, if it is the last one, requests an interrupt for the timer. -/
def comesDue (config : Config) (r : Registers) : Bool :=
  config.extended && (r.matching &&
    (Adder.add (Bits.low r.timer) 0 r.carry).1 == Bits.low r.compare &&
    Flag.isSet config.variant .timerEnable r.flags)

/-- The state that the last cycle of a state leads to. A halt and the fetch of an instruction choose
it then, all others have chosen before. -/
def successor (config : Config) (bit : Int) (irq : Bool) (r : Registers) : State :=
  let pending := r.irq || (config.extended && irq)
  match r.state with
  | .halt =>
    if config.extended && Flag.isSet config.variant .interruptEnable r.flags && pending then .fetch
    else .halt
  | .fetch =>
    if r.dispatch then r.choice
    else State.afterFetch config r.flags (pending || r.comesDue config) (Bits.test 0 bit)
  | _ => r.choice

/-- The markers disagree with the cycle, and a number that this would be reported with is too long
to be written. -/
def Unreported (config : Config) (r : Registers) : Prop :=
  ¬r.Marked config ∧ (Text.writeDecimal? r.cycle = none ∨
    ¬(0 ≤ r.cycle ∧ r.cycle ≤ config.width) ∧ Text.writeDecimal? config.width = none)

/-- Why a cycle cannot be completed. -/
def Violates (config : Config) (bit : Int) (irq : Bool) (r : Registers) : Prop :=
  ¬r.Marked config ∨
    (config.variant = .extended ∧ (r.state = .indirect ∨ r.state = .operand)) ∨
    (r.cycle = config.width ∧ State.Barred config r.state (r.successor config bit irq))

variable {config : Config} {r worked : Registers} {bit : Int} {irq : Bool} {m : Timing.Markers}

/-! ## Markers -/

theorem marked_timed {c : Nat} (le : c ≤ config.width) (r : Registers) :
    (r.timed config c).Marked config := by
  refine ⟨Int.natCast_nonneg c, Int.ofNat_le.2 le, ?_, rfl⟩
  show (c == 0) = decide ((c : Int) = 0)
  rw [Bool.eq_iff_iff]
  simp

theorem Marked.exists_timed (h : r.Marked config) :
    ∃ c ≤ config.width, r.cycle = c ∧ r = r.timed config c := by
  obtain ⟨c, cycle⟩ := Int.eq_ofNat_of_zero_le h.nonneg
  have first : r.first = (c == 0) := by
    rw [h.first, cycle, Bool.eq_iff_iff]
    simp
  have lastFour : r.lastFour = decide ((c : Int) > (config.width : Int) - 4) := by
    rw [h.lastFour, cycle]
  refine ⟨c, ?_, cycle, ?_⟩
  · have := h.le
    omega
  · rw [timed, ← cycle, ← first, cycle, ← lastFour, ← cycle]

/-- Markers that disagree with the cycle are reported with the numbers that they disagree with. -/
theorem exists_check_error (unmarked : ¬r.Marked config) : ∃ violation : Violation,
    Timing.check r.cycle r.first r.lastFour config.width = .error violation.obstacle ∧
      violation.kind = .structural ∧
      ((∃ number ∈ violation.numbers, Text.writeDecimal? number = none) ↔ r.Unreported config) := by
  unfold Timing.check
  split_ifs with inside first lastFour
  · refine ⟨.wrongFirst r.first r.cycle, rfl, rfl, ?_⟩
    simp [Violation.numbers, Unreported, unmarked, inside]
  · refine ⟨.wrongLastFour r.lastFour r.cycle, rfl, rfl, ?_⟩
    simp [Violation.numbers, Unreported, unmarked, inside]
  · rw [bne_iff_ne, not_not] at first lastFour
    refine absurd ⟨inside.1, inside.2, ?_, lastFour⟩ unmarked
    rw [first, Bool.eq_iff_iff]
    simp [Timing.markers]
  · refine ⟨.cycleOutOfRange r.cycle config.width, rfl, rfl, ?_⟩
    simp [Violation.numbers, Unreported, unmarked, inside]

theorem check_of_marked (marked : r.Marked config) :
    Timing.check r.cycle r.first r.lastFour config.width = .ok () := by
  obtain ⟨nonneg, le, first, lastFour⟩ := marked
  have first : r.first = (Timing.markers r.cycle config.width).first := by
    rw [first, Bool.eq_iff_iff]
    simp [Timing.markers]
  have lastFour : r.lastFour = (Timing.markers r.cycle config.width).lastFour := lastFour
  unfold Timing.check
  rw [if_neg (not_not_intro ⟨nonneg, le⟩), if_neg (by simp [← first]),
    if_neg (by simp [← lastFour])]

theorem checkStart_of_unreported (h : r.Unreported config) :
    r.checkStart config = .error (.invalid .longNumeral) := by
  obtain ⟨violation, refused, -, long⟩ := exists_check_error h.1
  rw [Violation.obstacle_eq_invalid (long.2 h)] at refused
  rw [checkStart, refused]
  rfl

/-- A cycle begins neither with markers that disagree nor in a state of the other variant. -/
theorem exists_checkStart_error (h : ¬(r.Marked config ∧ r.Native config))
    (reported : ¬r.Unreported config) : ∃ violation,
    r.checkStart config = .error (.violation violation) ∧ violation.kind = .structural := by
  by_cases marked : r.Marked config
  · have foreign : (r.state.baseOnly && config.extended) = true := by
      by_contra native
      refine h ⟨marked, fun extended => ?_⟩
      simpa [extended] using native
    refine ⟨.foreignState r.state, ?_, rfl⟩
    rw [checkStart, check_of_marked marked, foreign]
    rfl
  · obtain ⟨violation, refused, kind, long⟩ := exists_check_error marked
    have short : ∀ number ∈ violation.numbers, Text.writeDecimal? number ≠ none :=
      fun number member none => reported (long.1 ⟨number, member, none⟩)
    rw [Violation.obstacle_eq_violation short] at refused
    refine ⟨violation, ?_, kind⟩
    rw [checkStart, refused]
    rfl

/-! ## The work of a cycle -/

/-- A data cycle of an operation that has its target leaves state and choice alone. -/
theorem exists_executeBit (config : Config) {operation : Operation}
    (aimed : operation.aims = true → r.target ≠ none) (m : Timing.Markers) :
    ∃ worked, Cycle.executeBit config operation m r = .ok worked ∧ worked.state = r.state := by
  unfold Cycle.executeBit
  cases operation with
  | and | lshift | rshift | jump | jumpz =>
    simp only
    split_ifs <;> exact ⟨_, rfl, rfl⟩
  | get | set | shadow =>
    obtain ⟨target, aim⟩ := Option.ne_none_iff_exists'.1 (aimed rfl)
    simp only [aim]
    cases target <;> exact ⟨_, rfl, rfl⟩
  | _ => exact ⟨_, rfl, rfl⟩

/-- The flags that a choice looks at do not change while a fetch counts the accumulator. -/
theorem isSet_fetchFlags {f : Flag} (h : f ∉ Flag.descriptive) :
    Flag.isSet config.variant f (Cycle.fetchFlags config r).flags =
      Flag.isSet config.variant f r.flags := by
  simp only [Flag.descriptive, List.mem_cons, List.not_mem_nil, or_false, not_or] at h
  unfold Cycle.fetchFlags
  simp only
  split
  · rw [Flag.toggle_eq_put, Flag.isSet_put_of_ne h.2.2, Flag.isSet_put_of_ne h.1]
  · rfl

/-- The choice after a fetch looks at these flags alone. -/
theorem afterFetch_congr {flags flags' : Int}
    (same : ∀ f ∉ Flag.descriptive,
      Flag.isSet config.variant f flags' = Flag.isSet config.variant f flags) (pending top : Bool) :
    State.afterFetch config flags' pending top = State.afterFetch config flags pending top := by
  simp only [State.afterFetch, same .halt (by decide), same .reset (by decide),
    same .interruptEnable (by decide), same .indirect (by decide)]

theorem fetch_state (config : Config) (bit : Int) (m : Timing.Markers) (r : Registers) :
    (Cycle.fetch config bit m r).state = r.state := by
  have counted (r : Registers) :
      (Cycle.fetchBit config bit m (Cycle.fetchFlags config r)).state = r.state := by
    unfold Cycle.fetchBit
    split <;> rfl
  simp only [Cycle.fetch, Cycle.dispatch, Cycle.fetchSetUp, Cycle.fetchTimer, fetchChoice_eq,
    apply_ite Registers.state, counted, ite_self]

/-- The last cycle of a fetch chooses afresh. -/
theorem fetch_last (plain : r.dispatch = false) (data : m.first = false) (last : m.last = true) :
    (Cycle.fetch config bit m r).choice =
      State.afterFetch config r.flags (r.irq || r.comesDue config) (Bits.test 0 bit) := by
  have same {f : Flag} (h : f ∉ Flag.descriptive) :
      Flag.isSet config.variant f (Cycle.fetchBit config bit m (Cycle.fetchFlags config r)).flags =
        Flag.isSet config.variant f r.flags := by
    refine Eq.trans ?_ (isSet_fetchFlags h)
    unfold Cycle.fetchBit
    split <;> rfl
  have kept : (Cycle.fetchBit config bit m (Cycle.fetchFlags config r)).irq = r.irq ∧
      (Cycle.fetchBit config bit m (Cycle.fetchFlags config r)).matching = r.matching ∧
      (Cycle.fetchBit config bit m (Cycle.fetchFlags config r)).timer = r.timer ∧
      (Cycle.fetchBit config bit m (Cycle.fetchFlags config r)).carry = r.carry ∧
      (Cycle.fetchBit config bit m (Cycle.fetchFlags config r)).compare = r.compare := by
    unfold Cycle.fetchBit
    split <;> exact ⟨rfl, rfl, rfl, rfl, rfl⟩
  generalize counted : Cycle.fetchBit config bit m (Cycle.fetchFlags config r) = s at same kept
  obtain ⟨irq, matching, timer, carry, compare⟩ := kept
  simp only [Cycle.fetch, plain, data, last, counted, Bool.false_eq_true, if_false, if_true,
    fetchChoice_eq]
  cases extended : config.extended with
  | true =>
    simp only [if_true, Cycle.fetchTimer, last, irq, matching, timer, carry, compare,
      same (f := .timerEnable) (by decide), comesDue, extended, Bool.true_and]
    exact afterFetch_congr (fun f => same) _ _
  | false =>
    simp only [Bool.false_eq_true, if_false, comesDue, extended, Bool.false_and, Bool.or_false, irq]
    exact afterFetch_congr (fun f => same) _ _

/-- With an operation and a target to be found, the work of a cycle succeeds, and the last cycle of
a state leaves its successor as the choice. -/
theorem exists_work (nibble : Word.Fits 4 r.opcode)
    (aimed : r.state = .execute → m.first = false → ∀ operation,
      r.operation config = .ok operation → operation.aims = true → r.target ≠ none)
    (data : m.last = true → m.first = false) (bit : Int) (irq : Bool) :
    ∃ worked, (r.latched config irq).work config bit m = .ok worked ∧ worked.state = r.state ∧
      (m.last = true → worked.choice = r.successor config bit irq) := by
  unfold work
  rw [show (r.latched config irq).state = r.state from rfl]
  cases state : r.state with
  | reset | indirect | operand | store | load | advance =>
    refine ⟨_, rfl, ?_, fun last => ?_⟩
    · simp only [Cycle.reset, Cycle.indirect, Cycle.operand, Cycle.store, Cycle.load, Cycle.advance]
      split <;> exact state
    · simp only [Cycle.reset, Cycle.indirect, Cycle.operand, Cycle.store, Cycle.load, Cycle.advance,
        data last, successor, state]
      rfl
  | halt =>
    refine ⟨_, rfl, ?_, fun last => ?_⟩
    · unfold Cycle.halt
      split <;> exact state
    · simp only [Cycle.halt, last, successor, state, Bool.true_and, apply_ite Registers.choice]
      rfl
  | fetch =>
    refine ⟨_, rfl, ?_, fun last => ?_⟩
    · rw [fetch_state]
      exact state
    · cases dispatch : r.dispatch with
      | true => simp [Cycle.fetch, Cycle.dispatch, latched, dispatch, data last, successor, state]
      | false =>
        have plain : (r.latched config irq).dispatch = false := dispatch
        rw [fetch_last plain (data last) last]
        simp only [successor, state, dispatch, Bool.false_eq_true, if_false]
        rfl
  | execute =>
    obtain ⟨operation, found⟩ := exists_operation config nibble
    have found' : (r.latched config irq).operation config = .ok operation := found
    cases first : m.first with
    | true =>
      refine ⟨Cycle.executeSetUp config operation (r.latched config irq), ?_, state, fun last => ?_⟩
      · simp only [Cycle.execute, found', first]
        rfl
      · exact absurd ((data last).symm.trans first) (by decide)
    | false =>
      obtain ⟨worked, done, same⟩ := exists_executeBit config
        (r := r.latched config irq) (aimed state first operation found) m
      refine ⟨worked, ?_, same.trans state, fun _ => ?_⟩
      · simp only [Cycle.execute, found', first]
        exact done
      · rw [(frame_executeBit done).1]
        simp only [successor, state]
        rfl

/-! ## The commit -/

/-- A last cycle does not take up a state that the graph does not lead to. -/
theorem exists_commit_error (h : ¬State.Follows config worked.state worked.choice) :
    ∃ violation, worked.commit config = .error violation ∧ violation.kind = .structural := by
  unfold commit
  split
  · exact ⟨_, rfl, rfl⟩
  · next edge =>
    split
    · exact ⟨_, rfl, rfl⟩
    · next foreign =>
      split
      · exact ⟨_, rfl, rfl⟩
      · next again =>
        refine absurd ⟨by simpa using edge, fun extended => ?_, fun base both => ?_⟩ h
        · simpa [extended] using foreign
        · simp [base, both.1, both.2] at again

/-! ## The cycle as a whole -/

theorem native_iff : r.Native config ↔
    ¬(config.variant = .extended ∧ (r.state = .indirect ∨ r.state = .operand)) := by
  rw [Native, Config.extended_eq_true_iff]
  cases r.state <;> simp [State.baseOnly]

section

variable (nibble : Word.Fits 4 r.opcode)
  (aimed : r.state = .execute → 0 < r.cycle → r.cycle ≤ config.width → ∀ operation,
    r.operation config = .ok operation → operation.aims = true → r.target ≠ none)
include nibble aimed

/-- A cycle that begins completes its work; on the last one the commit remains. -/
theorem exists_transition (marked : r.Marked config) (native : r.Native config) (bit : Int)
    (irq : Bool) : ∃ worked : Registers, worked.state = r.state ∧
      (r.cycle = config.width → worked.choice = r.successor config bit irq ∧
        r.transition config bit irq = (worked.commit config).mapError .violation) ∧
      (r.cycle ≠ config.width → ∃ next, r.transition config bit irq = .ok next ∧
        next.Marked config) := by
  obtain ⟨c, le, cycle, eq⟩ := marked.exists_timed
  have wide := config.width_pos
  obtain ⟨worked, work, state, choice⟩ := exists_work (m := Timing.markers c config.width) nibble
    (fun execute data => aimed execute
      (by rw [markers_cast, beq_eq_false_iff_ne] at data; omega) (by omega))
    (fun last => by
      rw [markers_cast, beq_iff_eq] at last
      rw [markers_cast, beq_eq_false_iff_ne]
      omega) bit irq
  have turn := transition_timed le native work
  rw [← eq] at turn
  refine ⟨worked, state, fun last => ?_, fun early => ?_⟩
  · have last : c = config.width := by omega
    rw [if_pos last] at turn
    exact ⟨choice (by rw [markers_cast, beq_iff_eq]; exact last), turn⟩
  · rw [if_neg (by omega)] at turn
    exact ⟨_, turn, marked_timed (by omega) worked⟩

theorem exists_error_of_violates (h : r.Violates config bit irq)
    (reported : ¬r.Unreported config) : ∃ violation,
    r.transition config bit irq = .error (.violation violation) ∧
      violation.kind = .structural := by
  by_cases begins : r.Marked config ∧ r.Native config
  · obtain ⟨marked, native⟩ := begins
    obtain unmarked | foreign | ⟨last, barred⟩ := h
    · exact absurd marked unmarked
    · exact absurd foreign (native_iff.1 native)
    · obtain ⟨worked, state, committed, -⟩ :=
        exists_transition nibble aimed marked native bit irq
      obtain ⟨choice, turn⟩ := committed last
      rw [State.barred_iff native, ← state, ← choice] at barred
      obtain ⟨violation, refused, kind⟩ := exists_commit_error barred
      exact ⟨violation, by rw [turn, refused]; rfl, kind⟩
  · obtain ⟨violation, refused, kind⟩ := exists_checkStart_error begins reported
    refine ⟨violation, ?_, kind⟩
    rw [transition_eq, refused]
    rfl

theorem exists_next_of_not_violates (h : ¬r.Violates config bit irq) :
    ∃ next, r.transition config bit irq = .ok next ∧ next.Marked config := by
  simp only [Violates, not_or, not_not, not_and] at h
  obtain ⟨marked, own, passable⟩ := h
  have native := native_iff.2 (by simpa using own)
  obtain ⟨worked, state, committed, continued⟩ :=
    exists_transition nibble aimed marked native bit irq
  by_cases last : r.cycle = config.width
  · obtain ⟨choice, turn⟩ := committed last
    have follows := passable last
    rw [State.barred_iff native, not_not, ← state, ← choice] at follows
    rw [turn, commit_of_follows follows]
    exact ⟨_, rfl, marked_timed (Nat.zero_le _) _⟩
  · exact continued last

end

/-- A halt and the fetch of an instruction lead only where the state graph does. -/
theorem not_violates (marked : r.Marked config)
    (chooses : r.state = .halt ∨ (r.state = .fetch ∧ r.dispatch = false)) :
    ¬r.Violates config bit irq := by
  have native : r.Native config := by
    intro
    obtain state | ⟨state, -⟩ := chooses <;> rw [state] <;> rfl
  rintro (unmarked | foreign | ⟨-, barred⟩)
  · exact unmarked marked
  · exact native_iff.1 native foreign
  · refine (State.barred_iff native).1 barred ?_
    obtain state | ⟨state, plain⟩ := chooses
    · simp only [successor, state]
      split <;> simp [State.Follows, State.successors, State.baseOnly]
    · simp only [successor, state, plain, Bool.false_eq_true, if_false]
      exact State.follows_afterFetch ..

/-! ## On a host -/

/-- The host has no room for the cycle. -/
def Cramped (config : Config) (bit : Int) (irq : Bool) (r : Registers) : Prop :=
  config.host.bits ≤ config.width ∧ ∃ cause, cause.overtaxesHost = true ∧
    r.hostedTransition config bit irq = .error (.inl cause)

/-- A host that has room for a cycle carries it out. -/
theorem hostedTransition_eq (roomy : ¬r.Cramped config bit irq) :
    r.hostedTransition config bit irq = (r.transition config bit irq).mapError Sum.inr := by
  unfold Cramped at roomy
  unfold hostedTransition at roomy ⊢
  split
  · rfl
  · next small =>
    have large : config.host.bits ≤ config.width := by
      simpa [Config.roomy] using small
    split
    · next cause problem =>
      refine absurd ⟨large, cause, overtaxesHost_of_roomProblem? problem, ?_⟩ roomy
      rw [if_neg small, problem]
    · rfl

/-- Exactly the records that violate the sequence of cycles and states are refused. All others go on
with markers that agree, a halt and the fetch of an instruction whenever their own markers do. A
violation that cannot be reported is refused for that, and a host may have no room for a cycle. -/
theorem transition_violates_iff (config : Config) (r : Registers) (bit : Int) (irq : Bool)
    (nibble : 0 ≤ r.opcode ∧ r.opcode ≤ 15)
    (aimed : r.state = .execute → 0 < r.cycle → r.cycle ≤ config.width → ∀ operation,
      r.operation config = .ok operation → operation.aims = true → r.target ≠ none) :
    (r.Unreported config →
      r.hostedTransition config bit irq = .error (.inr (.invalid .longNumeral))) ∧
    (¬r.Unreported config → r.Cramped config bit irq ∨
      ((∃ violation, r.hostedTransition config bit irq = .error (.inr (.violation violation)) ∧
          violation.kind = .structural) ↔ r.Violates config bit irq) ∧
        (¬r.Violates config bit irq →
          ∃ next, r.hostedTransition config bit irq = .ok next ∧ next.Marked config) ∧
        (r.Marked config → r.state = .halt ∨ (r.state = .fetch ∧ r.dispatch = false) →
          ∃ next, r.hostedTransition config bit irq = .ok next ∧ next.Marked config)) := by
  have nibble : Word.Fits 4 r.opcode := ⟨nibble.1, lt_of_le_of_lt nibble.2 (by decide)⟩
  refine ⟨fun unreported => ?_, fun reported => ?_⟩
  · exact hostedTransition_of_checkStart (checkStart_of_unreported unreported) bit irq
  · by_cases roomy : r.Cramped config bit irq
    · exact .inl roomy
    rw [hostedTransition_eq roomy]
    have goes (h : ¬r.Violates config bit irq) : ∃ next,
        (r.transition config bit irq).mapError (Sum.inr (α := InvalidValue)) = .ok next ∧
          next.Marked config := by
      obtain ⟨next, turn, marked⟩ := exists_next_of_not_violates nibble aimed h
      exact ⟨next, by rw [turn]; rfl, marked⟩
    refine .inr ⟨⟨?_, fun h => ?_⟩, goes, fun marked chooses => goes (not_violates marked chooses)⟩
    · rintro ⟨violation, refused, -⟩
      by_contra h
      obtain ⟨next, turn, -⟩ := goes h
      rw [turn] at refused
      cases refused
    · obtain ⟨violation, refused, kind⟩ := exists_error_of_violates nibble aimed h reported
      exact ⟨violation, by rw [refused]; rfl, kind⟩

/-- A record that is to halt after it has exchanged accumulator and program counter. -/
def astray : Registers :=
  { state := .execute, choice := .halt, cycle := 16, first := false, lastFour := true, opcode := 15
    target := some .pc }

theorem transition_astray : astray.operation {} = .ok .get ∧ astray.target ≠ none ∧
    ∃ violation, astray.hostedTransition {} 0 false = .error (.inr (.violation violation)) ∧
      violation.kind = .structural := by
  have nibble : 0 ≤ astray.opcode ∧ astray.opcode ≤ 15 := by decide
  have barred : astray.Violates {} 0 false := .inr (.inr ⟨rfl, .inl (by decide)⟩)
  have marked : astray.Marked {} := ⟨by decide, by decide, rfl, rfl⟩
  have reported : ¬astray.Unreported {} := fun unreported => unreported.1 marked
  have roomy : ¬astray.Cramped {} 0 false := fun cramped => absurd cramped.1 (by decide)
  have judged := (transition_violates_iff {} astray 0 false nibble fun _ _ _ _ _ _ => by decide).2
    reported
  exact ⟨rfl, by decide, (judged.resolve_left roomy).1.2 barred⟩

/-- A record in a cycle whose number is too long to be written. -/
def overrun : Registers :=
  { cycle := 10 ^ Text.decimalDigitLimit }

/-- A load of a word so wide that no host counts its digits, which is to be followed by a reset. -/
def stranded : Registers :=
  { state := .load, choice := .reset, cycle := 10 ^ 20, first := false, lastFour := true }

/-- Neither of the two is refused as a violation. -/
theorem violates_unseen :
    (overrun.Violates {} 0 false ∧
      overrun.hostedTransition {} 0 false = .error (.inr (.invalid .longNumeral))) ∧
    stranded.Violates { width := 10 ^ 20 } 1 false ∧
      stranded.hostedTransition { width := 10 ^ 20 } 1 false = .error (.inl .tooManyDigits) := by
  have long : Text.writeDecimal? overrun.cycle = none := Text.writeDecimal?_ten_pow
  have unmarked : ¬overrun.Marked {} := by
    rintro ⟨nonneg, le, -, -⟩
    generalize overrun.cycle = cycle at long nonneg le
    have few : (16 : Int) < ({} : Host).bits := by decide
    have small : (cycle.natAbs : Int) < ({} : Host).bits := by
      have le : cycle ≤ 16 := le
      omega
    exact Host.writeDecimal?_ne_none small long
  have unreported : overrun.Unreported {} := ⟨unmarked, .inl long⟩
  refine ⟨⟨.inl unmarked, ?_⟩, .inr (.inr ⟨rfl, .inl (by decide)⟩), by decide +kernel⟩
  exact hostedTransition_of_checkStart (checkStart_of_unreported unreported) 0 false

end Registers

end SerialMachine
