import Mathlib.Tactic.SplitIfs
import SerialMachine.Breakpoints

/-!
# What stops a fetch

The causes for which the check at an instruction fetch asks for a stop, ranked, and what else the
check does. Conditions that the variant allows can always be examined, and no edit of the
breakpoints lets others in.
-/

namespace SerialMachine

namespace BreakReason

/-- Whether a check at a fetch records the reason. -/
def ofFetch : BreakReason → Bool
  | userInterrupt | step | breakpoint | condition => true
  | _ => false

end BreakReason

/-- What a user does with the breakpoints. -/
inductive Edit
  | addBreakpoint (address : Int)
  | removeBreakpoint (address : Int)
  | clearBreakpoints
  | addWatchpoint (address : Int) (onRead onWrite : Bool)
  | removeWatchpoint (address : Int)
  | clearWatchpoints
  | addCondition (condition : Condition)
  | removeCondition (number : Int)
  | clearConditions
  | setStepMode (on : Bool)
  | requestBreak
  | clearBreakRequest
  | record (event : BreakEvent)
  | clearAll

namespace Condition

/-- Whether the condition can be examined and holds. -/
def holds (c : Condition) (p : Processor) : Bool :=
  match c.check p with
  | .ok met => met
  | .error _ => false

theorem check_eq {c : Condition} {p : Processor} (valid : c.validate p.config.variant = .ok ()) :
    c.check p = .ok (c.holds p) := by
  have readable : ∃ value, c.subject.read p = .ok value := by
    unfold validate Subject.validate at valid
    unfold Subject.read
    cases subject : c.subject with
    | register r => exact ⟨_, rfl⟩
    | flag name =>
      simp only [subject] at valid
      simp only [Processor.flag]
      cases found : Flag.ofName? p.config.variant (Text.upperString name) with
      | none => simp [found] at valid
      | some flag => exact ⟨_, rfl⟩
  obtain ⟨value, read⟩ := readable
  have checked : c.check p = .ok (c.comparison.holds value c.value.toInt) := by
    simp only [check, read, bind, Except.bind, pure, Except.pure]
  rw [holds, checked]

end Condition

namespace Breakpoints

/-- The breakpoints after an edit; one that is refused leaves them as they are. -/
def edit (b : Breakpoints) : Edit → Breakpoints
  | .addBreakpoint address => b.addBreakpoint address
  | .removeBreakpoint address => b.removeBreakpoint address
  | .clearBreakpoints => b.clearBreakpoints
  | .addWatchpoint address onRead onWrite => b.addWatchpoint address onRead onWrite
  | .removeWatchpoint address => b.removeWatchpoint address
  | .clearWatchpoints => b.clearWatchpoints
  | .addCondition condition =>
    match b.addCondition condition with
    | .ok (_, added) => added
    | .error _ => b
  | .removeCondition number => b.removeCondition number
  | .clearConditions => b.clearConditions
  | .setStepMode on => { b with stepMode := on }
  | .requestBreak => b.requestBreak
  | .clearBreakRequest => b.clearBreakRequest
  | .record event => b.record event
  | .clearAll => b.clearAll

/-- The breakpoints with another event, if any, as the one recorded last. -/
def withLast (b : Breakpoints) (lastEvent : Option BreakEvent) : Breakpoints :=
  { b with lastEvent }

/-- The addresses and conditions at which a user wants a stop. -/
structure Marks where
  addresses : AddressSet
  reads : AddressSet
  writes : AddressSet
  conditions : List (Option Condition)
  deriving DecidableEq

/-- The marks that the breakpoints hold, without one-shot requests and recorded events. -/
def marks (b : Breakpoints) : Marks :=
  { addresses := b.addresses, reads := b.reads, writes := b.writes, conditions := b.conditions }

/-- Whether a condition holds. -/
def holds (b : Breakpoints) (p : Processor) : Bool :=
  b.conditions.any (Option.any (·.holds p))

/-- Why a processor that has come to an instruction fetch is stopped there: for the user's request,
else for a single step, else for a breakpoint at the program counter, else for a condition. -/
def fetchCause? (b : Breakpoints) (p : Processor) : Option BreakReason :=
  if !p.atFetch then none
  else if b.breakRequested then some .userInterrupt
  else if b.stepMode then some .step
  else if b.addresses.contains p.registers.pc then some .breakpoint
  else if b.holds p then some .condition
  else none

/-- The event tells of a word transfer at a watched address. -/
def Watched (b : Breakpoints) (event : BreakEvent) : Prop :=
  ∃ address, event.address = some address ∧
    (event.reason = .memoryRead ∧ b.reads.contains address = true ∨
      event.reason = .memoryWrite ∧ b.writes.contains address = true)

/-- Conditions are checked for a variant, and the variant allows those that there are. -/
structure Valid (variant : Variant) (b : Breakpoints) : Prop where
  checked : b.variant = some variant
  conditions : ∀ c, some c ∈ b.conditions → c.validate variant = .ok ()

variable {variant : Variant} {b : Breakpoints} {p : Processor}

theorem atFetch_of_fetchCause? {reason : BreakReason} (cause : b.fetchCause? p = some reason) :
    p.atFetch = true ∧ reason.ofFetch = true := by
  unfold fetchCause? at cause
  split_ifs at cause with away
  all_goals
    obtain rfl := Option.some.inj cause
    exact ⟨by simpa using away, rfl⟩

theorem Valid.withLast (h : b.Valid variant) (lastEvent : Option BreakEvent) :
    (b.withLast lastEvent).Valid variant :=
  ⟨h.checked, h.conditions⟩

@[simp] theorem fetchCause?_withLast (b : Breakpoints) (lastEvent : Option BreakEvent)
    (p : Processor) : (b.withLast lastEvent).fetchCause? p = b.fetchCause? p := rfl

/-! ## Edits -/

theorem mem_fill {condition c : Condition} {conditions : List (Option Condition)}
    (member : some c ∈ fill condition conditions) : c = condition ∨ some c ∈ conditions := by
  induction conditions with
  | nil => simpa [fill] using member
  | cons first rest ih =>
    cases first with
    | none => simpa [fill] using member
    | some other =>
      rw [fill, List.mem_cons] at member
      rcases member with same | later
      · exact Or.inr (same ▸ List.mem_cons_self)
      · exact (ih later).imp_right (List.mem_cons_of_mem _)

theorem Valid.addCondition (h : b.Valid variant) {condition : Condition} {number : Nat}
    {added : Breakpoints} (done : b.addCondition condition = .ok (number, added)) :
    added.Valid variant := by
  simp only [Breakpoints.addCondition, h.checked] at done
  cases valid : condition.validate variant with
  | error cause => simp [valid, bind, Except.bind] at done
  | ok u =>
    simp only [valid, bind, Except.bind, pure, Except.pure, Except.ok.injEq, Prod.mk.injEq] at done
    obtain ⟨-, rfl⟩ := done
    refine ⟨rfl, fun c member => ?_⟩
    rcases mem_fill member with rfl | before
    · exact valid
    · exact h.conditions c before

theorem Valid.edit (h : b.Valid variant) (change : Edit) : (b.edit change).Valid variant := by
  cases change with
  | addCondition condition =>
    unfold Breakpoints.edit
    simp only
    split
    · next done => exact h.addCondition done
    · exact h
  | removeCondition number =>
    unfold Breakpoints.edit removeCondition
    simp only
    split
    · exact h
    · refine ⟨h.checked, fun c member => ?_⟩
      rcases List.mem_or_eq_of_mem_set member with before | none
      · exact h.conditions c before
      · simp at none
  | addWatchpoint address onRead onWrite =>
    cases onRead <;> cases onWrite <;> exact ⟨h.checked, h.conditions⟩
  | clearConditions | clearAll =>
    exact ⟨h.checked, by simp [Breakpoints.edit, clearConditions, clearAll]⟩
  | _ => exact ⟨h.checked, h.conditions⟩

/-! ## The check at a fetch -/

theorem firstHolding_eq {conditions : List (Option Condition)}
    (valid : ∀ c, some c ∈ conditions → c.validate p.config.variant = .ok ()) :
    ∃ found, firstHolding p conditions = .ok found ∧
      found.isSome = conditions.any (Option.any (·.holds p)) := by
  induction conditions with
  | nil => exact ⟨none, rfl, rfl⟩
  | cons first rest ih =>
    obtain ⟨found, later, some⟩ := ih fun c member => valid c (List.mem_cons_of_mem _ member)
    cases first with
    | none => exact ⟨found, later, some⟩
    | some condition =>
      have checked := Condition.check_eq (valid condition List.mem_cons_self)
      simp only [firstHolding, checked, bind, Except.bind]
      cases met : condition.holds p with
      | true => exact ⟨_, rfl, by simp [met]⟩
      | false => exact ⟨found, later, by simp [met, some]⟩

/-- At a fetch, the check asks for a stop exactly when there is a cause, and records the one that
ranks highest; otherwise it changes nothing. -/
theorem checkFetch_eq (h : b.Valid p.config.variant) (fetch : p.atFetch = true) :
    match b.fetchCause? p with
    | some reason => ∃ (after : Breakpoints) (event : BreakEvent),
        b.checkFetch p p.registers.pc = (after, .ok false) ∧ after.Valid p.config.variant ∧
          after.lastEvent = some event ∧ event.reason = reason ∧
            event.address = some p.registers.pc
    | none => b.checkFetch p p.registers.pc = (b, .ok true) := by
  unfold checkFetch fetchCause?
  rw [fetch]
  by_cases requested : b.breakRequested = true
  · simp only [requested, Bool.not_true, Bool.false_eq_true, if_false, if_true]
    exact ⟨_, _, rfl, ⟨h.checked, h.conditions⟩, rfl, rfl, rfl⟩
  · by_cases step : b.stepMode = true
    · simp only [requested, step, Bool.not_true, Bool.false_eq_true, if_false, if_true]
      exact ⟨_, _, rfl, ⟨h.checked, h.conditions⟩, rfl, rfl, rfl⟩
    · by_cases here : b.addresses.contains p.registers.pc = true
      · simp only [requested, step, here, Bool.not_true, Bool.false_eq_true, if_false, if_true]
        exact ⟨_, _, rfl, ⟨h.checked, h.conditions⟩, rfl, rfl, rfl⟩
      · obtain ⟨found, first, some⟩ := firstHolding_eq h.conditions
        simp only [requested, step, here, Bool.not_true, Bool.false_eq_true, if_false, first]
        rw [holds, ← some]
        cases found with
        | none => rfl
        | some condition => exact ⟨_, _, rfl, ⟨h.checked, h.conditions⟩, rfl, rfl, rfl⟩

/-! ## What checks leave alone -/

@[simp] theorem marks_withLast (b : Breakpoints) (lastEvent : Option BreakEvent) :
    (b.withLast lastEvent).marks = b.marks := rfl

@[simp] theorem marks_record (b : Breakpoints) (event : BreakEvent) :
    (b.record event).marks = b.marks := rfl

@[simp] theorem marks_checkFetch (b : Breakpoints) (p : Processor) (pc : Int) :
    (b.checkFetch p pc).1.marks = b.marks := by
  unfold checkFetch
  split_ifs
  · rfl
  · rfl
  · rfl
  · simp only
    split <;> rfl

end Breakpoints

end SerialMachine
