import Mathlib.Data.Finmap
import Mathlib.Order.Bounds.Basic
import SerialMachine.Proofs.Checks

/-!
# Numbered conditions

The conditions of a debugger are a finite map from numbers to conditions, kept as a list with holes.
Main statement: whatever is added, removed and cleared, each request does to the list what it does
to the map; the listing is the map in the order of its numbers, and of the conditions that hold at a
fetch the one with the lowest number is reported.
-/

namespace SerialMachine

/-- The condition itself, unless it names a flag that the given variant lacks. -/
def Condition.checkedFor (variant : Option Variant) (c : Condition) :
    Except InvalidValue Condition :=
  match variant with
  | none => .ok c
  | some variant => (fun _ => c) <$> c.validate variant

/-- The parts that a condition is made of, and the variant that it is checked for on its own. -/
structure ConditionParts where
  register : String
  comparison : String
  value : Comparand
  description : String := ""
  checked : Option Variant := none

/-- The condition with the parts. -/
def ConditionParts.make (parts : ConditionParts) : Except InvalidValue Condition :=
  Condition.makeFor parts.checked parts.register parts.comparison parts.value parts.description

/-- What a user asks of the conditions. -/
inductive ConditionRequest
  | add (condition : Condition)
  | addParts (parts : ConditionParts)
  | remove (number : Int)
  | clear
  /-- Everything is forgotten, the conditions among it. -/
  | clearAll

/-- The condition that a request adds under a variant, or why it adds none; none for a request that
is no addition. -/
def ConditionRequest.added? (variant : Option Variant) :
    ConditionRequest → Option (Except InvalidValue Condition)
  | .add condition => some (condition.checkedFor variant)
  | .addParts parts => some (parts.make >>= Condition.checkedFor variant)
  | _ => none

/-! ## Requests to a map -/

/-- Conditions by number. -/
abbrev ConditionTable := Finmap fun _ : Nat => Condition

/-- What a request to a finite map answers, and the map after it. -/
inductive ConditionTable.Answers (variant : Option Variant) (table : ConditionTable) :
    ConditionRequest → Except InvalidValue (Option Nat) → ConditionTable → Prop
  /-- An addition binds the lowest number that is not bound. -/
  | added {request : ConditionRequest} {condition : Condition} {number : Nat}
      (admitted : request.added? variant = some (.ok condition))
      (least : IsLeast {n | n ∉ table} number) :
      Answers variant table request (.ok (some number)) (table.insert number condition)
  | rejected {request : ConditionRequest} {cause : InvalidValue}
      (refused : request.added? variant = some (.error cause)) :
      Answers variant table request (.error cause) table
  | removed (number : Nat) : Answers variant table (.remove number) (.ok none) (table.erase number)
  | ignored {number : Int} (negative : number < 0) :
      Answers variant table (.remove number) (.ok none) table
  | cleared : Answers variant table .clear (.ok none) ∅
  | clearedAll : Answers variant table .clearAll (.ok none) ∅

/-- What a sequence of requests to a finite map answers, and the map after it. -/
inductive ConditionTable.AnswersAll (variant : Option Variant) :
    ConditionTable → List ConditionRequest → List (Except InvalidValue (Option Nat)) →
      ConditionTable → Prop
  | nil {table : ConditionTable} : AnswersAll variant table [] [] table
  | cons {table next last : ConditionTable} {request : ConditionRequest}
      {requests : List ConditionRequest} {answer : Except InvalidValue (Option Nat)}
      {answers : List (Except InvalidValue (Option Nat))}
      (first : table.Answers variant request answer next)
      (rest : AnswersAll variant next requests answers last) :
      AnswersAll variant table (request :: requests) (answer :: answers) last

namespace Breakpoints

/-! ## Requests to the breakpoints -/

/-- An addition answers with its number; one that is refused leaves the breakpoints as they are. -/
def conclude (b : Breakpoints) :
    Except InvalidValue (Nat × Breakpoints) → Except InvalidValue (Option Nat) × Breakpoints
  | .ok (number, after) => (.ok (some number), after)
  | .error cause => (.error cause, b)

/-- The answer to a request and the breakpoints after it. -/
def serve (b : Breakpoints) :
    ConditionRequest → Except InvalidValue (Option Nat) × Breakpoints
  | .add condition => b.conclude (b.addCondition condition)
  | .addParts parts => b.conclude (parts.make >>= b.addCondition)
  | .remove number => (.ok none, b.removeCondition number)
  | .clear => (.ok none, b.clearConditions)
  | .clearAll => (.ok none, b.clearAll)

/-- The answers to a sequence of requests and the breakpoints after it. -/
def serveAll (b : Breakpoints) :
    List ConditionRequest → List (Except InvalidValue (Option Nat)) × Breakpoints
  | [] => ([], b)
  | request :: requests =>
    let rest := (b.serve request).2.serveAll requests
    ((b.serve request).1 :: rest.1, rest.2)

/-- The conditions as a finite map. -/
def table (b : Breakpoints) : ConditionTable :=
  (b.numbered.map fun entry => (⟨entry.1, entry.2⟩ : (_ : Nat) × Condition)).toFinmap

variable {b : Breakpoints}

/-! ## The listing -/

theorem mem_numbered {number : Nat} {condition : Condition} :
    (number, condition) ∈ b.numbered ↔ b.conditions[number]? = some (some condition) := by
  unfold numbered
  rw [List.mem_filterMap]
  constructor
  · rintro ⟨⟨condition?, place⟩, member, same⟩
    obtain ⟨found, there, pair⟩ := Option.map_eq_some_iff.1 same
    obtain ⟨rfl, rfl⟩ := Prod.mk.inj pair
    subst there
    exact List.mem_zipIdx_iff_getElem?.1 member
  · intro bound
    exact ⟨(some condition, number), List.mem_zipIdx_iff_getElem?.2 bound, rfl⟩

theorem numbered_increasing (b : Breakpoints) :
    (b.numbered.map Prod.fst).Pairwise (· < ·) := by
  have places : b.conditions.zipIdx.Pairwise (·.2 < ·.2) := by
    rw [← List.pairwise_map, List.zipIdx_map_snd]
    exact List.pairwise_lt_range'
  rw [List.pairwise_map]
  refine List.Pairwise.filterMap _ (fun first second before entry same other same' => ?_) places
  obtain ⟨_, -, rfl⟩ := Option.map_eq_some_iff.1 same
  obtain ⟨_, -, rfl⟩ := Option.map_eq_some_iff.1 same'
  exact before

/-- The map holds what the list holds at the place of the number. -/
theorem lookup_table (b : Breakpoints) (number : Nat) :
    b.table.lookup number = b.conditions[number]?.join := by
  have keys : (b.numbered.map
      fun entry => (⟨entry.1, entry.2⟩ : (_ : Nat) × Condition)).NodupKeys := by
    rw [List.NodupKeys, List.keys, List.map_map]
    exact b.numbered_increasing.imp Nat.ne_of_lt
  ext condition
  rw [table, Finmap.dlookup_list_toFinmap, ← Option.mem_def, List.mem_dlookup_iff keys,
    Option.join_eq_some_iff, ← mem_numbered]
  simp

theorem notMem_table {number : Nat} :
    number ∉ b.table ↔ b.conditions[number]?.join = none := by
  rw [← Finmap.lookup_eq_none, lookup_table]

/-! ## One request -/

theorem table_of_conditions_eq_nil (empty : b.conditions = []) : b.table = ∅ := by
  apply Finmap.ext_lookup
  intro number
  rw [lookup_table, empty]
  rfl

theorem getElem?_fill (condition : Condition) (conditions : List (Option Condition))
    (number : Nat) : (fill condition conditions)[number]?.join =
      if number = conditions.findIdx (·.isNone) then some condition
      else conditions[number]?.join := by
  induction conditions generalizing number with
  | nil => cases number <;> simp [fill]
  | cons first rest ih =>
    cases first with
    | none => cases number <;> simp [fill, List.findIdx_cons]
    | some other =>
      cases number with
      | zero => simp [fill, List.findIdx_cons]
      | succ number => simpa [fill, List.findIdx_cons] using ih number

/-- Below the first hole every number is bound, and there none is. -/
theorem isLeast_freeNumber (b : Breakpoints) : IsLeast {n | n ∉ b.table} b.freeNumber := by
  constructor
  · rw [Set.mem_ofPred_eq, notMem_table]
    by_cases hole : b.freeNumber < b.conditions.length
    · have none : (b.conditions[b.freeNumber]).isNone = true := List.findIdx_getElem
      rw [List.getElem?_eq_getElem hole, Option.isNone_iff_eq_none.1 none]
      rfl
    · rw [List.getElem?_eq_none (by omega)]
      rfl
  · intro number unbound
    rw [Set.mem_ofPred_eq, notMem_table] at unbound
    by_contra below
    have lower : number < b.freeNumber := by omega
    have inside : number < b.conditions.length := lower.trans_le List.findIdx_le_length
    have bound : (b.conditions[number]).isNone = false := List.not_of_lt_findIdx lower
    rw [List.getElem?_eq_getElem inside, Option.join_some] at unbound
    rw [unbound] at bound
    cases bound

/-- The lowest free number, and the breakpoints with a condition there. -/
def numberNext (b : Breakpoints) (condition : Condition) : Nat × Breakpoints :=
  (b.freeNumber, { b with conditions := fill condition b.conditions })

theorem addCondition_eq (b : Breakpoints) (condition : Condition) :
    b.addCondition condition = (condition.checkedFor b.variant).map b.numberNext := by
  obtain ⟨_ | variant, addresses, reads, writes, conditions⟩ := b
  · rfl
  · simp only [addCondition, Condition.checkedFor]
    cases condition.validate variant <;> rfl

theorem table_numberNext (b : Breakpoints) (condition : Condition) :
    (b.numberNext condition).2.table = b.table.insert b.freeNumber condition := by
  apply Finmap.ext_lookup
  intro number
  rw [lookup_table, numberNext, getElem?_fill, ← freeNumber]
  by_cases same : number = b.freeNumber
  · rw [if_pos same, same, Finmap.lookup_insert]
  · rw [if_neg same, Finmap.lookup_insert_of_ne _ same, lookup_table]

theorem table_removeCondition (b : Breakpoints) (number : Nat) :
    (b.removeCondition number).table = b.table.erase number := by
  have natural : ¬(number : Int) < 0 := by omega
  apply Finmap.ext_lookup
  intro other
  rw [lookup_table, removeCondition, if_neg natural, Int.toNat_natCast, List.getElem?_set]
  by_cases same : number = other
  · subst same
    rw [if_pos rfl, Finmap.lookup_erase]
    split <;> rfl
  · rw [if_neg same, Finmap.lookup_erase_ne (Ne.symm same), lookup_table]

/-- An attempt to add a condition is concluded as the map does it. -/
theorem answers_conclude (b : Breakpoints) {request : ConditionRequest}
    {attempt : Except InvalidValue Condition} (added : request.added? b.variant = some attempt) :
    b.table.Answers b.variant request (b.conclude (attempt.map b.numberNext)).1
      (b.conclude (attempt.map b.numberNext)).2.table := by
  cases attempt with
  | error cause => exact .rejected added
  | ok condition =>
    have bound := ConditionTable.Answers.added added b.isLeast_freeNumber
    rwa [← table_numberNext] at bound

theorem makeAndAdd_eq (b : Breakpoints) (parts : ConditionParts) :
    (parts.make >>= b.addCondition) =
      (parts.make >>= Condition.checkedFor b.variant).map b.numberNext := by
  cases parts.make with
  | error cause => rfl
  | ok condition => exact b.addCondition_eq condition

/-- The breakpoints answer a request as the map does. -/
theorem answers_serve (b : Breakpoints) (request : ConditionRequest) :
    b.table.Answers b.variant request (b.serve request).1 (b.serve request).2.table := by
  cases request with
  | add condition =>
    rw [serve, addCondition_eq]
    exact b.answers_conclude rfl
  | addParts parts =>
    rw [serve, makeAndAdd_eq]
    exact b.answers_conclude rfl
  | remove number =>
    by_cases negative : number < 0
    · rw [serve, removeCondition, if_pos negative]
      exact .ignored negative
    · obtain ⟨number, rfl⟩ := Int.eq_ofNat_of_zero_le (Int.not_lt.1 negative)
      rw [serve, table_removeCondition]
      exact .removed number
  | clear =>
    rw [serve, table_of_conditions_eq_nil (show b.clearConditions.conditions = [] from rfl)]
    exact .cleared
  | clearAll =>
    rw [serve, table_of_conditions_eq_nil (show b.clearAll.conditions = [] from rfl)]
    exact .clearedAll

theorem variant_conclude (b : Breakpoints) (attempt : Except InvalidValue Condition) :
    (b.conclude (attempt.map b.numberNext)).2.variant = b.variant := by
  cases attempt <;> rfl

theorem variant_serve (b : Breakpoints) (request : ConditionRequest) :
    (b.serve request).2.variant = b.variant := by
  cases request with
  | add condition =>
    rw [serve, addCondition_eq]
    exact b.variant_conclude _
  | addParts parts =>
    rw [serve, makeAndAdd_eq]
    exact b.variant_conclude _
  | remove number =>
    rw [serve, removeCondition]
    split <;> rfl
  | clear | clearAll => rfl

/-- A request that is refused changes nothing. -/
theorem serve_of_error {request : ConditionRequest} {cause : InvalidValue}
    (refused : (b.serve request).1 = .error cause) : (b.serve request).2 = b := by
  have concluded {attempt : Except InvalidValue (Nat × Breakpoints)}
      (refused : (b.conclude attempt).1 = .error cause) : (b.conclude attempt).2 = b := by
    cases attempt with
    | error => rfl
    | ok => cases refused
  cases request with
  | add | addParts => exact concluded refused
  | remove | clear | clearAll => cases refused

/-! ## Sequences of requests -/

theorem answersAll_serveAll (b : Breakpoints) (requests : List ConditionRequest) :
    ConditionTable.AnswersAll b.variant b.table requests (b.serveAll requests).1
      (b.serveAll requests).2.table := by
  induction requests generalizing b with
  | nil => exact .nil
  | cons request requests ih =>
    have rest := ih (b.serve request).2
    rw [variant_serve] at rest
    exact .cons (b.answers_serve request) rest

/-! ## The check at a fetch -/

/-- Of the conditions by number, the one with the lowest number that holds; none when each fails. -/
inductive FirstHolds (p : Processor) (bound : Nat → Option Condition) : Option Condition → Prop
  | found {number : Nat} {condition : Condition} (there : bound number = some condition)
      (holds : condition.check p = .ok true)
      (below : ∀ lower < number, ∀ other, bound lower = some other → other.check p = .ok false) :
      FirstHolds p bound (some condition)
  | nowhere (fails : ∀ number condition, bound number = some condition →
      condition.check p = .ok false) : FirstHolds p bound none

/-- What the check at a fetch comes to when the conditions decide: a stop for the one that was
found. -/
def reported (b : Breakpoints) (pc : Int) : Option Condition → Breakpoints × Except Absent Bool
  | some condition =>
    (b.record {
      reason := .condition, address := some pc
      message := "Condition: " ++ condition.description }, .ok false)
  | none => (b, .ok true)

/-- The conditions that the breakpoints hold are those of a map. -/
structure Keeps (b : Breakpoints) (table : ConditionTable) : Prop where
  /-- The listing is the map, by increasing numbers. -/
  listed : ∀ number condition,
    (number, condition) ∈ b.numbered ↔ table.lookup number = some condition
  increasing : (b.numbered.map Prod.fst).Pairwise (· < ·)
  /-- Where no request and no breakpoint ranks higher, and the processor allows the conditions, the
  first that holds is reported. -/
  reports : ∀ p pc, b.breakRequested = false → b.stepMode = false →
    b.addresses.contains pc = false →
    (∀ number condition, table.lookup number = some condition →
      condition.validate p.config.variant = .ok ()) →
    ∃ found, FirstHolds p (fun number => table.lookup number) found ∧
      b.checkFetch p pc = b.reported pc found

variable {p : Processor}

/-- A condition in front that fails moves the others by one number. -/
theorem FirstHolds.cons {first found : Option Condition} {rest : List (Option Condition)}
    (fails : ∀ condition, first = some condition → condition.check p = .ok false)
    (h : FirstHolds p (fun number => rest[number]?.join) found) :
    FirstHolds p (fun number => (first :: rest)[number]?.join) found := by
  cases h with
  | @found number condition there holds below =>
    have moved : (first :: rest)[number + 1]?.join = some condition := there
    refine .found moved holds ?_
    intro lower lt other bound
    cases lower with
    | zero => exact fails other bound
    | succ lower => exact below lower (by omega) other bound
  | nowhere none =>
    refine .nowhere ?_
    intro number condition bound
    cases number with
    | zero => exact fails condition bound
    | succ number => exact none number condition bound

/-- The search through the list finds the condition with the lowest number that holds. -/
theorem exists_firstHolding {conditions : List (Option Condition)}
    (valid : ∀ (number : Nat) (condition : Condition), conditions[number]?.join = some condition →
      condition.validate p.config.variant = .ok ()) :
    ∃ found, firstHolding p conditions = .ok found ∧
      FirstHolds p (fun number => conditions[number]?.join) found := by
  induction conditions with
  | nil => exact ⟨none, rfl, .nowhere fun number condition bound => by simp at bound⟩
  | cons first rest ih =>
    obtain ⟨found, later, least⟩ := ih fun number => valid (number + 1)
    cases first with
    | none => exact ⟨found, later, least.cons fun condition same => by cases same⟩
    | some condition =>
      have checked := Condition.check_eq (valid 0 condition rfl)
      simp only [firstHolding, checked, bind, Except.bind]
      cases met : condition.holds p with
      | true =>
        have front : (some condition :: rest)[0]?.join = some condition := rfl
        rw [met] at checked
        exact ⟨some condition, rfl, .found front checked fun lower lt => by omega⟩
      | false =>
        rw [met] at checked
        refine ⟨found, later, least.cons ?_⟩
        intro other same
        rwa [← Option.some.inj same]

theorem keeps_table (b : Breakpoints) : b.Keeps b.table where
  listed number condition := by
    rw [mem_numbered, lookup_table, Option.join_eq_some_iff]
  increasing := b.numbered_increasing
  reports p pc requested step away valid := by
    simp only [lookup_table] at valid ⊢
    obtain ⟨found, first, least⟩ := exists_firstHolding valid
    refine ⟨found, least, ?_⟩
    simp only [checkFetch, requested, step, away, Bool.false_eq_true, if_false, first]
    cases found <;> rfl

/-- Whatever is asked of the conditions, the answers are those of a finite map, and the breakpoints
hold the conditions that the map holds; a request that is refused changes nothing. -/
theorem conditions_numbered (b : Breakpoints) (requests : List ConditionRequest) :
    (∃ table,
      ConditionTable.AnswersAll b.variant b.table requests (b.serveAll requests).1 table ∧
        (b.serveAll requests).2.Keeps table) ∧
    ∀ request cause, ((b.serveAll requests).2.serve request).1 = .error cause →
      ((b.serveAll requests).2.serve request).2 = (b.serveAll requests).2 :=
  ⟨⟨_, b.answersAll_serveAll requests, keeps_table _⟩, fun _ _ => serve_of_error⟩

/-- Requests that free a number and take it again; the base variant has no flag `IE`. -/
def reusing : List ConditionRequest := [
  .addParts { register := "ACC", comparison := "==", value := .number 0x41 },
  .addParts { register := "flag_z", comparison := "==", value := .truth true },
  .addParts { register := "flag_ie", comparison := "!=", value := .number 0 },
  .remove (-1), .remove 0, .remove 7,
  .addParts { register := "pc", comparison := "&", value := .number 1 }]

theorem conditions_numbered_reusing :
    (serveAll { variant := some .base } reusing).1 =
      [.ok (some 0), .ok (some 1), .error (.unknownFlag "flag_ie" .base), .ok none, .ok none,
        .ok none, .ok (some 0)] ∧
    ∃ table,
      ConditionTable.AnswersAll (some .base) ∅ reusing
        (serveAll { variant := some .base } reusing).1 table ∧
      (serveAll { variant := some .base } reusing).2.Keeps table := by
  have numbered := (conditions_numbered { variant := some .base } reusing).1
  rw [table_of_conditions_eq_nil rfl] at numbered
  exact ⟨by decide +kernel, numbered⟩

end Breakpoints

end SerialMachine
