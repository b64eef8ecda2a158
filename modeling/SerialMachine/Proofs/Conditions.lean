import SerialMachine.Proofs.Attempts
import SerialMachine.Proofs.Emulation
import SerialMachine.Proofs.Numbering
import SerialMachine.Proofs.Subjects

/-!
# Conditions that can always be examined

Main statement: of all calls that add conditions, an emulator accepts those that name something its
variant has and compare it by a known symbol; each of the conditions can be examined on every
machine of the variant and holds when the comparison does, so that none ever refuses a run.
-/

namespace SerialMachine

/-! ## Conditions from parts -/

namespace Condition

variable {register comparison description : String} {value : Comparand} {c c' : Condition}
  {variant? : Option Variant} {cause : InvalidValue}

theorem checkedFor_eq_ok_iff :
    c.checkedFor variant? = .ok c' ↔
      c = c' ∧ ∀ variant, variant? = some variant → c.validate variant = .ok () := by
  cases variant? with
  | none => simp [checkedFor]
  | some variant =>
    simp only [checkedFor, Option.some.injEq, forall_eq']
    cases c.validate variant <;> simp

theorem bind_checkedFor_eq_ok_iff {attempt : Except InvalidValue Condition} :
    attempt >>= checkedFor variant? = .ok c ↔
      attempt = .ok c ∧ ∀ variant, variant? = some variant → c.validate variant = .ok () := by
  rw [bind_eq_ok_iff]
  constructor
  · rintro ⟨made, done, checked⟩
    obtain ⟨rfl, allowed⟩ := checkedFor_eq_ok_iff.1 checked
    exact ⟨done, allowed⟩
  · rintro ⟨done, allowed⟩
    exact ⟨c, done, checkedFor_eq_ok_iff.2 ⟨rfl, allowed⟩⟩

theorem makeFor_eq : makeFor variant? register comparison value description =
    make register comparison value description >>= checkedFor variant? := by
  unfold makeFor
  congr 1
  funext c
  cases variant? with
  | none => rfl
  | some variant =>
    simp only [checkedFor]
    cases c.validate variant <;> rfl

theorem make_eq_ok_iff : make register comparison value description = .ok c ↔
    describe register comparison value description = .ok c.description ∧
      Subject.ofName register = .ok c.subject ∧
        Comparison.ofName? comparison = some c.comparison ∧ value = c.value := by
  obtain ⟨subject, c, value', description'⟩ := c
  unfold make
  simp only [bind_eq_ok_iff]
  cases Comparison.ofName? comparison with
  | none => simp [throw, throwThe, MonadExceptOf.throw]
  | some found =>
    simp only [pure, Except.pure, Except.ok.injEq, Condition.mk.injEq, Option.some.injEq]
    constructor
    · rintro ⟨_, described, _, read, rfl, rfl, rfl, rfl⟩
      exact ⟨described, read, rfl, rfl⟩
    · rintro ⟨described, read, rfl, rfl⟩
      exact ⟨_, described, _, read, rfl, rfl, rfl, rfl⟩

/-- A description takes a decimal numeral only where no text is given for it. -/
theorem exists_describe_iff :
    (∃ text, describe register comparison value description = .ok text) ↔
      (description = "" → ∀ number, value = .number number →
        number.natAbs < 10 ^ Text.decimalDigitLimit) := by
  unfold describe
  by_cases given : description = ""
  · subst given
    cases value with
    | truth on => simp [Comparand.described]
    | number n =>
      simp only [Comparand.described, InvalidValue.decimal, Text.writeDecimal?, Nat.pow_eq]
      by_cases long : 10 ^ Text.decimalDigitLimit ≤ n.natAbs
      · simp [long]
      · simp [long, Nat.lt_of_not_le long]
  · simp [given]

/-! Whatever a condition is refused for, it is no want of room. -/

theorem overtaxesHost_of_describe
    (refused : describe register comparison value description = .error cause) :
    cause.overtaxesHost = false := by
  unfold describe at refused
  split at refused
  · cases value with
    | truth on => cases refused
    | number n =>
      simp only [Comparand.described, InvalidValue.decimal] at refused
      generalize Text.writeDecimal? n = written at refused
      cases written with
      | none =>
        obtain rfl := Except.error.inj refused
        rfl
      | some text => cases refused
  · cases refused

theorem overtaxesHost_of_ofName (refused : Subject.ofName register = .error cause) :
    cause.overtaxesHost = false := by
  unfold Subject.ofName at refused
  simp only at refused
  split at refused
  · cases refused
  · split at refused
    · cases refused
    · obtain rfl := Except.error.inj refused
      rfl

theorem overtaxesHost_of_make
    (refused : make register comparison value description = .error cause) :
    cause.overtaxesHost = false := by
  unfold make at refused
  obtain undescribed | ⟨text, -, rest⟩ := bind_eq_error_iff.1 refused
  · exact overtaxesHost_of_describe undescribed
  obtain unread | ⟨subject, -, rest⟩ := bind_eq_error_iff.1 rest
  · exact overtaxesHost_of_ofName unread
  split at rest
  · obtain rfl := Except.error.inj rest
    rfl
  · cases rest

theorem overtaxesHost_of_checkedFor (refused : c.checkedFor variant? = .error cause) :
    cause.overtaxesHost = false := by
  cases variant? with
  | none => cases refused
  | some variant =>
    obtain ⟨⟨r⟩ | ⟨short⟩, comparison, value, description⟩ := c
    · cases refused
    · simp only [checkedFor, validate, Subject.validate] at refused
      cases found : Flag.ofName? variant (Text.upperString short) with
      | none =>
        rw [found] at refused
        obtain rfl := Except.error.inj refused
        rfl
      | some f =>
        rw [found] at refused
        cases refused

end Condition

/-! ## Calls -/

namespace ConditionParts

variable {variant : Variant} {parts : ConditionParts} {c : Condition} {cause : InvalidValue}

/-- The parts make a condition that a debugger for the variant takes. -/
structure Admissible (variant : Variant) (parts : ConditionParts) : Prop where
  /-- The variant has what is named. -/
  named : ∃ place, Denotes variant parts.register place
  /-- So has the variant that the condition is checked for on its own. -/
  checked : ∀ own, parts.checked = some own → ∃ place, Denotes own parts.register place
  comparison : parts.comparison ∈ ["==", "!=", "<", "<=", ">", ">=", "&"]
  /-- A number that has to be written out is not too long for it. -/
  written : parts.description = "" → ∀ number, parts.value = .number number →
    number.natAbs < 10 ^ Text.decimalDigitLimit

/-- On every processor of the variant the condition can be examined, and comes to the comparison of
what the parts name with the value. -/
def Judged (variant : Variant) (parts : ConditionParts) (c : Condition) : Prop :=
  ∀ place, Denotes variant parts.register place → ∀ p : Processor, p.config.variant = variant →
    ∃ met, c.check p = .ok met ∧
      (met = true ↔ Relates parts.comparison (place.value p) parts.value.toInt)

/-- The condition as a debugger for the variant takes it. -/
def taken (variant : Variant) (parts : ConditionParts) : Except InvalidValue Condition :=
  parts.make >>= Condition.checkedFor (some variant)

theorem taken_eq_ok_iff : parts.taken variant = .ok c ↔
    Condition.make parts.register parts.comparison parts.value parts.description = .ok c ∧
      (∀ own, parts.checked = some own → c.validate own = .ok ()) ∧
        c.validate variant = .ok () := by
  rw [taken, make, Condition.makeFor_eq, Condition.bind_checkedFor_eq_ok_iff,
    Condition.bind_checkedFor_eq_ok_iff, and_assoc]
  simp only [Option.some.injEq, forall_eq']

theorem Judged.of_make
    (made : Condition.make parts.register parts.comparison parts.value parts.description = .ok c) :
    parts.Judged variant c := by
  obtain ⟨-, read, compared, value⟩ := Condition.make_eq_ok_iff.1 made
  rintro place named p rfl
  have actual := Subject.read_eq (Subject.place?_of_denotes read named)
  refine ⟨c.comparison.holds (place.value p) c.value.toInt, ?_, ?_⟩
  · rw [Condition.check, actual]
    rfl
  · rw [Comparison.holds_iff, Comparison.name_of_ofName? compared, value]

/-- The parts that are taken are the admissible ones. -/
theorem exists_taken_iff : (∃ c, parts.taken variant = .ok c) ↔ parts.Admissible variant := by
  constructor
  · rintro ⟨c, done⟩
    obtain ⟨made, own, allowed⟩ := taken_eq_ok_iff.1 done
    obtain ⟨described, read, compared, value⟩ := Condition.make_eq_ok_iff.1 made
    refine ⟨?_, ?_, ?_, ?_⟩
    · exact (Subject.validate_eq_ok_iff_denotes read).1 allowed
    · intro variant checked
      exact (Subject.validate_eq_ok_iff_denotes read).1 (own variant checked)
    · exact Comparison.exists_ofName?_iff.1 ⟨_, compared⟩
    · exact Condition.exists_describe_iff.1 ⟨_, described⟩
  · rintro ⟨⟨place, named⟩, checked, comparison, written⟩
    obtain ⟨text, described⟩ := Condition.exists_describe_iff.2 written
    obtain ⟨subject, read, -⟩ := Subject.exists_ofName_of_denotes named
    obtain ⟨compared, found⟩ := Comparison.exists_ofName?_iff.2 comparison
    have made := Condition.make_eq_ok_iff
      (c := ⟨subject, compared, parts.value, text⟩) |>.2 ⟨described, read, found, rfl⟩
    refine ⟨_, taken_eq_ok_iff.2 ⟨made, ?_, ?_⟩⟩
    · intro own same
      exact (Subject.validate_eq_ok_iff_denotes read).2 (checked own same)
    · exact (Subject.validate_eq_ok_iff_denotes read).2 ⟨place, named⟩

theorem overtaxesHost_of_taken (refused : parts.taken variant = .error cause) :
    cause.overtaxesHost = false := by
  obtain unmade | ⟨c, -, unchecked⟩ := bind_eq_error_iff.1 refused
  · rw [make, Condition.makeFor_eq] at unmade
    obtain unmade | ⟨c, -, unchecked⟩ := bind_eq_error_iff.1 unmade
    · exact Condition.overtaxesHost_of_make unmade
    · exact Condition.overtaxesHost_of_checkedFor unchecked
  · exact Condition.overtaxesHost_of_checkedFor unchecked

/-- What a call comes to that adds the condition with the parts: its number, under which it stands
in the table at the end, or a refusal. -/
inductive Settled (variant : Variant) (table : ConditionTable) (parts : ConditionParts) :
    Except InvalidValue (Option Nat) → Prop
  | accepted {number : Nat} {c : Condition} (admissible : parts.Admissible variant)
      (there : table.lookup number = some c) (judged : parts.Judged variant c) :
      Settled variant table parts (.ok (some number))
  | refused {cause : InvalidValue} (inadmissible : ¬parts.Admissible variant)
      (value : cause.overtaxesHost = false) : Settled variant table parts (.error cause)

variable {table later : ConditionTable} {answer : Except InvalidValue (Option Nat)}

/-- Additions leave the conditions that there are under their numbers. -/
theorem lookup_of_answers {number : Nat}
    (answers : table.Answers (some variant) (.addParts parts) answer later)
    (there : table.lookup number = some c) : later.lookup number = some c := by
  cases answers with
  | added admitted least =>
    have bound : number ∈ table := Finmap.mem_iff.2 ⟨c, there⟩
    rw [Finmap.lookup_insert_of_ne, there]
    rintro rfl
    exact least.1 bound
  | rejected => exact there

theorem settled_of_answers
    (answers : table.Answers (some variant) (.addParts parts) answer later) :
    parts.Settled variant later answer := by
  cases answers with
  | @added _ c number admitted least =>
    have done : parts.taken variant = .ok c := Option.some.inj admitted
    have made := (taken_eq_ok_iff.1 done).1
    exact .accepted (exists_taken_iff.1 ⟨c, done⟩) (Finmap.lookup_insert table) (.of_make made)
  | @rejected _ cause refused =>
    have refused : parts.taken variant = .error cause := Option.some.inj refused
    refine .refused ?_ (overtaxesHost_of_taken refused)
    intro admissible
    obtain ⟨c, done⟩ := exists_taken_iff.2 admissible
    cases refused.symm.trans done

theorem Settled.mono (settled : parts.Settled variant table answer)
    (kept : ∀ number c, table.lookup number = some c → later.lookup number = some c) :
    parts.Settled variant later answer := by
  cases settled with
  | accepted admissible there judged => exact .accepted admissible (kept _ _ there) judged
  | refused inadmissible value => exact .refused inadmissible value

/-- After a call, what is under a number was there before or has come there by the call. -/
theorem answered_of_answers {number : Nat}
    (answers : table.Answers (some variant) (.addParts parts) answer later)
    (there : number ∈ later) : answer = .ok (some number) ∨ number ∈ table := by
  cases answers with
  | added => exact (Finmap.mem_insert.1 there).imp_left fun same => by rw [same]
  | rejected => exact Or.inr there

end ConditionParts

namespace Breakpoints

variable {variant : Variant} {b : Breakpoints}

/-- The answers to calls that add the conditions with the given parts, and the breakpoints after
them. -/
def addAll (b : Breakpoints) (calls : List ConditionParts) :
    List (Except InvalidValue (Option Nat)) × Breakpoints :=
  b.serveAll (calls.map .addParts)

/-- What every call keeps, the calls keep. -/
theorem addAll_induction {P : Breakpoints → Prop}
    (kept : ∀ b parts, P b → P (b.serve (.addParts parts)).2) (calls : List ConditionParts)
    (h : P b) : P (b.addAll calls).2 := by
  induction calls generalizing b with
  | nil => exact h
  | cons parts calls ih => exact ih (kept b parts h)

theorem answers_addParts (checked : b.variant = some variant) (parts : ConditionParts) :
    b.table.Answers (some variant) (.addParts parts) (b.serve (.addParts parts)).1
      (b.serve (.addParts parts)).2.table := by
  rw [← checked]
  exact b.answers_serve (.addParts parts)

theorem lookup_addAll (checked : b.variant = some variant) (calls : List ConditionParts)
    {number : Nat} {c : Condition} (there : b.table.lookup number = some c) :
    (b.addAll calls).2.table.lookup number = some c := by
  refine (addAll_induction (P := fun b => b.variant = some variant ∧
    b.table.lookup number = some c) ?_ calls ⟨checked, there⟩).2
  rintro b parts ⟨checked, there⟩
  exact ⟨(b.variant_serve _).trans checked,
    ConditionParts.lookup_of_answers (answers_addParts checked parts) there⟩

/-- Every call is settled by its parts alone. -/
theorem settled_addAll (checked : b.variant = some variant) (calls : List ConditionParts) :
    List.Forall₂ (ConditionParts.Settled variant (b.addAll calls).2.table) calls
      (b.addAll calls).1 := by
  induction calls generalizing b with
  | nil => exact .nil
  | cons parts calls ih =>
    have checked' := (b.variant_serve (.addParts parts)).trans checked
    -- the first call is settled by the table after it, and later calls only extend that
    have first := ConditionParts.settled_of_answers (answers_addParts checked parts)
    exact .cons (first.mono fun _ _ => lookup_addAll checked' calls) (ih checked')

-- The capital form of a dotless `ı` is `I`, and that of a dotted one has two characters.
example : (addAll { variant := some .extended } [
    { register := "Flag_ıE", comparison := "&", value := .truth true },
    { register := "flag_İE", comparison := "&", value := .truth true },
    { register := "PC", comparison := "=", value := .number 4 }]).1 =
      [.ok (some 0), .error (.unknownFlag "flag_i̇e" .extended),
        .error (.unknownComparison "=")] := by
  decide +kernel

/-- Only the calls put conditions there. -/
theorem answered_addAll (checked : b.variant = some variant) (calls : List ConditionParts)
    {number : Nat} (there : number ∈ (b.addAll calls).2.table) :
    .ok (some number) ∈ (b.addAll calls).1 ∨ number ∈ b.table := by
  induction calls generalizing b with
  | nil => exact Or.inr there
  | cons parts calls ih =>
    have checked' := (b.variant_serve (.addParts parts)).trans checked
    obtain later | before := ih checked' there
    · exact Or.inl (List.mem_cons_of_mem _ later)
    · have first := answers_addParts checked parts
      obtain now | before := ConditionParts.answered_of_answers first before
      · exact Or.inl (List.mem_cons.2 (Or.inl now.symm))
      · exact Or.inr before

theorem Valid.addParts (h : b.Valid variant) (parts : ConditionParts) :
    (b.serve (.addParts parts)).2.Valid variant := by
  rw [serve]
  cases attempt : parts.make >>= b.addCondition with
  | error cause => exact h
  | ok added =>
    obtain ⟨condition, -, done⟩ := bind_eq_ok_iff.1 attempt
    exact h.addCondition done

theorem Valid.addAll (h : b.Valid variant) (calls : List ConditionParts) :
    (b.addAll calls).2.Valid variant :=
  addAll_induction (fun _ parts valid => valid.addParts parts) calls h

/-- Conditions that are allowed never keep the check at a fetch from an answer. -/
theorem Valid.exists_checkFetch {p : Processor} (h : b.Valid p.config.variant) (pc : Int) :
    ∃ goOn, (b.checkFetch p pc).2 = .ok goOn := by
  obtain ⟨found, first, -⟩ := firstHolding_eq h.conditions
  unfold checkFetch
  split_ifs
  · exact ⟨false, rfl⟩
  · exact ⟨false, rfl⟩
  · exact ⟨false, rfl⟩
  · rw [first]
    cases found with
    | none => exact ⟨true, rfl⟩
    | some condition => exact ⟨false, rfl⟩

end Breakpoints

/-! ## Runs -/

namespace Emulator

variable {e : Emulator}

/-- Nothing that is stepped or run is refused because a look-up finds nothing. -/
structure FindsAll (e : Emulator) : Prop where
  step : ∀ absent, e.step.status ≠ .error (.absent absent)
  execute : ∀ budget absent, (Clocked.execute budget e).ending ≠ .error (.absent absent)
  run : ∀ maxCycles absent, (e.run maxCycles).answer ≠ .error (.absent absent)
  untilPc : ∀ address maxCycles absent,
    (e.runUntilPc address maxCycles).answer ≠ .error (.absent absent)
  untilHalt : ∀ maxCycles absent, (e.runUntilHalt maxCycles).answer ≠ .error (.absent absent)

/-- What refuses no step refuses no run. -/
theorem ending_extend_ne {σ : Type} {P : σ → Prop} {step : σ → Step σ} {refusal : Refusal}
    (kept : ∀ s, P s → P (step s).state) (never : ∀ s, P s → (step s).status ≠ .error refusal)
    (stop : σ → Bool) (budget : Nat) {s : σ} (h : P s) (executed : Nat) (events : Array Event) :
    (Run.extend step stop budget s executed events).ending ≠ .error refusal := by
  induction budget generalizing s executed events with
  | zero => simp [Run.extend]
  | succ budget ih =>
    have first := never s h
    simp only [Run.extend]
    split
    · next other status =>
      rw [status] at first
      simpa using first
    · simp
    · simp
    · split
      · simp
      · exact ih (kept s h) _ _

theorem Sound.step_ne_absent (h : e.Sound) (absent : Absent) :
    e.step.status ≠ .error (.absent absent) := by
  rw [h.turned.status]
  split <;> simp

theorem Sound.extend_ne_absent (h : e.Sound) (stop : Emulator → Bool) (budget : Nat)
    (absent : Absent) :
    (Run.extend Emulator.step stop budget e 0 #[]).ending ≠ .error (.absent absent) := by
  apply ending_extend_ne lasting_sound.step _ stop budget h
  intro s sound
  exact sound.step_ne_absent absent

theorem Sound.run_ne_absent (h : e.Sound) (maxCycles : Int) (absent : Absent) :
    (e.run maxCycles).answer ≠ .error (.absent absent) := by
  have ready := lasting_sound.asked e false false h
  rw [answer_run]
  intro refused
  obtain ended | ⟨ending, cause, -, -, invalid⟩ := conclusion_eq_error_iff.1 refused
  · exact ready.extend_ne_absent stopAsked maxCycles.toNat absent ended
  · cases invalid

theorem Sound.untilPc_ne_absent (h : e.Sound) (address maxCycles : Int) (absent : Absent) :
    (e.runUntilPc address maxCycles).answer ≠ .error (.absent absent) := by
  have plain : ∀ armed : Emulator, armed.Sound → ∀ reached : BreakEvent → Bool,
      (armed.run maxCycles).answer.map reached ≠ .error (.absent absent) := by
    intro armed sound reached lost
    have run := sound.run_ne_absent maxCycles absent
    cases answer : (armed.run maxCycles).answer with
    | ok event =>
      rw [answer] at lost
      cases lost
    | error refusal =>
      rw [answer] at lost
      cases lost
      exact run answer
  unfold runUntilPc
  simp only
  split
  · exact plain e h _
  · exact plain _ (h.edit (.addBreakpoint address)) _

theorem Sound.untilHalt_ne_absent (h : e.Sound) (fuel : Nat) (remaining : Int)
    (events : Array Event) (absent : Absent) :
    (untilHalt fuel e remaining events).answer ≠ .error (.absent absent) := by
  induction fuel generalizing e remaining events with
  | zero => simp [untilHalt]
  | succ fuel ih =>
    have run := h.run_ne_absent remaining absent
    unfold untilHalt
    split
    · simp
    · simp only
      split
      · next refusal answer =>
        rw [answer] at run
        simpa using run
      · split
        · simp
        · simp
        · simp
        · exact ih (h.run remaining) _ _

theorem Sound.findsAll (h : e.Sound) : e.FindsAll where
  step := h.step_ne_absent
  execute budget :=
    (lasting_sound.asked e false e.transferStop h).extend_ne_absent (·.fetchStop) budget.toNat
  run := h.run_ne_absent
  untilPc := h.untilPc_ne_absent
  untilHalt maxCycles := h.untilHalt_ne_absent _ maxCycles #[]

/-- The emulator as it is built, after calls that add the conditions with the given parts. -/
def makeWith (settings : Settings) (calls : List ConditionParts) : Emulator :=
  (make settings).mapBreakpoints fun b => (b.addAll calls).2

theorem sound_makeWith (settings : Settings) (calls : List ConditionParts) :
    (makeWith settings calls).Sound :=
  ⟨(sound_make settings).processor, rfl, (sound_make settings).checks.addAll calls⟩

/-- What calls that add conditions come to, given their answers and the breakpoints after them. -/
structure Examinable (settings : Settings) (calls : List ConditionParts)
    (answers : List (Except InvalidValue (Option Nat))) (b : Breakpoints) : Prop where
  settled : List.Forall₂ (ConditionParts.Settled settings.config.variant b.table) calls answers
  /-- There are no conditions but the accepted ones. -/
  answered : ∀ number ∈ b.table, .ok (some number) ∈ answers
  /-- The check at a fetch gives an answer, on whatever processor of the configuration. -/
  checks : ∀ p : Processor, p.config = settings.config → ∀ pc,
    ∃ goOn, (b.checkFetch p pc).2 = .ok goOn
  /-- And so no session with the emulator comes to a run that is refused for a condition. -/
  sessions : ∀ requests, ((makeWith settings calls).after requests).FindsAll

/-- The conditions that an emulator accepts can be examined in every session, and hold when the
comparison does that their parts name. -/
theorem conditions_examinable (settings : Settings) (calls : List ConditionParts) :
    Examinable settings calls ((make settings).breakpoints.addAll calls).1
      ((make settings).breakpoints.addAll calls).2 where
  settled := Breakpoints.settled_addAll rfl calls
  answered number there := by
    obtain answered | before := Breakpoints.answered_addAll rfl calls there
    · exact answered
    · rw [Breakpoints.table_of_conditions_eq_nil rfl] at before
      exact absurd before Finmap.notMem_empty
  checks p config pc := by
    have valid := (sound_makeWith settings calls).checks
    rw [show (makeWith settings calls).settings.config = p.config from config.symm] at valid
    exact valid.exists_checkFetch pc
  sessions requests :=
    (lasting_sound.after (sound_makeWith settings calls) fun action _ _ h => h.act action).findsAll

end Emulator

end SerialMachine
