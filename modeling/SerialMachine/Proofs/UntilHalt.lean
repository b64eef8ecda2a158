import SerialMachine.Proofs.Attempts
import SerialMachine.Proofs.Runs

/-!
# Runs up to a halt

A run up to a halt goes past every stop that the breakpoints ask for, and goes on with the cycles
that are left. Main statement: it comes to what the machine alone comes to in the same number of
cycles, whatever the breakpoints are, so that they can neither be noticed nor cost a cycle.
-/

namespace SerialMachine.Emulator

/-- The machine after at most `budget` cycles, which end with a halt, and whether it halted; they
are refused where a fetch cannot be traced. -/
def toHalt (settings : Settings) : (budget : Nat) → Machine Bus → Machine Bus × Except Refusal Bool
  | 0, m => (m, .ok false)
  | budget + 1, m =>
    match traceProblem? settings (m.act .clock) with
    | some cause => (m.act .clock, .error (.invalid cause))
    | none =>
      if (m.act .clock).processor.halted then (m.act .clock, .ok true)
      else toHalt settings budget (m.act .clock)

variable {settings : Settings} {m : Machine Bus} {e : Emulator}

/-! ## Cycles of the machine alone -/

theorem toHalt_add {n : Nat} (passed : ∀ k, 0 < k → k ≤ n → endsRuns settings (m.clocks k) = false)
    (budget : Nat) : toHalt settings (n + budget) m = toHalt settings budget (m.clocks n) := by
  induction n generalizing m with
  | zero => rw [Nat.zero_add, Machine.clocks]
  | succ n ih =>
    have going := passed 1 Nat.one_pos (by omega)
    simp only [Machine.clocks, endsRuns, Bool.or_eq_false_iff, Option.isSome_eq_false_iff,
      Option.isNone_iff_eq_none] at going
    rw [Nat.succ_add, toHalt, going.2]
    simp only [going.1, Bool.false_eq_true, if_false]
    rw [Machine.clocks]
    refine ih fun k pos le => ?_
    exact passed (k + 1) (by omega) (by omega)

theorem toHalt_refused {n budget : Nat} {cause : InvalidValue} (pos : 0 < n) (le : n ≤ budget)
    (passed : ∀ k, 0 < k → k < n → endsRuns settings (m.clocks k) = false)
    (problem : traceProblem? settings (m.clocks n) = some cause) :
    toHalt settings budget m = (m.clocks n, .error (.invalid cause)) := by
  obtain ⟨n, rfl⟩ := Nat.exists_eq_add_one.2 pos
  obtain ⟨d, rfl⟩ := Nat.exists_eq_add_of_le le
  rw [add_assoc, toHalt_add fun k pos le => passed k pos (by omega), add_comm 1 d, toHalt,
    ← Machine.clocks_succ, problem]

theorem toHalt_halted {n budget : Nat} (pos : 0 < n) (le : n ≤ budget)
    (passed : ∀ k, 0 < k → k < n → endsRuns settings (m.clocks k) = false)
    (halted : (m.clocks n).processor.halted = true) :
    toHalt settings budget m = (m.clocks n, .ok true) := by
  obtain ⟨n, rfl⟩ := Nat.exists_eq_add_one.2 pos
  obtain ⟨d, rfl⟩ := Nat.exists_eq_add_of_le le
  rw [add_assoc, toHalt_add fun k pos le => passed k pos (by omega), add_comm 1 d, toHalt,
    ← Machine.clocks_succ, traceProblem?_eq_none_of_halted halted]
  simp only [halted, if_true]

/-- The cycles end after a number of them, and with an answer unless the last comes to a fetch that
cannot be traced. -/
theorem exists_toHalt_eq (settings : Settings) (budget : Nat) (m : Machine Bus) :
    ∃ n, n ≤ budget ∧ (toHalt settings budget m).1 = m.clocks n ∧
      ((∃ halted, (toHalt settings budget m).2 = .ok halted) ∨
        0 < n ∧ ∃ cause, traceProblem? settings (m.clocks n) = some cause ∧
          (toHalt settings budget m).2 = .error (.invalid cause)) := by
  induction budget generalizing m with
  | zero => exact ⟨0, le_rfl, rfl, Or.inl ⟨false, rfl⟩⟩
  | succ budget ih =>
    unfold toHalt
    cases problem : traceProblem? settings (m.act .clock) with
    | some cause => exact ⟨1, by omega, rfl, Or.inr ⟨Nat.one_pos, cause, problem, rfl⟩⟩
    | none =>
      cases halted : (m.act .clock).processor.halted with
      | true => exact ⟨1, by omega, rfl, Or.inl ⟨true, rfl⟩⟩
      | false =>
        obtain ⟨n, le, machine, answer⟩ := ih (m.act .clock)
        exact ⟨n + 1, by omega, machine, answer.imp_right fun refused => ⟨n.succ_pos, refused.2⟩⟩

/-! ## Run after run -/

/-- A stop that the breakpoints ask for is not the end of a run up to a halt. -/
theorem Explains.goes_on {event : BreakEvent} (explains : e.Explains m event) :
    event.reason ≠ .halted ∧ event.reason ≠ .fault ∧ event.reason ≠ .maxCycles := by
  unfold Explains at explains
  cases cause : e.stopCause? m with
  | some reason =>
    rw [cause] at explains
    have ofFetch := (Breakpoints.atFetch_of_fetchCause? cause).2
    rw [← explains.1] at ofFetch
    refine ⟨?_, ?_, ?_⟩ <;> intro same <;> simp [same, BreakReason.ofFetch] at ofFetch
  | none =>
    rw [cause] at explains
    obtain ⟨address, -, ⟨reason, -⟩ | ⟨reason, -⟩⟩ := explains <;> simp [reason]

theorem passed_last {n : Nat}
    (before : ∀ k, 0 < k → k < n → endsRuns settings (m.clocks k) = false)
    (last : 0 < n → endsRuns settings (m.clocks n) = false) :
    ∀ k, 0 < k → k ≤ n → endsRuns settings (m.clocks k) = false := by
  intro k pos le
  rcases Nat.lt_or_eq_of_le le with lt | rfl
  · exact before k pos lt
  · exact last pos

/-- A run up to a halt with `remaining` cycles left leaves the machine `m` and an answer. -/
inductive ComesTo (e : Emulator) (remaining : Int) (m : Machine Bus) : Except Refusal Bool → Prop
  | same {answer : Except Refusal Bool}
    (ended : toHalt e.settings remaining.toNat e.machine = (m, answer)) :
    ComesTo e remaining m answer
  /-- The cycles are used up, and the number of those that were left cannot be written. -/
  | unwritten (ended : toHalt e.settings remaining.toNat e.machine = (m, .ok false))
    (used : m = e.machine.clocks remaining.toNat) (left : 0 < remaining)
    (long : Text.writeDecimal? remaining = none) :
    ComesTo e remaining m (.error (.invalid .longNumeral))

/-- What a run comes to with the cycles that are left is what the one before comes to. -/
theorem ComesTo.of_rest {e' : Emulator} {remaining left : Int} {n : Nat} {m : Machine Bus}
    {answer : Except Refusal Bool} (rest : e'.ComesTo left m answer)
    (settings : e'.settings = e.settings) (machine : e'.machine = e.machine.clocks n)
    (passed : ∀ k, 0 < k → k ≤ n → endsRuns e.settings (e.machine.clocks k) = false)
    (split : remaining.toNat = n + left.toNat) (fewer : left ≤ remaining) :
    e.ComesTo remaining m answer := by
  have ahead : toHalt e.settings remaining.toNat e.machine =
      toHalt e'.settings left.toNat e'.machine := by
    rw [split, toHalt_add passed, settings, machine]
  cases rest with
  | same ended => exact .same (ahead.trans ended)
  | unwritten ended used pos long =>
    refine .unwritten (ahead.trans ended) ?_ (by omega)
      (Text.writeDecimal?_eq_none_of_le (by omega) long)
    rw [used, machine, ← Machine.clocks_add, ← split]

/-- Run after run, an emulator comes to what its machine alone comes to. -/
theorem Sound.untilHalt_comesTo (h : e.Sound) {fuel : Nat} {remaining : Int}
    (enough : remaining.toNat ≤ fuel) (events : Array Event) :
    e.ComesTo remaining (Emulator.untilHalt fuel e remaining events).state.machine
      (Emulator.untilHalt fuel e remaining events).answer := by
  induction fuel generalizing e remaining events with
  | zero =>
    refine .same ?_
    rw [Nat.le_zero.1 enough]
    rfl
  | succ fuel ih =>
    unfold Emulator.untilHalt
    by_cases done : remaining ≤ 0
    · rw [if_pos done]
      refine .same ?_
      rw [Int.toNat_of_nonpos done]
      rfl
    · rw [if_neg done]
      obtain ⟨n, le, machine, settings, passed, answered⟩ := h.exists_answered remaining
      have before k (pos : 0 < k) (lt : k < n) := (passed k pos lt).1
      have usedUp (whole : n = remaining.toNat)
          (quiet : 0 < n → endsRuns e.settings (e.machine.clocks n) = false ∧
            e.stopCause? (e.machine.clocks n) = none) :
          toHalt e.settings remaining.toNat e.machine = (e.machine.clocks n, .ok false) := by
        rw [← whole]
        exact toHalt_add (passed_last before fun pos => (quiet pos).1) 0
      simp only
      generalize (e.run remaining).answer = answer at answered
      cases answered with
      | untraced pos problem =>
        simp only [machine]
        exact .same (toHalt_refused pos le before problem)
      | unwritten _ whole quiet long =>
        simp only [machine]
        exact .unwritten (usedUp whole quiet) (whole ▸ rfl) (by omega) long
      | exhausted _ reason _ whole quiet =>
        simp only [reason, machine]
        exact .same (usedUp whole quiet)
      | halted reason _ pos halted =>
        simp only [reason, machine]
        exact .same (toHalt_halted pos le before halted)
      | @stopped event cycles pos going explains =>
        obtain ⟨unhalted, unfaulted, unfinished⟩ := explains.goes_on
        have fewer : (remaining - event.cycles).toNat ≤ fuel := by omega
        have rest := ih (h.run remaining) fewer (events ++ (e.run remaining).events)
        simp only
        exact rest.of_rest settings machine (passed_last before fun _ => going) (by omega)
          (by omega)

theorem Sound.runUntilHalt_comesTo (h : e.Sound) (maxCycles : Int) :
    e.ComesTo maxCycles (e.runUntilHalt maxCycles).state.machine
      (e.runUntilHalt maxCycles).answer :=
  h.untilHalt_comesTo le_rfl #[]

/-- Fuel for as many runs as there are cycles is enough. -/
theorem Sound.untilHalt_succ (h : e.Sound) {fuel : Nat} {remaining : Int}
    (enough : remaining.toNat ≤ fuel) (events : Array Event) :
    Emulator.untilHalt (fuel + 1) e remaining events =
      Emulator.untilHalt fuel e remaining events := by
  induction fuel generalizing e remaining events with
  | zero =>
    have done : remaining ≤ 0 := by omega
    simp only [Emulator.untilHalt, done, if_true]
  | succ fuel ih =>
    unfold Emulator.untilHalt
    by_cases done : remaining ≤ 0
    · rw [if_pos done, if_pos done]
    · rw [if_neg done, if_neg done]
      obtain ⟨n, -, -, -, -, answered⟩ := h.exists_answered remaining
      simp only
      generalize (e.run remaining).answer = answer at answered
      cases answered with
      | untraced | unwritten => rfl
      | exhausted _ reason _ _ _ => simp only [reason]
      | halted reason _ _ _ => simp only [reason]
      | @stopped event cycles pos going explains =>
        obtain ⟨unhalted, unfaulted, unfinished⟩ := explains.goes_on
        simp only
        exact ih (h.run remaining) (by omega) _

/-- How a run up to a halt that may take `maxCycles` cycles does not depend on the breakpoints. -/
structure Undisturbed (e : Emulator) (maxCycles : Int) : Prop where
  /-- The answer is the same, unless all the cycles are used up and their number cannot be written:
  then it is no, or the run is refused where it would have to tell that number. -/
  answer : (e.runUntilHalt maxCycles).answer =
      ((e.mapBreakpoints (·.clearAll)).runUntilHalt maxCycles).answer ∨
    ((e.runUntilHalt maxCycles).state.machine = e.machine.clocks maxCycles.toNat ∧
      Text.writeDecimal? maxCycles = none ∧
      ∀ answer ∈ [(e.runUntilHalt maxCycles).answer,
        ((e.mapBreakpoints (·.clearAll)).runUntilHalt maxCycles).answer],
        answer = .ok false ∨ answer = .error (.invalid .longNumeral))
  machine : (e.runUntilHalt maxCycles).state.machine =
    ((e.mapBreakpoints (·.clearAll)).runUntilHalt maxCycles).state.machine
  /-- It takes no more cycles than it may, and answers, unless the last one comes to a fetch that
  cannot be traced, or they are used up and their number cannot be written. -/
  ends : ∃ n, n ≤ maxCycles.toNat ∧
    (e.runUntilHalt maxCycles).state.machine = e.machine.clocks n ∧
    ((∃ halted, (e.runUntilHalt maxCycles).answer = .ok halted) ∨
      (0 < n ∧ ∃ cause, traceProblem? e.settings (e.machine.clocks n) = some cause ∧
        (e.runUntilHalt maxCycles).answer = .error (.invalid cause)) ∨
      (n = maxCycles.toNat ∧ Text.writeDecimal? maxCycles = none ∧
        (e.runUntilHalt maxCycles).answer = .error (.invalid .longNumeral)))
  /-- It is not the fuel that ends it. -/
  terminates : ∀ fuel, maxCycles.toNat ≤ fuel →
    untilHalt fuel e maxCycles #[] = e.runUntilHalt maxCycles

/-- More fuel than there are cycles changes nothing. -/
theorem Sound.untilHalt_eq_of_le (h : e.Sound) (maxCycles : Int) {fuel : Nat}
    (enough : maxCycles.toNat ≤ fuel) :
    Emulator.untilHalt fuel e maxCycles #[] = e.runUntilHalt maxCycles := by
  induction fuel, enough using Nat.le_induction with
  | base => rfl
  | succ fuel enough ih => rw [h.untilHalt_succ enough, ih]

theorem ComesTo.machine {remaining : Int} {m : Machine Bus} {answer : Except Refusal Bool}
    (comes : e.ComesTo remaining m answer) :
    m = (toHalt e.settings remaining.toNat e.machine).1 := by
  cases comes with
  | same ended => rw [ended]
  | unwritten ended => rw [ended]

/-- Two runs that come to what the same machine alone comes to. -/
theorem ComesTo.same_answer {remaining : Int} {m : Machine Bus} {a b : Except Refusal Bool}
    (left : e.ComesTo remaining m a) (right : e.ComesTo remaining m b) :
    a = b ∨ (m = e.machine.clocks remaining.toNat ∧ Text.writeDecimal? remaining = none ∧
      ∀ answer ∈ [a, b], answer = .ok false ∨ answer = .error (.invalid .longNumeral)) := by
  cases left with
  | same ended =>
    cases right with
    | same ended' => exact .inl (congrArg Prod.snd (ended.symm.trans ended'))
    | unwritten ended' used _ long =>
      obtain rfl := congrArg Prod.snd (ended.symm.trans ended')
      exact .inr ⟨used, long, by simp⟩
  | unwritten ended used _ long =>
    cases right with
    | same ended' =>
      obtain rfl := congrArg Prod.snd (ended.symm.trans ended')
      exact .inr ⟨used, long, by simp⟩
    | unwritten => exact .inl rfl

theorem ComesTo.ends {remaining : Int} {m : Machine Bus} {answer : Except Refusal Bool}
    (comes : e.ComesTo remaining m answer) :
    ∃ n, n ≤ remaining.toNat ∧ m = e.machine.clocks n ∧
      ((∃ halted, answer = .ok halted) ∨
        (0 < n ∧ ∃ cause, traceProblem? e.settings (e.machine.clocks n) = some cause ∧
          answer = .error (.invalid cause)) ∨
        (n = remaining.toNat ∧ Text.writeDecimal? remaining = none ∧
          answer = .error (.invalid .longNumeral))) := by
  cases comes with
  | same ended =>
    obtain ⟨n, le, machine, answered⟩ := exists_toHalt_eq e.settings remaining.toNat e.machine
    rw [ended] at machine answered
    exact ⟨n, le, machine, answered.imp_right .inl⟩
  | unwritten _ used _ long => exact ⟨_, le_rfl, used, .inr (.inr ⟨rfl, long, rfl⟩)⟩

theorem Sound.undisturbed (h : e.Sound) (maxCycles : Int) : e.Undisturbed maxCycles := by
  have watched := h.runUntilHalt_comesTo maxCycles
  have plain : e.ComesTo maxCycles
      ((e.mapBreakpoints (·.clearAll)).runUntilHalt maxCycles).state.machine
      ((e.mapBreakpoints (·.clearAll)).runUntilHalt maxCycles).answer :=
    ComesTo.of_rest ((h.edit .clearAll).runUntilHalt_comesTo maxCycles) rfl rfl (n := 0)
      (by omega) (by omega) le_rfl
  have machine := watched.machine.trans plain.machine.symm
  refine ⟨watched.same_answer (machine ▸ plain), machine, watched.ends, fun fuel enough => ?_⟩
  exact h.untilHalt_eq_of_le maxCycles enough

/-- After any session, runs up to a halt do not depend on the breakpoints. -/
theorem until_halt_undisturbed (settings : Settings) (requests : List Request) (maxCycles : Int) :
    ((make settings).after requests).Undisturbed maxCycles :=
  (sound_after settings requests).undisturbed maxCycles

/-- With tracing on, a run up to a halt gives no answer when it comes to the fetch of a word that
cannot be listed. -/
theorem no_answer_until_halt :
    ¬∀ (settings : Settings) (requests : List Request) (maxCycles : Int),
      ∃ halted, (((make settings).after requests).runUntilHalt maxCycles).answer = .ok halted := by
  intro answers
  obtain ⟨before, -, -, problem⟩ := traceProblem?_loadUnlisted
  have sound := sound_after wideTraced [loadUnlisted]
  have passed : ∀ k, 0 < k → k < wideTraced.config.width + 1 →
      endsRuns wideTraced (((make wideTraced).handle loadUnlisted).machine.clocks k) = false := by
    intro k pos lt
    exact (goes_on_of_unsettled (e := (make wideTraced).handle loadUnlisted) (before k pos lt)).1
  have refused := toHalt_refused (Nat.succ_pos _) le_rfl passed problem
  have told := sound.runUntilHalt_comesTo (wideTraced.config.width + 1 : Nat)
  obtain ⟨halted, answered⟩ := answers wideTraced [loadUnlisted] (wideTraced.config.width + 1 : Nat)
  rw [answered] at told
  cases told with
  | same ended => cases congrArg Prod.snd (ended.symm.trans refused)

end SerialMachine.Emulator
