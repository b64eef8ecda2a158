import SerialMachine.Proofs.Runs

/-!
# Stops at fetches

A run stops in the very cycle in which an instruction fetch begins that there is a cause to stop at,
and reports the cause that ranks highest; it reports such a cause in no other case, and a run that
goes on from there does not stop before it has taken a cycle. Where tracing is on, a fetch that
cannot be traced refuses the run instead, and so does a number of cycles that has been used up and
cannot be written.
-/

namespace SerialMachine.Emulator

/-- A run of at most `maxCycles` cycles from `e` on takes `n`, and this is what it makes of causes
to stop at a fetch. -/
structure StopsAtFetches (e : Emulator) (maxCycles : Int) (n : Nat) : Prop where
  within : n ≤ maxCycles.toNat
  machine : (e.run maxCycles).state.machine = e.machine.clocks n
  cycles : ∀ event, (e.run maxCycles).answer = .ok event → event.cycles = n
  /-- No cycle before the last comes to a fetch with a cause. -/
  earlier : ∀ k, 0 < k → k < n → e.stopCause? (e.machine.clocks k) = none
  /-- The cause at the fetch that the last cycle comes to is reported, unless the fetch cannot be
  traced. -/
  reports : ∀ reason, 0 < n → e.stopCause? (e.machine.clocks n) = some reason →
    traceProblem? e.settings (e.machine.clocks n) = none →
      ∃ event, (e.run maxCycles).answer = .ok event ∧ event.reason = reason ∧
        event.address = some (e.machine.clocks n).processor.registers.pc
  /-- A cause is reported in no other case. -/
  only : ∀ event, (e.run maxCycles).answer = .ok event → event.reason.ofFetch = true →
    0 < n ∧ (e.machine.clocks n).processor.atFetch = true ∧
      e.stopCause? (e.machine.clocks n) = some event.reason
  /-- A run is refused for a fetch that cannot be traced, or when it has used up a number of cycles
  that cannot be written, and for nothing else. -/
  refused : ∀ refusal, (e.run maxCycles).answer = .error refusal ↔
    (0 < n ∧ ∃ cause, traceProblem? e.settings (e.machine.clocks n) = some cause ∧
      refusal = .invalid cause) ∨
    ((e.course maxCycles).ending = .ok .exhausted ∧ Text.writeDecimal? maxCycles = none ∧
      refusal = .invalid .longNumeral)
  /-- A run that goes on takes at least one cycle. -/
  resumes : ∀ more : Int, 0 < more →
    ∃ k, 0 < k ∧ ((e.run maxCycles).state.run more).state.machine =
      (e.run maxCycles).state.machine.clocks k

variable {e : Emulator}

theorem not_ofFetch_of_watched {b : Breakpoints} {event : BreakEvent} (watched : b.Watched event) :
    event.reason.ofFetch = false := by
  obtain ⟨address, -, ⟨reason, -⟩ | ⟨reason, -⟩⟩ := watched <;> rw [reason] <;> rfl

/-- The cause at a fetch is the reason of the event that explains a stop there, and no other event
has such a reason. -/
theorem Explains.reason_iff {m : Machine Bus} {event : BreakEvent} (explains : e.Explains m event)
    {reason : BreakReason} (ofFetch : reason.ofFetch = true) :
    event.reason = reason ↔ e.stopCause? m = some reason := by
  unfold Explains at explains
  cases cause : e.stopCause? m with
  | some found =>
    rw [cause] at explains
    rw [explains.1, Option.some.injEq]
  | none =>
    rw [cause] at explains
    have other := not_ofFetch_of_watched explains
    constructor
    · rintro rfl
      simp [other] at ofFetch
    · simp

theorem Sound.stopsAtFetches (h : e.Sound) (maxCycles : Int) :
    ∃ n, e.StopsAtFetches maxCycles n := by
  obtain ⟨n, within, machine, -, passed, answered⟩ := h.exists_answered maxCycles
  have resumes : ∀ more : Int, 0 < more →
      ∃ k, 0 < k ∧ ((e.run maxCycles).state.run more).state.machine =
        (e.run maxCycles).state.machine.clocks k :=
    fun more pos => (h.run maxCycles).exists_clocks pos
  have earlier k (pos : 0 < k) (lt : k < n) := (passed k pos lt).2
  have exhausted (used : (e.course maxCycles).ending = .ok .exhausted)
      (long : Text.writeDecimal? maxCycles = none) :
      (e.run maxCycles).answer = .error (.invalid .longNumeral) := by
    rw [answer_of_exhausted used, limitEvent_eq_error_iff.2 ⟨long, rfl⟩]
    rfl
  refine ⟨n, within, machine, ?_, earlier, ?_, ?_, ?_, resumes⟩
  all_goals generalize (e.run maxCycles).answer = answer at answered exhausted
  · rintro event rfl
    cases answered <;> assumption
  · intro reason pos cause traced
    cases answered with
    | untraced _ problem => simp [problem] at traced
    | unwritten _ _ quiet _ => simp [(quiet pos).2] at cause
    | exhausted _ _ _ _ quiet => simp [(quiet pos).2] at cause
    | halted _ _ _ halted => simp [stopCause?_eq_none_of_halted halted] at cause
    | stopped _ _ _ explains =>
      rw [Explains, cause] at explains
      exact ⟨_, rfl, explains⟩
  · rintro event rfl ofFetch
    cases answered with
    | exhausted _ reason _ _ _ => simp [reason, BreakReason.ofFetch] at ofFetch
    | halted reason _ _ _ => simp [reason, BreakReason.ofFetch] at ofFetch
    | stopped _ pos _ explains =>
      have cause := (explains.reason_iff ofFetch).1 rfl
      exact ⟨pos, (Breakpoints.atFetch_of_fetchCause? cause).1, cause⟩
  · intro refusal
    constructor
    · rintro rfl
      cases answered with
      | untraced pos problem => exact .inl ⟨pos, _, problem, rfl⟩
      | unwritten used _ _ long => exact .inr ⟨used, long, rfl⟩
    · rintro (⟨pos, cause, problem, rfl⟩ | ⟨used, long, rfl⟩)
      · cases answered with
        | untraced _ found => rw [Option.some.inj (found.symm.trans problem)]
        | unwritten _ _ quiet _ => simp [endsRuns, problem] at quiet; omega
        | exhausted _ _ _ _ quiet => simp [endsRuns, problem] at quiet; omega
        | halted _ _ _ halted => simp [traceProblem?_eq_none_of_halted halted] at problem
        | stopped _ _ going _ => simp [endsRuns, problem] at going
      · exact exhausted used long

/-- After any session, every run stops at the fetches that there is a cause to stop at. -/
theorem stops_at_fetches (settings : Settings) (requests : List Request) (maxCycles : Int) :
    ∃ n, ((make settings).after requests).StopsAtFetches maxCycles n :=
  (sound_after settings requests).stopsAtFetches maxCycles

/-- A run that stops in the cycle in which the fetch of a word begins that cannot be listed is
refused, with tracing on, although there is a breakpoint. -/
theorem refused_at_breakpoint :
    ¬∀ (settings : Settings) (requests : List Request) (n : Nat) (reason : BreakReason),
      0 < n →
      (((make settings).after requests).run n).state.machine =
        ((make settings).after requests).machine.clocks n →
      ((make settings).after requests).stopCause?
        (((make settings).after requests).machine.clocks n) = some reason →
      ∃ event, (((make settings).after requests).run n).answer = .ok event ∧
        event.reason = reason := by
  intro reported
  obtain ⟨before, fetch, pc, problem⟩ := traceProblem?_loadUnlisted
  have sound := sound_after wideTraced [loadUnlisted, .edit (.addBreakpoint 0)]
  have unwatched : ∀ event, ¬((make wideTraced).after
      [loadUnlisted, .edit (.addBreakpoint 0)]).breakpoints.Watched event := by
    rintro event ⟨address, -, ⟨-, reads⟩ | ⟨-, writes⟩⟩
    · exact Bool.false_ne_true reads
    · exact Bool.false_ne_true writes
  obtain ⟨machine, refused⟩ := sound.run_refused (Nat.succ_pos _) before problem unwatched
  have cause : ((make wideTraced).after [loadUnlisted, .edit (.addBreakpoint 0)]).stopCause?
      (((make wideTraced).after [loadUnlisted, .edit (.addBreakpoint 0)]).machine.clocks
        (wideTraced.config.width + 1)) = some .breakpoint := by
    have same : ((make wideTraced).after [loadUnlisted, .edit (.addBreakpoint 0)]).machine =
        ((make wideTraced).handle loadUnlisted).machine := rfl
    rw [same, stopCause?, Breakpoints.fetchCause?, fetch, pc]
    rfl
  obtain ⟨event, answered, -⟩ := reported wideTraced _ _ _ (Nat.succ_pos _) machine cause
  rw [refused] at answered
  cases answered

end SerialMachine.Emulator
