import SerialMachine.Proofs.Attempts
import SerialMachine.Proofs.Faults

/-!
# Runs in two parts

A run that has used up its cycles can be taken up again. Two emulators that differ in nothing but
the event recorded last go on alike, and a check that asks either for a stop records the same event
in both, so that nothing a run leaves behind can be seen in the next one. Main statement: a run of
`a` cycles and one of `b` come to what a single run of `a + b` comes to, and every run answers with
the event it records last and with the clock cycles that it took.
-/

namespace SerialMachine

namespace Run

variable {σ : Type} {step : σ → Step σ} {stop : σ → Bool}

/-- A step after which a run with cycles left goes on. -/
def Passes (step : σ → Step σ) (stop : σ → Bool) (s : σ) : Prop :=
  (step s).status = .ok .normal ∧ stop (step s).state = false

theorem extend_of_passes {s : σ} (passes : Passes step stop s) (budget executed : Nat)
    (events : Array Event) :
    extend step stop (budget + 1) s executed events =
      extend step stop budget (step s).state (executed + 1) (events ++ (step s).events) := by
  obtain ⟨status, goes⟩ := passes
  simp only [extend, status, goes, Bool.false_eq_true, if_false]

/-- A step after which a run ends, however many cycles are left. -/
theorem extend_of_not_passes {s : σ} (last : ¬Passes step stop s) :
    ∃ (counted : Nat) (ending : Except Refusal Ending),
      ending ≠ .ok .exhausted ∧ (ending = .ok .stopped → stop (step s).state = true) ∧
        ∀ budget executed events, extend step stop (budget + 1) s executed events =
          { state := (step s).state, executed := executed + counted
            events := events ++ (step s).events, ending } := by
  simp only [extend]
  cases status : (step s).status with
  | error refusal => exact ⟨0, .error refusal, by simp, by simp, fun _ _ _ => rfl⟩
  | ok status' =>
    cases status' with
    | faulted => exact ⟨0, .ok .faulted, by simp, by simp, fun _ _ _ => rfl⟩
    | halted => exact ⟨1, .ok .halted, by simp, by simp, fun _ _ _ => rfl⟩
    | normal =>
      have there : stop (step s).state = true := by
        simpa [Passes, status] using last
      simp only [there, if_true]
      exact ⟨1, .ok .stopped, by simp, by simp, fun _ _ _ => rfl⟩

/-- What has been counted and reported before a run only comes before what it reports itself. -/
theorem extend_after (step : σ → Step σ) (stop : σ → Bool) (budget : Nat) (s : σ)
    (executed : Nat) (events : Array Event) :
    (extend step stop budget s executed events).state = (extend step stop budget s 0 #[]).state ∧
      (extend step stop budget s executed events).ending =
        (extend step stop budget s 0 #[]).ending ∧
      (extend step stop budget s executed events).events =
        events ++ (extend step stop budget s 0 #[]).events := by
  have joined (events : Array Event) (reported : List Event) :
      events ++ reported = events ++ ((#[] : Array Event) ++ reported) := Array.ext' (by simp)
  induction budget generalizing s executed events with
  | zero => simp [extend]
  | succ budget ih =>
    by_cases passes : Passes step stop s
    · rw [extend_of_passes passes, extend_of_passes passes]
      obtain ⟨state, ending, reported⟩ :=
        ih (step s).state (executed + 1) (events ++ (step s).events)
      obtain ⟨state', ending', reported'⟩ :=
        ih (step s).state (0 + 1) ((#[] : Array Event) ++ (step s).events)
      rw [state, state', ending, ending', reported, reported', joined, Array.append_assoc]
      exact ⟨rfl, rfl, rfl⟩
    · obtain ⟨counted, ending, -, -, last⟩ := extend_of_not_passes passes
      rw [last, last]
      exact ⟨rfl, rfl, joined ..⟩

/-- A run whose cycles are used up goes on with those that are added. -/
theorem extend_add {a : Nat} {s : σ} {executed : Nat} {events : Array Event}
    (used : (extend step stop a s executed events).ending = .ok .exhausted) (b : Nat) :
    extend step stop (a + b) s executed events =
      extend step stop b (extend step stop a s executed events).state
        (extend step stop a s executed events).executed
        (extend step stop a s executed events).events := by
  induction a generalizing s executed events with
  | zero => rw [Nat.zero_add]; rfl
  | succ a ih =>
    by_cases passes : Passes step stop s
    · rw [extend_of_passes passes] at used
      rw [Nat.succ_add, extend_of_passes passes, extend_of_passes passes]
      exact ih used
    · obtain ⟨counted, ending, early, -, last⟩ := extend_of_not_passes passes
      rw [last] at used
      exact absurd used early

/-- The condition of a run that ends in time holds at its end only if it is the reason. -/
theorem stop_extend {budget : Nat} {s : σ} (goes : stop s = false) {executed : Nat}
    {events : Array Event} {r : Run σ} (ran : extend step stop budget s executed events = r) :
    (r.ending = .ok .exhausted → stop r.state = false) ∧
      (r.ending = .ok .stopped → stop r.state = true) := by
  induction budget generalizing s executed events with
  | zero =>
    subst ran
    exact ⟨fun _ => goes, fun ended => by cases ended⟩
  | succ budget ih =>
    by_cases passes : Passes step stop s
    · rw [extend_of_passes passes] at ran
      exact ih passes.2 ran
    · obtain ⟨counted, ending, early, stopped, last⟩ := extend_of_not_passes passes
      rw [last] at ran
      subst ran
      exact ⟨fun used => absurd used early, stopped⟩

end Run

/-- Why a run stopped, with the address and the word that belong to it. -/
def BreakEvent.cause (event : BreakEvent) : BreakReason × Option Int × Option Int :=
  (event.reason, event.address, event.value)

/-! ## Checks -/

namespace Breakpoints

variable (b : Breakpoints)

/-- Whatever has been recorded before, the check does the same: either it records an event and asks
for a stop, or it leaves the breakpoints alone. -/
def Indifferent (check : Breakpoints → Breakpoints × Bool) : Prop :=
  (∃ event, event.reason ≠ .maxCycles ∧
    ∀ lastEvent, check (b.withLast lastEvent) = (b.withLast (some event), false)) ∨
  ∀ lastEvent, check (b.withLast lastEvent) = (b.withLast lastEvent, true)

theorem indifferent_checkRead (address value : Int) :
    b.Indifferent (·.checkRead address value) := by
  unfold Indifferent checkRead
  by_cases watched : b.reads.contains address = true
  · exact .inl ⟨_, by simp, fun lastEvent => if_pos watched⟩
  · exact .inr fun lastEvent => if_neg watched

theorem indifferent_checkWrite (address value : Int) :
    b.Indifferent (·.checkWrite address value) := by
  unfold Indifferent checkWrite
  by_cases watched : b.writes.contains address = true
  · exact .inl ⟨_, by simp, fun lastEvent => if_pos watched⟩
  · exact .inr fun lastEvent => if_neg watched

/-- A check at a fetch may also take a request back, or fail. -/
theorem checkFetch_withLast (p : Processor) (pc : Int) :
    (∃ (after : Breakpoints) (event : BreakEvent), event.reason ≠ .maxCycles ∧ ∀ lastEvent,
      (b.withLast lastEvent).checkFetch p pc = (after.withLast (some event), .ok false)) ∨
    ∃ answer, answer ≠ .ok false ∧
      ∀ lastEvent, (b.withLast lastEvent).checkFetch p pc = (b.withLast lastEvent, answer) := by
  unfold checkFetch
  by_cases requested : b.breakRequested = true
  · refine .inl ⟨{ b with breakRequested := false }, _, ?_, fun lastEvent => if_pos requested⟩
    simp
  by_cases single : b.stepMode = true
  · refine .inl ⟨{ b with stepMode := false }, _, ?_, fun lastEvent =>
      (if_neg requested).trans (if_pos single)⟩
    simp
  by_cases here : b.addresses.contains pc = true
  · refine .inl ⟨b, _, ?_, fun lastEvent =>
      (if_neg requested).trans ((if_neg single).trans (if_pos here))⟩
    simp
  have past {α : Type} (x y z w : α) : (if b.breakRequested then x else if b.stepMode then y else
      if b.addresses.contains pc then z else w) = w := by
    rw [if_neg requested, if_neg single, if_neg here]
  cases holding : firstHolding p b.conditions with
  | error absent =>
    refine .inr ⟨.error absent, by simp, fun lastEvent => (past ..).trans ?_⟩
    simp only [withLast, holding]
  | ok found =>
    cases found with
    | none =>
      refine .inr ⟨.ok true, by simp, fun lastEvent => (past ..).trans ?_⟩
      simp only [withLast, holding]
    | some condition =>
      let event : BreakEvent :=
        { reason := .condition, address := some pc
          message := "Condition: " ++ condition.description }
      refine .inl ⟨b, event, by simp [event], fun lastEvent => (past ..).trans ?_⟩
      simp only [withLast, holding]
      rfl

end Breakpoints

/-! ## Emulators that differ in the event recorded last -/

namespace Emulator

/-- The emulator with another event, if any, as the one recorded last. -/
def withLast (e : Emulator) (lastEvent : Option BreakEvent) : Emulator :=
  e.mapBreakpoints (·.withLast lastEvent)

/-- The emulators differ in the event recorded last at most, and not even in that once a check has
asked for a stop. -/
structure Alike (e e' : Emulator) : Prop where
  same : e' = e.withLast e'.breakpoints.lastEvent
  told : e.stopAsked = true → ∃ event, e.breakpoints.lastEvent = some event ∧
    e'.breakpoints.lastEvent = some event ∧ event.reason ≠ .maxCycles

variable {e e' : Emulator}

theorem alike_withLast (quiet : e.stopAsked = false) (lastEvent : Option BreakEvent) :
    e.Alike (e.withLast lastEvent) :=
  ⟨rfl, fun asked => absurd (quiet.symm.trans asked) (by decide)⟩

theorem Alike.breakpoints (h : e.Alike e') :
    e.breakpoints = e.breakpoints.withLast e.breakpoints.lastEvent ∧
      e'.breakpoints = e.breakpoints.withLast e'.breakpoints.lastEvent := by
  refine ⟨rfl, ?_⟩
  rw [h.same]
  rfl

/-- The emulator when a check of a word transfer has been made. -/
def noteCheck (e : Emulator) (check : Breakpoints → Breakpoints × Bool) : Emulator :=
  { e with
    breakpoints := (check e.breakpoints).1
    transferStop := e.transferStop || !(check e.breakpoints).2 }

/-- What one of the emulators records, and stops for, the other does. -/
theorem Alike.noteCheck (h : e.Alike e') {check : Breakpoints → Breakpoints × Bool}
    (indifferent : e.breakpoints.Indifferent check) :
    (e.noteCheck check).Alike (e'.noteCheck check) := by
  obtain ⟨own, other⟩ := h.breakpoints
  unfold Emulator.noteCheck
  obtain ⟨event, reason, answer⟩ | answer := indifferent
  · rw [own, other, answer, answer, h.same]
    exact ⟨rfl, fun _ => ⟨event, rfl, rfl, reason⟩⟩
  · rw [own, other, answer, answer, ← own, ← other]
    simp only [Bool.not_true, Bool.or_false]
    exact h

theorem Alike.noteTransfer (h : e.Alike e') (event : Event) :
    (e.noteTransfer event).Alike (e'.noteTransfer event) := by
  cases event with
  | wordRead address value => exact h.noteCheck (e.breakpoints.indifferent_checkRead address value)
  | wordWritten address value =>
    exact h.noteCheck (e.breakpoints.indifferent_checkWrite address value)
  | _ => exact h

theorem Alike.noteTransfers (h : e.Alike e') (events : List Event) :
    (events.foldl Emulator.noteTransfer e).Alike (events.foldl Emulator.noteTransfer e') := by
  induction events generalizing e e' with
  | nil => exact h
  | cons event _ ih => exact ih (h.noteTransfer event)

theorem Alike.noteFetch (h : e.Alike e') (r : Registers) :
    (e.noteFetch r).1.Alike (e'.noteFetch r).1 ∧ (e.noteFetch r).2 = (e'.noteFetch r).2 := by
  obtain ⟨own, other⟩ := h.breakpoints
  have processor : e'.processor = e.processor := by rw [h.same]; rfl
  simp only [Emulator.noteFetch, processor]
  obtain ⟨after, event, reason, check⟩ | ⟨answer, goes, check⟩ :=
    e.breakpoints.checkFetch_withLast e.processor r.pc
  · rw [own, other, check, check, h.same]
    exact ⟨⟨rfl, fun _ => ⟨event, rfl, rfl, reason⟩⟩, rfl⟩
  · rw [own, other, check, check, ← own, ← other]
    cases answer with
    | error absent => exact ⟨h, rfl⟩
    | ok goOn =>
      obtain rfl : goOn = true := by simpa using goes
      simp only [Bool.not_true, Bool.or_false]
      exact ⟨h, trivial⟩

theorem Alike.withMachine (h : e.Alike e') (machine : Machine Bus) :
    Alike { e with machine } { e' with machine } := by
  refine ⟨?_, h.told⟩
  rw [h.same]
  rfl

theorem Alike.machine (h : e.Alike e') : e'.machine = e.machine := by
  rw [h.same]
  rfl

theorem Alike.stopAsked (h : e.Alike e') : e'.stopAsked = e.stopAsked := by
  rw [h.same]
  rfl

theorem Alike.stepUnwatched (h : e.Alike e') :
    e.stepUnwatched.state.Alike e'.stepUnwatched.state ∧
      e'.stepUnwatched.events = e.stepUnwatched.events ∧
      e'.stepUnwatched.status = e.stepUnwatched.status := by
  unfold Emulator.stepUnwatched
  rw [h.machine]
  exact ⟨(h.withMachine _).noteTransfers _, rfl, rfl⟩

/-- A clock cycle of the one does what a clock cycle of the other does. -/
theorem Alike.step (h : e.Alike e') :
    e.step.state.Alike e'.step.state ∧ e'.step.events = e.step.events ∧
      e'.step.status = e.step.status := by
  obtain ⟨state, events, status⟩ := h.stepUnwatched
  unfold Emulator.step
  simp only [events]
  split
  · exact ⟨state, events, status⟩
  · next r _ =>
    have traced : e'.stepUnwatched.state.traceEvents r = e.stepUnwatched.state.traceEvents r := by
      rw [state.same]
      rfl
    rw [traced]
    split
    · exact ⟨state, rfl, rfl⟩
    · obtain ⟨noted, answer⟩ := state.noteFetch r
      generalize e.stepUnwatched.state.noteFetch r = first at noted answer ⊢
      generalize e'.stepUnwatched.state.noteFetch r = second at noted answer ⊢
      obtain ⟨first, told⟩ := first
      obtain ⟨second, _⟩ := second
      subst answer
      cases told with
      | error absent => exact ⟨noted, rfl, rfl⟩
      | ok => exact ⟨noted, rfl, status⟩

/-- So does a whole run. -/
theorem Alike.extend (h : e.Alike e') (budget executed : Nat) (events : Array Event)
    {r r' : Run Emulator}
    (ran : Run.extend Emulator.step Emulator.stopAsked budget e executed events = r)
    (ran' : Run.extend Emulator.step Emulator.stopAsked budget e' executed events = r') :
    r.state.Alike r'.state ∧ r'.ending = r.ending ∧ r'.events = r.events := by
  subst ran ran'
  induction budget generalizing e e' executed events with
  | zero => exact ⟨h, rfl, rfl⟩
  | succ budget ih =>
    obtain ⟨state, reported, status⟩ := h.step
    simp only [Run.extend, reported, status, state.stopAsked]
    cases e.step.status with
    | error refusal => exact ⟨state, rfl, rfl⟩
    | ok status =>
      cases status with
      | faulted | halted => exact ⟨state, rfl, rfl⟩
      | normal =>
        cases asked : e.step.state.stopAsked with
        | true => exact ⟨state, rfl, rfl⟩
        | false => exact ih state _ _

/-! ## Cycles -/

/-- The clock of the machine inside is counted, and a fault is no cycle. -/
theorem machine_step (e : Emulator) : e.step.state.machine = e.machine.step.state ∧
    ∀ status, e.step.status = .ok status → e.machine.step.status = .ok status := by
  obtain ⟨lastEvent, transferStop, watched, -⟩ :=
    exists_foldl_noteTransfer_eq { e with machine := e.machine.step.state } e.machine.step.events
  have unwatched : e.stepUnwatched.state.machine = e.machine.step.state := by
    rw [stepUnwatched, watched]
  have noted (r : Registers) :
      (e.stepUnwatched.state.noteFetch r).1.machine = e.machine.step.state := by
    rw [← unwatched]
    unfold noteFetch
    simp only
    split <;> rfl
  unfold step
  simp only
  split
  · exact ⟨unwatched, fun _ status => status⟩
  · next r _ =>
    split
    · exact ⟨unwatched, fun _ refused => by cases refused⟩
    · split
      · next answered => exact ⟨by rw [← noted r, answered], fun _ status => status⟩
      · next answered => exact ⟨by rw [← noted r, answered], fun _ refused => by cases refused⟩

theorem cycles_step {status : Status} (turned : e.step.status = .ok status) :
    e.step.state.processor.cycles =
      e.processor.cycles + if status = .faulted then 0 else 1 := by
  obtain ⟨machine, same⟩ := e.machine_step
  have turned := same status turned
  rw [processor, machine, processor]
  have turns := e.machine.turns_step
  generalize e.machine.step = turn at turned turns ⊢
  cases turns with
  | stopped =>
    obtain rfl := Except.ok.inj turned
    rfl
  | failed =>
    obtain rfl := Except.ok.inj turned
    rfl
  | refused => cases turned
  | completed _ bus events signals next =>
    obtain rfl := Except.ok.inj turned
    split <;> rfl

/-- A run that is not refused counts the clock cycles. -/
theorem cycles_extend {ending : Ending} {budget executed : Nat} {events : Array Event}
    {r : Run Emulator} (ran : Run.extend step stopAsked budget e executed events = r)
    (ended : r.ending = .ok ending) :
    r.state.processor.cycles + executed = e.processor.cycles + r.executed := by
  subst ran
  induction budget generalizing e executed events with
  | zero => rfl
  | succ budget ih =>
    simp only [Run.extend] at ended ⊢
    cases status : e.step.status with
    | error refusal =>
      simp only [status] at ended
      cases ended
    | ok found =>
      have counted := cycles_step status
      simp only [status] at ended ⊢
      cases found with
      | faulted => simpa using congrArg (· + executed) counted
      | halted =>
        simp only [counted, reduceCtorEq, if_false]
        omega
      | normal =>
        simp only [reduceCtorEq, if_false] at counted
        cases asked : e.step.state.stopAsked with
        | true =>
          simp only [if_true]
          omega
        | false =>
          simp only [asked, Bool.false_eq_true, if_false] at ended ⊢
          have rest := ih ended
          omega

/-! ## Runs -/

/-- A run that a check ends answers with the event that the check recorded. -/
theorem told_course (e : Emulator) (maxCycles : Int)
    (stopped : (e.course maxCycles).ending = .ok .stopped) :
    ∃ event, (e.course maxCycles).state.breakpoints.lastEvent = some event ∧
      event.reason ≠ .maxCycles := by
  have alike : e.unasked.Alike e.unasked := ⟨rfl, fun asked => by cases asked⟩
  obtain ⟨event, last, -, reason⟩ := (alike.extend maxCycles.toNat 0 #[] rfl rfl).1.told
    ((Run.stop_extend rfl rfl).2 stopped)
  exact ⟨event, last, reason⟩

/-- Only a run whose cycles are used up says so. -/
theorem exhausted_of_maxCycles {maxCycles : Int} {event : BreakEvent}
    (answered : (e.run maxCycles).answer = .ok event) (reason : event.reason = .maxCycles) :
    (e.course maxCycles).ending = .ok .exhausted := by
  rw [answer_run] at answered
  obtain ⟨ending, told, ended, made, rfl⟩ := conclusion_eq_ok_iff.1 answered
  cases ending with
  | exhausted => exact ended
  | stopped =>
    obtain ⟨event, last, other⟩ := e.told_course maxCycles ended
    simp only [endingEvent, last, Option.elim_some, Except.ok.injEq] at made
    exact absurd (made ▸ reason) other
  | halted | faulted =>
    obtain rfl := Except.ok.inj made
    cases reason

theorem withLast_run (e : Emulator) (maxCycles : Int) (lastEvent : Option BreakEvent) :
    (e.run maxCycles).state.withLast lastEvent = (e.course maxCycles).state.withLast lastEvent := by
  obtain state | ⟨event, -, state⟩ := e.state_run maxCycles
  · rw [state]
  · rw [state]
    rfl

/-- A run finds no more than the event recorded last of the run before. -/
theorem unasked_run {maxCycles : Int} (used : (e.course maxCycles).ending = .ok .exhausted) :
    ∃ lastEvent, (e.run maxCycles).state.unasked =
      (e.course maxCycles).state.withLast lastEvent := by
  have quiet : (e.course maxCycles).state.stopAsked = false := (Run.stop_extend rfl rfl).1 used
  simp only [stopAsked, Bool.or_eq_false_iff] at quiet
  have again (lastEvent : Option BreakEvent) :
      ((e.course maxCycles).state.withLast lastEvent).unasked =
        (e.course maxCycles).state.withLast lastEvent := by
    simp only [unasked, withLast, mapBreakpoints, quiet.1, quiet.2]
  obtain state | ⟨event, -, state⟩ := e.state_run maxCycles <;> rw [state]
  · exact ⟨(e.course maxCycles).state.breakpoints.lastEvent, again _⟩
  · exact ⟨some event, again _⟩

/-- What a run taken up again does is what it would have done in one part. -/
theorem course_add {a : Nat} (used : (e.course a).ending = .ok .exhausted) (b : Nat) :
    (e.course (a + b : Nat)).state.Alike ((e.run a).state.course b).state ∧
      ((e.run a).state.course b).ending = (e.course (a + b : Nat)).ending ∧
      (e.course (a + b : Nat)).events =
        (e.course a).events ++ ((e.run a).state.course b).events := by
  obtain ⟨lastEvent, again⟩ := unasked_run used
  have quiet : (e.course a).state.stopAsked = false := (Run.stop_extend rfl rfl).1 used
  have whole : e.course (a + b : Nat) = Run.extend step stopAsked b (e.course a).state
      (e.course a).executed (e.course a).events := Run.extend_add used b
  have second : Run.extend step stopAsked b ((e.course a).state.withLast lastEvent) 0 #[] =
      (e.run a).state.course b :=
    (congrArg (fun s => Run.extend step stopAsked b s 0 #[]) again).symm
  obtain ⟨state, ending, events⟩ := Run.extend_after step stopAsked b (e.course a).state
    (e.course a).executed (e.course a).events
  obtain ⟨alike, ending', events'⟩ :=
    (alike_withLast quiet lastEvent).extend b 0 #[] rfl second
  rw [whole, state, ending, events, ending', events']
  exact ⟨alike, rfl, rfl⟩

/-- Emulators that are alike give the same cause for the end of a run, unless they would have to
tell of a number of cycles. -/
theorem Alike.cause_endingEvent (h : e.Alike e') {ending : Ending}
    (told : ending = .stopped → e.stopAsked = true) (early : ending ≠ .exhausted)
    (maxCycles maxCycles' : Int) :
    (e'.endingEvent maxCycles' ending).map BreakEvent.cause =
      (e.endingEvent maxCycles ending).map BreakEvent.cause := by
  cases ending with
  | stopped =>
    obtain ⟨event, last, last', -⟩ := h.told (told rfl)
    simp only [endingEvent, last, last', Option.elim_some]
  | exhausted => exact absurd rfl early
  | halted | faulted =>
    simp only [endingEvent, here, processor, h.machine, BreakEvent.cause, Except.map]

/-- The cause for which a run ended is that of the event that it tells. -/
theorem cause_conclusion (r : Run Emulator) (maxCycles : Int) :
    (conclusion r maxCycles).map BreakEvent.cause = r.ending >>= fun ending =>
      ((r.state.endingEvent maxCycles ending).map BreakEvent.cause).mapError Refusal.invalid := by
  unfold conclusion
  cases r.ending with
  | error refusal => rfl
  | ok ending =>
    simp only [bind, Except.bind]
    cases r.state.endingEvent maxCycles ending <;> rfl

/-- The run of `b` cycles that follows one of `a` cycles comes to what a single run does. -/
structure Resumes (e : Emulator) (a b : Nat) : Prop where
  /-- Machine, memory, peripherals and breakpoints, all but the event recorded last. -/
  state : ((e.run a).state.run b).state.withLast none = (e.run (a + b : Nat)).state.withLast none
  /-- A run is refused when the other is, for the same reason, unless the single run is because it
  has used up more cycles than can be written. -/
  answer : ((e.run a).state.run b).answer.map BreakEvent.cause =
      (e.run (a + b : Nat)).answer.map BreakEvent.cause ∨
    ((e.course (a + b : Nat)).ending = .ok .exhausted ∧
      Text.writeDecimal? (a + b : Nat) = none ∧
      (e.run (a + b : Nat)).answer = .error (.invalid .longNumeral))
  events : (e.run a).events ++ ((e.run a).state.run b).events = (e.run (a + b : Nat)).events

/-- All numbers of cycles that can be written give the same cause for the end of a run. -/
theorem cause_limitEvent {maxCycles : Int} (short : Text.writeDecimal? maxCycles ≠ none) :
    (limitEvent maxCycles).map BreakEvent.cause = .ok (.maxCycles, none, none) := by
  cases told : limitEvent maxCycles with
  | error cause => exact absurd (limitEvent_eq_error_iff.1 told).1 short
  | ok event =>
    obtain ⟨message, rfl⟩ := exists_eq_of_limitEvent told
    rfl

theorem resumes_of_exhausted {a : Nat} (used : (e.course a).ending = .ok .exhausted) (b : Nat) :
    e.Resumes a b := by
  obtain ⟨alike, ending, events⟩ := course_add used b
  constructor
  case state =>
    rw [withLast_run, withLast_run, alike.same]
    rfl
  case answer =>
    have told := (Run.stop_extend (s := e.unasked) rfl
      (show Run.extend step stopAsked (a + b) e.unasked 0 #[] = e.course (a + b : Nat) from rfl)).2
    rw [answer_run, answer_run, cause_conclusion, cause_conclusion, ending]
    cases ended : (e.course (a + b : Nat)).ending with
    | error refusal => exact .inl rfl
    | ok ending =>
      by_cases early : ending = .exhausted
      · subst early
        by_cases long : Text.writeDecimal? (a + b : Nat) = none
        · refine .inr ⟨rfl, long, ?_⟩
          rw [conclusion_of_ending ended, endingEvent, limitEvent_eq_error_iff.2 ⟨long, rfl⟩]
        · have fewer : (b : Int).natAbs ≤ ((a + b : Nat) : Int).natAbs := by omega
          have short := mt (Text.writeDecimal?_eq_none_of_le fewer) long
          simp only [bind, Except.bind, endingEvent, cause_limitEvent long,
            cause_limitEvent short, true_or]
      · have cause := alike.cause_endingEvent
          (fun stopped : ending = .stopped => told (stopped ▸ ended)) early (a + b : Nat) b
        exact .inl (congrArg (Except.mapError Refusal.invalid) cause)
  case events => rw [events_run, events_run, events_run, events]

/-- Every run that is not refused answers with the event it records last, which counts the clock
cycles that it took. -/
theorem answered_run {maxCycles : Int} {event : BreakEvent}
    (answered : (e.run maxCycles).answer = .ok event) :
    (e.run maxCycles).state.breakpoints.lastEvent = some event ∧
      ((e.run maxCycles).state.processor.cycles : Int) = e.processor.cycles + event.cycles := by
  refine ⟨lastEvent_run answered, ?_⟩
  have processor : (e.run maxCycles).state.processor = (e.course maxCycles).state.processor :=
    congrArg (·.processor) (e.withLast_run maxCycles none)
  rw [answer_run] at answered
  obtain ⟨ending, told, ended, -, rfl⟩ := conclusion_eq_ok_iff.1 answered
  have counted : (e.course maxCycles).state.processor.cycles = e.processor.cycles +
      (e.course maxCycles).executed := cycles_extend rfl ended
  rw [processor]
  exact congrArg Nat.cast counted

/-- A run that has used up its cycles can be taken up again as if it had not been interrupted, and
the answer of every run is the event recorded last and counts the clock cycles. -/
theorem run_resumes (e : Emulator) :
    (∀ (a b : Nat) (event : BreakEvent), (e.run a).answer = .ok event →
      event.reason = .maxCycles → e.Resumes a b) ∧
    ∀ (maxCycles : Int) (event : BreakEvent), (e.run maxCycles).answer = .ok event →
      (e.run maxCycles).state.breakpoints.lastEvent = some event ∧
        ((e.run maxCycles).state.processor.cycles : Int) = e.processor.cycles + event.cycles :=
  ⟨fun _ b _ answered reason => resumes_of_exhausted (exhausted_of_maxCycles answered reason) b,
    fun _ _ answered => answered_run answered⟩

theorem run_resumes_reset : ∃ event, ((make {}).run 2).answer = .ok event ∧
    event.reason = .maxCycles ∧ (make {}).Resumes 2 3 ∧ event.cycles = 2 := by
  have answered : ((make {}).run (2 : Nat)).answer = .ok
      { reason := .maxCycles, cycles := 2, message := "Reached max cycles (2)" } := by
    decide +kernel
  exact ⟨_, answered, rfl, (run_resumes (make {})).1 2 3 _ answered rfl, rfl⟩

end Emulator

end SerialMachine
