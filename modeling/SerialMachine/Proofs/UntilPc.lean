import SerialMachine.Proofs.Stops

/-!
# Runs up to a fetch

Main statement: a run up to the fetch at an address leaves every breakpoint, watchpoint and
condition as it was, goes no further than the first such fetch, and answers that it has come there
exactly when it has, unless a stop had been asked for beforehand. A single step or a user's request
is what the run stops for when it comes to a fetch, and then the answer is no although the address
may be the right one.
-/

namespace SerialMachine

theorem Machine.cycles_clocks {m : Machine Bus} (h : m.processor.Sound) (n : Nat) :
    (m.clocks n).processor.cycles = m.processor.cycles + n := by
  induction n with
  | zero => rfl
  | succ n ih =>
    obtain ⟨signals, next, -, step⟩ := exists_step (clocks_eq_run h n).2.1
    rw [clocks_succ, act, step, ← Nat.add_assoc, ← ih]
    rfl

namespace Breakpoints

/-- A breakpoint that is set for a while leaves nothing behind. -/
theorem marks_removeBreakpoint {b c : Breakpoints} {address : Int}
    (absent : b.addresses.contains address = false)
    (same : c.marks = (b.addBreakpoint address).marks) :
    (c.removeBreakpoint address).marks = b.marks := by
  have restored : (b.addresses.insert address).erase address = b.addresses :=
    AddressSet.erase_insert absent
  simp only [marks, addBreakpoint, Marks.mk.injEq] at same
  obtain ⟨addresses, reads, writes, conditions⟩ := same
  simp only [marks, removeBreakpoint, addresses, reads, writes, conditions, restored]

/-- With a breakpoint at an address, its fetch is a cause to stop, and it is the cause that is
reported unless a stop had been asked for. -/
theorem fetchCause?_armed {b : Breakpoints} {p : Processor} {address : Int}
    (armed : b.addresses.contains address = true) (fetch : p.atFetch = true)
    (here : p.registers.pc = address) :
    ∃ reason, b.fetchCause? p = some reason ∧
      (reason = .breakpoint ↔ b.breakRequested = false ∧ b.stepMode = false) := by
  unfold fetchCause?
  rw [fetch, here, armed]
  cases b.breakRequested <;> cases b.stepMode <;> simp

end Breakpoints

namespace Emulator

/-- The emulator `after` has been clocked since `e`, and has come to the fetch of the instruction at
an address. -/
def CameTo (e after : Emulator) (address : Int) : Prop :=
  e.processor.cycles < after.processor.cycles ∧ after.processor.atFetch = true ∧
    after.processor.registers.pc = address

instance (e after : Emulator) (address : Int) : Decidable (e.CameTo after address) :=
  inferInstanceAs (Decidable (_ ∧ _ ∧ _))

/-- The emulator with a breakpoint at an address, set for a run up to there. -/
def armed (e : Emulator) (address : Int) : Emulator :=
  if e.breakpoints.addresses.contains address then e
  else e.mapBreakpoints (·.addBreakpoint address)

/-- What a run up to the fetch at an address comes to. -/
structure RunsUntilPc (e : Emulator) (address maxCycles : Int) (r : Outcome Bool) : Prop where
  /-- No fetch at the address is passed. -/
  clocks : ∃ n ≤ maxCycles.toNat, r.state.machine = e.machine.clocks n ∧
    ∀ k, 0 < k → k < n → (e.machine.clocks k).processor.atFetch = true →
      (e.machine.clocks k).processor.registers.pc ≠ address
  reached : ∀ answer, r.answer = .ok answer →
    (answer = true ↔ e.CameTo r.state address ∧ e.breakpoints.breakRequested = false ∧
      e.breakpoints.stepMode = false)
  /-- A fetch that cannot be traced, and a number of cycles that has been used up and cannot be
  written, leave the run without an answer, and nothing else does. -/
  refused : ∀ refusal, r.answer = .error refusal ↔
    (e.processor.cycles < r.state.processor.cycles ∧
      ∃ cause, traceProblem? e.settings r.state.machine = some cause ∧ refusal = .invalid cause) ∨
    (((e.armed address).course maxCycles).ending = .ok .exhausted ∧
      Text.writeDecimal? maxCycles = none ∧ refusal = .invalid .longNumeral)
  marks : r.state.breakpoints.marks = e.breakpoints.marks

variable {e : Emulator} {address : Int}

theorem armed_frame (e : Emulator) (address : Int) :
    (e.armed address).machine = e.machine ∧ (e.armed address).settings = e.settings ∧
      (e.armed address).breakpoints.breakRequested = e.breakpoints.breakRequested ∧
        (e.armed address).breakpoints.stepMode = e.breakpoints.stepMode := by
  unfold armed
  split <;> exact ⟨rfl, rfl, rfl, rfl⟩

theorem contains_armed (e : Emulator) (address : Int) :
    (e.armed address).breakpoints.addresses.contains address = true := by
  unfold armed
  split
  · next present => exact present
  · simp [mapBreakpoints, Breakpoints.addBreakpoint]

theorem Sound.armed (h : e.Sound) (address : Int) : (e.armed address).Sound := by
  unfold Emulator.armed
  split
  · exact h
  · exact h.edit (.addBreakpoint address)

/-- Whether the event is a stop at the breakpoint of an address. -/
def stopsAt (address : Int) (event : BreakEvent) : Bool :=
  event.reason == .breakpoint && event.address == some address

theorem runUntilPc_eq (e : Emulator) (address maxCycles : Int) :
    e.runUntilPc address maxCycles =
      let r := (e.armed address).run maxCycles
      { state :=
          if e.breakpoints.addresses.contains address then r.state
          else r.state.mapBreakpoints (·.removeBreakpoint address)
        events := r.events
        answer := r.answer.map (stopsAt address) } := rfl

theorem machine_runUntilPc (e : Emulator) (address maxCycles : Int) :
    (e.runUntilPc address maxCycles).state.machine =
      ((e.armed address).run maxCycles).state.machine := by
  rw [runUntilPc_eq]
  simp only
  split <;> rfl

/-- Breakpoints, watchpoints and conditions are as they were, however the run ends. -/
theorem marks_runUntilPc (e : Emulator) (address maxCycles : Int) :
    (e.runUntilPc address maxCycles).state.breakpoints.marks = e.breakpoints.marks := by
  have ran := (e.armed address).marks_run maxCycles
  rw [runUntilPc_eq]
  unfold armed at ran ⊢
  cases present : e.breakpoints.addresses.contains address with
  | true =>
    simp only [present, if_true] at ran ⊢
    exact ran
  | false =>
    simp only [present, Bool.false_eq_true, if_false] at ran ⊢
    exact Breakpoints.marks_removeBreakpoint present ran

/-- Where a run with a breakpoint at an address ends at the fetch there, that is what it tells,
unless a stop had been asked for. -/
theorem StopsAtFetches.stopsAt_iff {maxCycles : Int} {n : Nat} {event : BreakEvent}
    (run : e.StopsAtFetches maxCycles n)
    (armed : e.breakpoints.addresses.contains address = true)
    (answer : (e.run maxCycles).answer = .ok event) :
    stopsAt address event = true ↔
      (0 < n ∧ (e.machine.clocks n).processor.atFetch = true ∧
        (e.machine.clocks n).processor.registers.pc = address) ∧
        e.breakpoints.breakRequested = false ∧ e.breakpoints.stepMode = false := by
  have traced (pos : 0 < n) : traceProblem? e.settings (e.machine.clocks n) = none := by
    by_contra problem
    obtain ⟨cause, problem⟩ := Option.ne_none_iff_exists'.1 problem
    have refused := (run.refused (.invalid cause)).2 (.inl ⟨pos, cause, problem, rfl⟩)
    rw [answer] at refused
    cases refused
  have told (pos : 0 < n) {reason : BreakReason}
      (cause : e.stopCause? (e.machine.clocks n) = some reason) :
      event.reason = reason ∧
        event.address = some (e.machine.clocks n).processor.registers.pc := by
    obtain ⟨other, answer', reason', address'⟩ := run.reports reason pos cause (traced pos)
    obtain rfl := Except.ok.inj (answer.symm.trans answer')
    exact ⟨reason', address'⟩
  simp only [stopsAt, Bool.and_eq_true, beq_iff_eq]
  constructor
  · rintro ⟨reason, there⟩
    obtain ⟨pos, fetch, cause⟩ := run.only event answer (by rw [reason]; rfl)
    have here := Option.some.inj ((told pos cause).2.symm.trans there)
    obtain ⟨ranked, cause', free⟩ := Breakpoints.fetchCause?_armed armed fetch here
    obtain rfl := Option.some.inj (cause.symm.trans cause')
    exact ⟨⟨pos, fetch, here⟩, free.1 reason⟩
  · rintro ⟨⟨pos, fetch, here⟩, free⟩
    obtain ⟨ranked, cause, breakpoint⟩ := Breakpoints.fetchCause?_armed armed fetch here
    obtain ⟨reason, there⟩ := told pos cause
    exact ⟨reason.trans (breakpoint.2 free), by rw [there, here]⟩

theorem Sound.runsUntilPc (h : e.Sound) (address maxCycles : Int) :
    e.RunsUntilPc address maxCycles (e.runUntilPc address maxCycles) := by
  obtain ⟨machine, settings, requested, stepping⟩ := e.armed_frame address
  have armed := e.contains_armed address
  obtain ⟨n, run⟩ := (h.armed address).stopsAtFetches maxCycles
  have state : (e.runUntilPc address maxCycles).state.machine = e.machine.clocks n := by
    rw [machine_runUntilPc, run.machine, machine]
  have clocked : e.processor.cycles <
      (e.runUntilPc address maxCycles).state.processor.cycles ↔ 0 < n := by
    rw [Emulator.processor, Emulator.processor, state, Machine.cycles_clocks h.processor n]
    omega
  have answer : (e.runUntilPc address maxCycles).answer =
      ((e.armed address).run maxCycles).answer.map (stopsAt address) := rfl
  constructor
  case clocks =>
    refine ⟨n, run.within, state, fun k pos lt fetch here => ?_⟩
    obtain ⟨reason, cause, -⟩ := Breakpoints.fetchCause?_armed armed fetch here
    have quiet := run.earlier k pos lt
    rw [machine] at quiet
    exact Option.some_ne_none _ (cause.symm.trans quiet)
  case reached =>
    intro yes ok
    cases told : ((e.armed address).run maxCycles).answer with
    | error refusal =>
      rw [answer, told] at ok
      cases ok
    | ok event =>
      rw [answer, told] at ok
      obtain rfl := Except.ok.inj ok
      have iff := run.stopsAt_iff armed told
      rw [machine, requested, stepping, ← state, ← clocked] at iff
      exact iff
  case refused =>
    intro refusal
    have iff := run.refused refusal
    rw [machine, settings, ← state, ← clocked] at iff
    rw [answer]
    cases told : ((e.armed address).run maxCycles).answer <;> simpa [told, Except.map] using iff
  case marks => exact e.marks_runUntilPc address maxCycles

/-- After any session, every run up to a fetch leaves breakpoints, watchpoints and conditions alone,
and tells whether it has come there; with a single step or a user's request pending it says no. -/
theorem runs_until_pc (settings : Settings) (requests : List Request) (address maxCycles : Int) :
    ((make settings).after requests).RunsUntilPc address maxCycles
      (((make settings).after requests).runUntilPc address maxCycles) :=
  (sound_after settings requests).runsUntilPc address maxCycles

/-- With a single step pending, a run that comes to the fetch at its address says that it has not.
-/
theorem stepped_until_pc :
    ¬∀ (settings : Settings) (requests : List Request) (address maxCycles : Int),
      (((make settings).after requests).runUntilPc address maxCycles).answer = .ok true ↔
        ((make settings).after requests).CameTo
          (((make settings).after requests).runUntilPc address maxCycles).state address := by
  intro told
  have step := told { config := { width := 8 } } [.edit (.setStepMode true)] 0 100
  revert step
  decide +kernel

end Emulator

end SerialMachine
