import SerialMachine.Debugging
import SerialMachine.Proofs.Checks
import SerialMachine.Proofs.Outcomes

/-!
# Sessions with an emulator

A host steps and runs an emulator, edits its breakpoints, loads its memory and does with its machine
what can be done with any. Main statement: whatever it asks for, the machine inside is sound and the
conditions can be examined; a clock cycle then does to the machine what it does without an observer,
and asks for a stop at a fetch exactly when there is a cause.
-/

namespace SerialMachine

/-- What a host asks of an emulator. -/
inductive Request
  | edit (change : Edit)
  /-- An action on the machine inside, with nobody watching. -/
  | act (action : Action)
  | step
  | stepInstruction (limit : Option Int)
  | execute (budget : Int)
  | run (maxCycles : Int)
  | runUntilPc (address maxCycles : Int)
  | runUntilHalt (maxCycles : Int)
  | loadWords (words : List Int) (start : Int)
  | resetPeripherals
  | resetProcessor
  | reset

/-- Whether a request leaves the registers to the clock and to resets. -/
def Request.sparesRegisters : Request → Bool
  | .act action => action.sparesRegisters
  | _ => true

namespace Emulator

/-- The emulator after a request; one that is refused leaves it as it has come to be. -/
def handle (e : Emulator) : Request → Emulator
  | .edit change => e.mapBreakpoints (·.edit change)
  | .act action => { e with machine := e.machine.act action }
  | .step => e.step.state
  | .stepInstruction limit => (Clocked.stepInstruction limit e).state
  | .execute budget => (Clocked.execute budget e).state
  | .run maxCycles => (e.run maxCycles).state
  | .runUntilPc address maxCycles => (e.runUntilPc address maxCycles).state
  | .runUntilHalt maxCycles => (e.runUntilHalt maxCycles).state
  | .loadWords words start =>
    match e.loadWords words start with
    | .ok loaded => loaded
    | .error _ => e
  | .resetPeripherals => e.withPeripherals e.peripherals.reset
  | .resetProcessor => e.resetProcessor.1
  | .reset => e.reset.1

/-- The emulator after a session of requests. -/
def after (e : Emulator) (requests : List Request) : Emulator :=
  requests.foldl handle e

/-- An emulator without breakpoints. -/
def bare (settings : Settings) (machine : Machine Bus) : Emulator :=
  { settings, machine, breakpoints := {} }

/-- Why the fetch that a machine has come to cannot be traced; none when it can, when tracing is off
and when the machine has not come to a fetch. -/
def traceProblem? (settings : Settings) (m : Machine Bus) : Option InvalidValue :=
  if m.processor.atFetch then
    match (bare settings m).traceEvents m.processor.registers with
    | .ok _ => none
    | .error cause => some cause
  else
    none

/-- The machine is sound, and every condition can be examined. -/
structure Sound (e : Emulator) : Prop where
  processor : e.machine.processor.Sound
  config : e.machine.processor.config = e.settings.config
  checks : e.breakpoints.Valid e.settings.config.variant

variable {e : Emulator}

/-! ## Watching transfers -/

/-- A transfer can only ask for a stop and leave the event that says so. -/
theorem exists_noteTransfer_eq (e : Emulator) (event : Event) :
    ∃ lastEvent transferStop,
      e.noteTransfer event =
          { e with breakpoints := e.breakpoints.withLast lastEvent, transferStop } ∧
        (transferStop = true →
          (e.transferStop = true ∧ lastEvent = e.breakpoints.lastEvent) ∨
            ∃ stop, lastEvent = some stop ∧ e.breakpoints.Watched stop) := by
  cases event with
  | wordRead address value =>
    simp only [noteTransfer, Breakpoints.checkRead]
    split
    · next watched =>
      exact ⟨_, _, rfl, fun _ => Or.inr ⟨_, rfl, address, rfl, Or.inl ⟨rfl, watched⟩⟩⟩
    · exact ⟨e.breakpoints.lastEvent, e.transferStop || !true, rfl,
        fun stop => Or.inl ⟨by simpa using stop, rfl⟩⟩
  | wordWritten address value =>
    simp only [noteTransfer, Breakpoints.checkWrite]
    split
    · next watched =>
      exact ⟨_, _, rfl, fun _ => Or.inr ⟨_, rfl, address, rfl, Or.inr ⟨rfl, watched⟩⟩⟩
    · exact ⟨e.breakpoints.lastEvent, e.transferStop || !true, rfl,
        fun stop => Or.inl ⟨by simpa using stop, rfl⟩⟩
  | _ => exact ⟨e.breakpoints.lastEvent, e.transferStop, rfl, fun stop => Or.inl ⟨stop, rfl⟩⟩

theorem exists_foldl_noteTransfer_eq (e : Emulator) (events : List Event) :
    ∃ lastEvent transferStop,
      events.foldl noteTransfer e =
          { e with breakpoints := e.breakpoints.withLast lastEvent, transferStop } ∧
        (transferStop = true →
          (e.transferStop = true ∧ lastEvent = e.breakpoints.lastEvent) ∨
            ∃ stop, lastEvent = some stop ∧ e.breakpoints.Watched stop) := by
  induction events generalizing e with
  | nil => exact ⟨e.breakpoints.lastEvent, e.transferStop, rfl, fun stop => Or.inl ⟨stop, rfl⟩⟩
  | cons event rest ih =>
    obtain ⟨first, stop, noted, excuse⟩ := e.exists_noteTransfer_eq event
    obtain ⟨last, stop', folded, excuse'⟩ := ih (e.noteTransfer event)
    rw [noted] at folded excuse'
    refine ⟨last, stop', by rw [List.foldl_cons, noted]; exact folded, fun asked => ?_⟩
    rcases excuse' asked with ⟨before, kept⟩ | announced
    · simp only at before kept
      rw [kept]
      exact excuse before
    · exact Or.inr announced

/-! ## A clock cycle -/

theorem fetchOf?_append {reports : List Event} (bus : ∀ event ∈ reports, event.ofBus = true)
    (events : List Event) : fetchOf? (reports ++ events) = fetchOf? events := by
  have silent : fetchOf? reports = none := by
    rw [fetchOf?, List.findSome?_eq_none_iff]
    intro event member
    have about := bus event member
    cases event <;> first | rfl | simp [Event.ofBus] at about
  rw [fetchOf?, List.findSome?_append]
  unfold fetchOf? at silent ⊢
  rw [silent]
  rfl

/-- A processor reports the fetch of an instruction exactly when it has come to one. -/
theorem fetchOf?_entered (p : Processor) (previous : State) :
    fetchOf? (p.entered previous) = if p.atFetch then some p.registers else none := by
  unfold Processor.entered Processor.atFetch
  cases first : p.registers.first with
  | false => simp [fetchOf?]
  | true =>
    cases state : p.registers.state with
    | fetch => cases dispatch : p.registers.dispatch <;> simp [fetchOf?]
    | halt => by_cases before : previous = .halt <;> simp [fetchOf?, before]
    | _ => simp [fetchOf?]

/-- What a watched clock cycle comes to. -/
structure Turned (e : Emulator) (turn : Step Emulator) : Prop where
  machine : turn.state.machine = e.machine.act .clock
  settings : turn.state.settings = e.settings
  checks : turn.state.breakpoints.Valid e.settings.config.variant
  /-- The cycle is refused exactly when the fetch that it comes to cannot be traced. -/
  status : turn.status =
    match traceProblem? e.settings (e.machine.act .clock) with
    | some cause => .error (.invalid cause)
    | none => .ok (if (e.machine.act .clock).processor.halted then .halted else .normal)
  stops : traceProblem? e.settings (e.machine.act .clock) = none → ∀ reason,
    e.breakpoints.fetchCause? (e.machine.act .clock).processor = some reason →
      turn.state.fetchStop = true ∧
        ∃ event, turn.state.breakpoints.lastEvent = some event ∧ event.reason = reason ∧
          event.address = some (e.machine.act .clock).processor.registers.pc
  passes : traceProblem? e.settings (e.machine.act .clock) = none →
    e.breakpoints.fetchCause? (e.machine.act .clock).processor = none →
      turn.state.fetchStop = e.fetchStop ∧
        (∃ lastEvent, turn.state.breakpoints = e.breakpoints.withLast lastEvent) ∧
        (e.transferStop = false → turn.state.transferStop = true →
          ∃ event, turn.state.breakpoints.lastEvent = some event ∧ e.breakpoints.Watched event)

/-- The emulator after a clock cycle in which nobody watches fetches. -/
def moved (e : Emulator) (lastEvent : Option BreakEvent) (transferStop : Bool) : Emulator :=
  { e with
    machine := e.machine.act .clock
    breakpoints := e.breakpoints.withLast lastEvent
    transferStop }

theorem Sound.exists_stepUnwatched_eq (h : e.Sound) :
    ∃ lastEvent transferStop events,
      e.stepUnwatched = {
        state := e.moved lastEvent transferStop
        events
        status := .ok (if (e.machine.act .clock).processor.halted then .halted else .normal) } ∧
      fetchOf? events =
        (if (e.machine.act .clock).processor.atFetch then
          some (e.machine.act .clock).processor.registers
        else none) ∧
      (e.transferStop = false → transferStop = true →
        ∃ event, lastEvent = some event ∧ e.breakpoints.Watched event) := by
  obtain ⟨signals, next, -, step⟩ := Machine.exists_step h.processor
  obtain ⟨lastEvent, transferStop, watched, excuse⟩ :=
    exists_foldl_noteTransfer_eq { e with machine := e.machine.step.state } e.machine.step.events
  refine ⟨lastEvent, transferStop, e.machine.step.events, ?_, ?_, fun quiet asked => ?_⟩
  · rw [stepUnwatched, watched]
    simp only [moved, Machine.act, step]
    rfl
  · simp only [Machine.act, step]
    rw [fetchOf?_append (Bus.ofBus_cycle _ _), fetchOf?_entered]
  · rcases excuse asked with ⟨before, -⟩ | announced
    · simp [quiet] at before
    · exact announced

/-- An emulator at a fetch asks for a stop exactly when there is a cause, and says which. -/
theorem noteFetch_eq (valid : e.breakpoints.Valid e.processor.config.variant)
    (fetch : e.processor.atFetch = true) :
    match e.breakpoints.fetchCause? e.processor with
    | some reason => ∃ (after : Breakpoints) (event : BreakEvent),
        e.noteFetch e.processor.registers =
            ({ e with breakpoints := after, fetchStop := true }, .ok ()) ∧
          after.Valid e.processor.config.variant ∧ after.lastEvent = some event ∧
            event.reason = reason ∧ event.address = some e.processor.registers.pc
    | none => e.noteFetch e.processor.registers = (e, .ok ()) := by
  have check := Breakpoints.checkFetch_eq valid fetch
  cases cause : e.breakpoints.fetchCause? e.processor with
  | some reason =>
    rw [cause] at check
    obtain ⟨after, event, checked, valid', told⟩ := check
    refine ⟨after, event, ?_, valid', told⟩
    rw [noteFetch, checked]
    simp only [Bool.not_false, Bool.or_true]
  | none =>
    rw [cause] at check
    rw [noteFetch, check]
    simp only [Bool.not_true, Bool.or_false]

/-- A clock cycle of the emulator is one of its machine, and a check at a fetch. -/
theorem Sound.turned (h : e.Sound) : e.Turned e.step := by
  obtain ⟨lastEvent, transferStop, events, unwatched, fetch, excuse⟩ :=
    h.exists_stepUnwatched_eq
  have valid : (e.breakpoints.withLast lastEvent).Valid e.settings.config.variant :=
    h.checks.withLast lastEvent
  unfold step
  rw [unwatched]
  simp only [fetch]
  by_cases begins : (e.machine.act .clock).processor.atFetch = true
  · have variant : (e.machine.act .clock).processor.config.variant = e.settings.config.variant := by
      rw [(Machine.sound_act h.processor .clock).2, h.config]
    have same : (e.moved lastEvent transferStop).traceEvents
          (e.machine.act .clock).processor.registers =
        (bare e.settings (e.machine.act .clock)).traceEvents
          (e.machine.act .clock).processor.registers := rfl
    have processor : (e.moved lastEvent transferStop).processor =
        (e.machine.act .clock).processor := rfl
    have cause : (e.moved lastEvent transferStop).breakpoints.fetchCause?
        (e.machine.act .clock).processor =
          e.breakpoints.fetchCause? (e.machine.act .clock).processor := rfl
    have check := noteFetch_eq (e := e.moved lastEvent transferStop) (variant ▸ valid) begins
    rw [processor, cause] at check
    simp only [begins, if_true, same]
    cases traced : (bare e.settings (e.machine.act .clock)).traceEvents
        (e.machine.act .clock).processor.registers with
    | error cause =>
      have problem : traceProblem? e.settings (e.machine.act .clock) = some cause := by
        rw [traceProblem?, if_pos begins, traced]
      refine ⟨rfl, rfl, valid, by rw [problem], ?_, ?_⟩
      · intro none
        simp [problem] at none
      · intro none
        simp [problem] at none
    | ok trace =>
      have problem : traceProblem? e.settings (e.machine.act .clock) = none := by
        rw [traceProblem?, if_pos begins, traced]
      cases cause : e.breakpoints.fetchCause? (e.machine.act .clock).processor with
      | none =>
        rw [cause] at check
        simp only [check]
        refine ⟨rfl, rfl, valid, by rw [problem], ?_, ?_⟩
        · intro _ reason found
          simp [cause] at found
        · intro _ _
          exact ⟨rfl, ⟨lastEvent, rfl⟩, excuse⟩
      | some reason =>
        rw [cause] at check
        obtain ⟨after, event, noted, valid', recorded, ranked, here⟩ := check
        simp only [noted]
        refine ⟨rfl, rfl, variant ▸ valid', by rw [problem], ?_, ?_⟩
        · intro _ other found
          obtain rfl := Option.some.inj (cause.symm.trans found)
          exact ⟨rfl, event, recorded, ranked, here⟩
        · intro _ none
          simp [cause] at none
  · have untraced : traceProblem? e.settings (e.machine.act .clock) = none := by
      rw [traceProblem?, if_neg begins]
    have uncaused : e.breakpoints.fetchCause? (e.machine.act .clock).processor = none := by
      simp [Breakpoints.fetchCause?, begins]
    simp only [begins, Bool.false_eq_true, if_false]
    refine ⟨rfl, rfl, valid, by rw [untraced], ?_, ?_⟩
    · intro _ reason cause
      simp [uncaused] at cause
    · intro _ _
      exact ⟨rfl, ⟨lastEvent, rfl⟩, excuse⟩

/-- What a fetch asks for has nothing to do with word transfers. -/
theorem transferStop_step (e : Emulator) :
    e.step.state.transferStop = e.stepUnwatched.state.transferStop := by
  have noted (r : Registers) :
      (e.stepUnwatched.state.noteFetch r).1.transferStop = e.stepUnwatched.state.transferStop := by
    unfold noteFetch
    simp only
    split <;> rfl
  unfold step
  simp only
  split
  · rfl
  · next r _ =>
    split
    · rfl
    · split <;> next answered => rw [← noted r, answered]

/-- A clock cycle moves no breakpoint, watchpoint or condition. -/
theorem marks_step (e : Emulator) : e.step.state.breakpoints.marks = e.breakpoints.marks := by
  obtain ⟨lastEvent, transferStop, watched, -⟩ :=
    exists_foldl_noteTransfer_eq { e with machine := e.machine.step.state } e.machine.step.events
  have unwatched : e.stepUnwatched.state.breakpoints.marks = e.breakpoints.marks := by
    rw [stepUnwatched, watched]
    rfl
  have noted (r : Registers) :
      (e.stepUnwatched.state.noteFetch r).1.breakpoints.marks = e.breakpoints.marks := by
    have checked := Breakpoints.marks_checkFetch e.stepUnwatched.state.breakpoints
      e.stepUnwatched.state.processor r.pc
    rw [← checked.trans unwatched]
    unfold noteFetch
    simp only
    split <;> rfl
  unfold step
  simp only
  split
  · exact unwatched
  · next r _ =>
    split
    · exact unwatched
    · split <;> next answered => rw [← noted r, answered]

/-! ## Whatever a host asks for -/

theorem Turned.sound {turn : Step Emulator} (turned : e.Turned turn) (h : e.Sound) :
    turn.state.Sound := by
  obtain ⟨sound, config⟩ := Machine.sound_act h.processor .clock
  refine ⟨?_, ?_, ?_⟩
  · rw [turned.machine]
    exact sound
  · rw [turned.machine, turned.settings, config, h.config]
  · rw [turned.settings]
    exact turned.checks

theorem Sound.withBus (h : e.Sound) (bus : Bus) : (e.withBus bus).Sound :=
  ⟨h.processor, h.config, h.checks⟩

theorem Sound.edit (h : e.Sound) (change : Edit) : (e.mapBreakpoints (·.edit change)).Sound :=
  ⟨h.processor, h.config, h.checks.edit change⟩

theorem Sound.act (h : e.Sound) (action : Action) :
    ({ e with machine := e.machine.act action } : Emulator).Sound := by
  obtain ⟨sound, config⟩ := Machine.sound_act h.processor action
  exact ⟨sound, config.trans h.config, h.checks⟩

theorem Sound.stepUnwatched (h : e.Sound) : e.stepUnwatched.state.Sound := by
  obtain ⟨lastEvent, transferStop, events, watched, -, -⟩ := h.exists_stepUnwatched_eq
  obtain ⟨sound, config, -⟩ := h.act .clock
  rw [watched]
  exact ⟨sound, config, h.checks.withLast lastEvent⟩

/-- What every step keeps, a run keeps. -/
theorem state_extend {σ : Type} {P : σ → Prop} {step : σ → Step σ}
    (kept : ∀ s, P s → P (step s).state) (stop : σ → Bool) (budget : Nat) {s : σ} (h : P s)
    (executed : Nat) (events : Array Event) :
    P (Run.extend step stop budget s executed events).state := by
  induction budget generalizing s executed events with
  | zero => exact h
  | succ budget ih =>
    simp only [Run.extend]
    split
    · exact kept s h
    · exact kept s h
    · exact kept s h
    · split
      · exact kept s h
      · exact ih (kept s h) _ _

/-- What holds of an emulator in spite of everything but an action on the machine inside. -/
structure Lasting (P : Emulator → Prop) : Prop where
  step : ∀ e, P e → P e.step.state
  stepUnwatched : ∀ e, P e → P e.stepUnwatched.state
  /-- The demands for a stop do not matter. -/
  asked : ∀ e fetchStop transferStop, P e → P { e with fetchStop, transferStop }
  edit : ∀ e change, P e → P (e.mapBreakpoints (·.edit change))
  loadWords : ∀ e words start loaded, e.loadWords words start = .ok loaded → P e → P loaded
  withPeripherals : ∀ e peripherals, P e → P (e.withPeripherals peripherals)
  resetProcessor : ∀ e, P e → P e.resetProcessor.1

namespace Lasting

variable {P : Emulator → Prop} (lasting : Lasting P) (h : P e)
include lasting h

theorem run (maxCycles : Int) : P (e.run maxCycles).state := by
  have ran : P (e.course maxCycles).state :=
    state_extend lasting.step stopAsked maxCycles.toNat (lasting.asked e false false h) 0 #[]
  obtain state | ⟨event, -, state⟩ := e.state_run maxCycles <;> rw [state]
  · exact ran
  · exact lasting.edit _ (.record event) ran

theorem runUntilPc (address maxCycles : Int) : P (e.runUntilPc address maxCycles).state := by
  have armed := lasting.edit e (.addBreakpoint address) h
  unfold Emulator.runUntilPc
  simp only
  split
  · exact lasting.run h maxCycles
  · exact lasting.edit _ (.removeBreakpoint address) (lasting.run armed maxCycles)

theorem untilHalt (fuel : Nat) (remaining : Int) (events : Array Event) :
    P (untilHalt fuel e remaining events).state := by
  induction fuel generalizing e remaining events with
  | zero => exact h
  | succ fuel ih =>
    simp only [Emulator.untilHalt]
    split
    · exact h
    · split
      · exact lasting.run h remaining
      · split
        · exact lasting.run h remaining
        · exact lasting.run h remaining
        · exact lasting.run h remaining
        · exact ih (lasting.run h remaining) _ _

/-- What lasts also holds after a request, if it does after the action that may be the request. -/
theorem handle (request : Request)
    (act : ∀ action, request = .act action → P { e with machine := e.machine.act action }) :
    P (e.handle request) := by
  cases request with
  | edit change => exact lasting.edit e change h
  | act action => exact act action rfl
  | step => exact lasting.step e h
  | stepInstruction limit => exact state_extend lasting.stepUnwatched _ _ h 0 #[]
  | execute budget =>
    exact state_extend lasting.step _ _ (lasting.asked e false e.transferStop h) 0 #[]
  | run maxCycles => exact lasting.run h maxCycles
  | runUntilPc address maxCycles => exact lasting.runUntilPc h address maxCycles
  | runUntilHalt maxCycles => exact lasting.untilHalt h _ maxCycles #[]
  | loadWords words start =>
    unfold Emulator.handle
    simp only
    split
    · next loaded done => exact lasting.loadWords e words start loaded done h
    · exact h
  | resetPeripherals => exact lasting.withPeripherals e _ h
  | resetProcessor => exact lasting.resetProcessor e h
  | reset =>
    exact lasting.edit _ .clearBreakRequest
      (lasting.withPeripherals _ _ (lasting.resetProcessor e h))

/-- And so it holds after a session. -/
theorem after {requests : List Request} (act : ∀ action, .act action ∈ requests →
      ∀ e : Emulator, P e → P { e with machine := e.machine.act action }) :
    P (e.after requests) := by
  induction requests generalizing e with
  | nil => exact h
  | cons request rest ih =>
    refine ih (lasting.handle h request fun action same => ?_) fun action member =>
      act action (List.mem_cons_of_mem request member)
    exact act action (same ▸ List.mem_cons_self) e h

end Lasting

/-- An emulator stays sound. -/
theorem lasting_sound : Lasting Sound where
  step _ h := h.turned.sound h
  stepUnwatched _ h := h.stepUnwatched
  asked _ _ _ h := ⟨h.processor, h.config, h.checks⟩
  edit _ change h := h.edit change
  loadWords e words start loaded done h := by
    unfold Emulator.loadWords at done
    cases found : e.memory.loadWords words start with
    | error cause => simp [found] at done
    | ok memory =>
      rw [found] at done
      cases done
      exact h.withBus _
  withPeripherals _ _ h := h.withBus _
  resetProcessor e h := ⟨Machine.sound_reset e.machine, h.config, h.checks⟩

/-- What the clock, loading, other peripherals and a reset keep of a machine lasts in the emulator
around it. -/
theorem lasting_machine {P : Machine Bus → Prop}
    (clock : ∀ m : Machine Bus, m.processor.Sound → P m → P (m.act .clock))
    (load : ∀ m : Machine Bus, ∀ words start memory,
      m.bus.memory.loadWords words start = .ok memory → P m →
        P { m with bus := { m.bus with memory } })
    (peripherals : ∀ m : Machine Bus, ∀ p : Peripherals, P m →
      P { m with bus := { m.bus with peripherals := some p } })
    (reset : ∀ m : Machine Bus, P m → P m.reset.1) :
    Lasting fun e => e.Sound ∧ P e.machine where
  step e h := by
    have turned := h.1.turned
    refine ⟨turned.sound h.1, ?_⟩
    rw [turned.machine]
    exact clock _ h.1.processor h.2
  stepUnwatched e h := by
    obtain ⟨lastEvent, transferStop, events, watched, -, -⟩ := h.1.exists_stepUnwatched_eq
    have clocked := clock _ h.1.processor h.2
    refine ⟨h.1.stepUnwatched, ?_⟩
    rw [watched]
    exact clocked
  asked e fetchStop transferStop h := ⟨lasting_sound.asked e fetchStop transferStop h.1, h.2⟩
  edit e change h := ⟨h.1.edit change, h.2⟩
  loadWords e words start loaded done h := by
    refine ⟨lasting_sound.loadWords e words start loaded done h.1, ?_⟩
    unfold Emulator.loadWords at done
    cases found : e.memory.loadWords words start with
    | error cause => simp [found] at done
    | ok memory =>
      rw [found] at done
      cases done
      exact load e.machine words start memory found h.2
  withPeripherals e p h := ⟨h.1.withBus _, peripherals e.machine p h.2⟩
  resetProcessor e h := ⟨lasting_sound.resetProcessor e h.1, reset e.machine h.2⟩

theorem Sound.run (h : e.Sound) (maxCycles : Int) : (e.run maxCycles).state.Sound :=
  lasting_sound.run h maxCycles

/-- Every request keeps an emulator sound. -/
theorem Sound.handle (h : e.Sound) (request : Request) : (e.handle request).Sound :=
  lasting_sound.handle h request fun action _ => h.act action

/-- A run moves no breakpoint, watchpoint or condition. -/
theorem marks_run (e : Emulator) (maxCycles : Int) :
    (e.run maxCycles).state.breakpoints.marks = e.breakpoints.marks := by
  have ran : (e.course maxCycles).state.breakpoints.marks = e.breakpoints.marks :=
    state_extend (P := fun s => s.breakpoints.marks = e.breakpoints.marks)
      (fun s same => (marks_step s).trans same) stopAsked maxCycles.toNat (s := e.unasked) rfl 0 #[]
  obtain state | ⟨event, -, state⟩ := e.state_run maxCycles <;> rw [state]
  · exact ran
  · exact ran

theorem sound_make (settings : Settings) : (make settings).Sound where
  processor := Machine.sound_reset (make settings).machine
  config := rfl
  checks := ⟨rfl, by simp [make]⟩

theorem sound_after (settings : Settings) (requests : List Request) :
    ((make settings).after requests).Sound := by
  have kept : ∀ e : Emulator, e.Sound → (e.after requests).Sound := by
    induction requests with
    | nil => exact fun _ sound => sound
    | cons request rest ih => exact fun e sound => ih (e.handle request) (sound.handle request)
  exact kept (make settings) (sound_make settings)

/-- What actions, loading, other peripherals and a reset keep of a machine holds in every session of
the machine inside. -/
theorem machine_after {P : Machine Bus → Prop}
    (act : ∀ m : Machine Bus, ∀ action, m.processor.Sound → P m → P (m.act action))
    (load : ∀ m : Machine Bus, ∀ words start memory,
      m.bus.memory.loadWords words start = .ok memory → P m →
        P { m with bus := { m.bus with memory } })
    (peripherals : ∀ m : Machine Bus, ∀ p : Peripherals, P m →
      P { m with bus := { m.bus with peripherals := some p } })
    (reset : ∀ m : Machine Bus, P m → P m.reset.1) {settings : Settings}
    (made : P (make settings).machine) (requests : List Request) :
    P ((make settings).after requests).machine := by
  have lasting : Lasting fun e => e.Sound ∧ P e.machine :=
    lasting_machine (fun m => act m .clock) load peripherals reset
  refine (lasting.after ⟨sound_make settings, made⟩ fun action _ e h => ?_).2
  exact ⟨h.1.act action, act e.machine action h.1.processor h.2⟩

end Emulator

end SerialMachine
