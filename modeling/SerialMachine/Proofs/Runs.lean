import SerialMachine.Proofs.Emulation

/-!
# Runs of the emulator

What one run comes to, told by the clock cycles of the machine alone: a run goes on as long as no
cycle ends in a halt, in a fetch that cannot be traced, or in a fetch with a cause to stop, and
where it ends the event says why. The checks after word transfers may end it earlier.
-/

namespace SerialMachine

/-- The machine after `n` clock cycles. -/
def Machine.clocks : Nat → Machine Bus → Machine Bus
  | 0, m => m
  | n + 1, m => clocks n (m.act .clock)

theorem Machine.clocks_add (a b : Nat) (m : Machine Bus) :
    m.clocks (a + b) = (m.clocks a).clocks b := by
  induction a generalizing m with
  | zero => rw [Nat.zero_add, clocks]
  | succ a ih => rw [Nat.succ_add, clocks, ih, clocks]

theorem Machine.clocks_succ (n : Nat) (m : Machine Bus) :
    m.clocks (n + 1) = (m.clocks n).act .clock := by
  rw [clocks_add, clocks, clocks]

/-- Clock cycles leave the interrupt line as it is. -/
theorem Machine.clocks_eq_run {m : Machine Bus} (h : m.processor.Sound) (n : Nat) :
    m.clocks n = m.run (fun _ => m.processor.irq) n ∧
      (m.clocks n).processor.Sound ∧ (m.clocks n).processor.irq = m.processor.irq := by
  induction n with
  | zero => exact ⟨rfl, h, rfl⟩
  | succ n ih =>
    obtain ⟨run, sound, irq⟩ := ih
    obtain ⟨signals, next, -, step⟩ := exists_step sound
    rw [clocks_succ]
    refine ⟨?_, (sound_act sound .clock).1, ?_⟩
    · rw [Machine.run, ← run, ← irq]
      rfl
    · rw [act, step]
      exact irq

/-- A machine that has been reset comes to its first fetch with the program counter at zero, and not
before as many cycles as a state takes. -/
theorem Machine.Ready.clocks_of_reset {m : Machine Bus} (h : m.Ready) (sound : m.processor.Sound)
    (begins : m.processor.registers.state = .reset) :
    (∀ k, 0 < k → k < m.processor.config.width + 1 → (m.clocks k).processor.settled = false) ∧
      (m.clocks (m.processor.config.width + 1)).processor.atFetch = true ∧
      (m.clocks (m.processor.config.width + 1)).processor.registers.pc = 0 ∧
      (m.clocks (m.processor.config.width + 1)).bus.memory = m.bus.memory := by
  have performs := h.performs_reset (fun _ => m.processor.irq) [] begins
  have clocks (k : Nat) := (clocks_eq_run sound k).1
  refine ⟨fun k pos lt => ?_, ?_, ?_, ?_⟩
  · rw [clocks]
    exact performs.unsettled k pos lt
  · rw [clocks]
    exact performs.atFetch
  · rw [clocks]
    exact congrArg (·.pc) performs.machine
  · rw [clocks]
    exact congrArg (·.bus.memory) performs.machine

namespace Emulator

/-- A cycle that leaves the machine so ends every run: in a halt, or because the fetch that it has
come to cannot be traced. -/
def endsRuns (settings : Settings) (m : Machine Bus) : Bool :=
  m.processor.halted || (traceProblem? settings m).isSome

/-- Why the fetch that a machine has come to is one at which the emulator stops. -/
def stopCause? (e : Emulator) (m : Machine Bus) : Option BreakReason :=
  e.breakpoints.fetchCause? m.processor

/-- The event tells why a run stopped in a cycle that left the machine so: for the cause, if there
is one at a fetch, and else for a watched transfer. -/
def Explains (e : Emulator) (m : Machine Bus) (event : BreakEvent) : Prop :=
  match e.stopCause? m with
  | some reason => event.reason = reason ∧ event.address = some m.processor.registers.pc
  | none => e.breakpoints.Watched event

/-- Why a run of at most `budget` cycles that leaves the emulator as `state` ends after `n`. -/
def EndsAfter (e : Emulator) (budget n : Nat) (state : Emulator) : Except Refusal Ending → Prop
  | .ok .exhausted =>
    n = budget ∧ (0 < n →
      endsRuns e.settings (e.machine.clocks n) = false ∧ e.stopCause? (e.machine.clocks n) = none)
  | .ok .halted => 0 < n ∧ (e.machine.clocks n).processor.halted = true
  | .ok .faulted => False
  | .ok .stopped =>
    0 < n ∧ endsRuns e.settings (e.machine.clocks n) = false ∧
      ∃ event, state.breakpoints.lastEvent = some event ∧ e.Explains (e.machine.clocks n) event
  | .error refusal =>
    0 < n ∧ ∃ cause, traceProblem? e.settings (e.machine.clocks n) = some cause ∧
      refusal = .invalid cause

/-- The run `r`, of at most `budget` cycles from `e` on, has taken `n`; `before` were counted when
it began. -/
structure Ran (e : Emulator) (budget before n : Nat) (r : Run Emulator) : Prop where
  le : n ≤ budget
  machine : r.state.machine = e.machine.clocks n
  settings : r.state.settings = e.settings
  sound : r.state.Sound
  passed : ∀ k, 0 < k → k < n →
    endsRuns e.settings (e.machine.clocks k) = false ∧ e.stopCause? (e.machine.clocks k) = none
  executed : ∀ ending, r.ending = .ok ending → r.executed = before + n
  ends : e.EndsAfter budget n r.state r.ending

variable {e : Emulator}

theorem traceProblem?_eq_none_of_halted {settings : Settings} {m : Machine Bus}
    (halted : m.processor.halted = true) : traceProblem? settings m = none := by
  have away : m.processor.atFetch = false := by
    simp only [Processor.halted, beq_iff_eq] at halted
    simp [Processor.atFetch, halted]
  rw [traceProblem?, if_neg (by simp [away])]

theorem stopCause?_eq_none_of_halted {m : Machine Bus} (halted : m.processor.halted = true) :
    e.stopCause? m = none := by
  simp only [Processor.halted, beq_iff_eq] at halted
  simp [stopCause?, Breakpoints.fetchCause?, Processor.atFetch, halted]

/-- Inside an instruction nothing ends a run but a watched transfer. -/
theorem goes_on_of_unsettled {m : Machine Bus} (unsettled : m.processor.settled = false) :
    endsRuns e.settings m = false ∧ e.stopCause? m = none := by
  rw [Processor.settled, Bool.or_eq_false_iff] at unsettled
  obtain ⟨away, unhalted⟩ := unsettled
  constructor
  · simp [endsRuns, traceProblem?, away, unhalted]
  · simp [stopCause?, Breakpoints.fetchCause?, away]

/-! ## One run -/

/-- A cycle after which a run ends. -/
theorem Ran.last {r : Run Emulator} {budget before : Nat} (sound : r.state.Sound)
    (machine : r.state.machine = e.machine.act .clock) (settings : r.state.settings = e.settings)
    (executed : ∀ ending, r.ending = .ok ending → r.executed = before + 1)
    (ends : e.EndsAfter (budget + 1) 1 r.state r.ending) : e.Ran (budget + 1) before 1 r where
  le := Nat.le_add_left 1 budget
  machine := machine
  settings := settings
  sound := sound
  passed k pos lt := by omega
  executed := executed
  ends := ends

/-- A cycle after which a run goes on. -/
theorem Ran.next {e' : Emulator} {r : Run Emulator} {budget before n : Nat}
    (ran : e'.Ran budget (before + 1) n r) (machine : e'.machine = e.machine.act .clock)
    (settings : e'.settings = e.settings) {lastEvent : Option BreakEvent}
    (breakpoints : e'.breakpoints = e.breakpoints.withLast lastEvent)
    (quiet : endsRuns e.settings (e.machine.act .clock) = false ∧
      e.stopCause? (e.machine.act .clock) = none) :
    e.Ran (budget + 1) before (n + 1) r := by
  have cause (m : Machine Bus) : e'.stopCause? m = e.stopCause? m := by
    rw [stopCause?, breakpoints, Breakpoints.fetchCause?_withLast, stopCause?]
  have explains (m : Machine Bus) (event : BreakEvent) (told : e'.Explains m event) :
      e.Explains m event := by
    unfold Explains at told ⊢
    rw [cause, breakpoints] at told
    exact told
  have clocks (k : Nat) : e'.machine.clocks k = e.machine.clocks (k + 1) := by
    rw [machine, Machine.clocks]
  refine ⟨Nat.succ_le_succ ran.le, ?_, ran.settings.trans settings, ran.sound, ?_, ?_, ?_⟩
  · rw [ran.machine, clocks]
  · rintro (_ | _ | k) pos lt
    · omega
    · exact quiet
    · have passed := ran.passed (k + 1) (by omega) (by omega)
      rwa [settings, cause, clocks] at passed
  · intro ending ended
    rw [ran.executed ending ended]
    omega
  · have ends := ran.ends
    cases ending : r.ending with
    | error refusal =>
      rw [ending] at ends
      obtain ⟨-, cause, problem, same⟩ := ends
      rw [settings, clocks] at problem
      exact ⟨n.succ_pos, cause, problem, same⟩
    | ok ending' =>
      rw [ending] at ends
      cases ending' with
      | exhausted =>
        obtain ⟨whole, last⟩ := ends
        refine ⟨by rw [whole], fun _ => ?_⟩
        rcases n.eq_zero_or_pos with rfl | pos
        · exact quiet
        · have passed := last pos
          rwa [settings, cause, clocks] at passed
      | halted =>
        obtain ⟨-, halted⟩ := ends
        rw [clocks] at halted
        exact ⟨n.succ_pos, halted⟩
      | faulted => exact ends
      | stopped =>
        obtain ⟨-, open', event, last, told⟩ := ends
        rw [settings, clocks] at open'
        rw [clocks] at told
        exact ⟨n.succ_pos, open', event, last, explains _ event told⟩

/-- A run from a state in which no stop has been asked for. -/
theorem Sound.ran_extend (h : e.Sound) (fetches : e.fetchStop = false)
    (transfers : e.transferStop = false) (budget before : Nat) (events : Array Event) :
    ∃ n, e.Ran budget before n
      (Run.extend step stopAsked budget e before events) := by
  induction budget generalizing e before events with
  | zero =>
    refine ⟨0, le_rfl, rfl, rfl, h, fun k pos lt => by omega, fun _ _ => rfl, rfl, ?_⟩
    simp
  | succ budget ih =>
    have turned := h.turned
    have sound := turned.sound h
    unfold Run.extend
    simp only [turned.status]
    cases problem : traceProblem? e.settings (e.machine.act .clock) with
    | some cause =>
      refine ⟨1, .last sound turned.machine turned.settings (by simp) ?_⟩
      exact ⟨Nat.one_pos, cause, problem, rfl⟩
    | none =>
      cases halted : (e.machine.act .clock).processor.halted with
      | true =>
        simp only [if_true]
        refine ⟨1, .last sound turned.machine turned.settings (fun _ _ => rfl) ?_⟩
        exact ⟨Nat.one_pos, halted⟩
      | false =>
        have going : endsRuns e.settings (e.machine.act .clock) = false := by
          simp [endsRuns, halted, problem]
        simp only [Bool.false_eq_true, if_false]
        cases cause : e.stopCause? (e.machine.act .clock) with
        | some reason =>
          obtain ⟨stop, event, last, ranked, here⟩ := turned.stops problem reason cause
          simp only [stopAsked, stop, Bool.true_or, if_true]
          refine ⟨1, .last sound turned.machine turned.settings (fun _ _ => rfl) ?_⟩
          refine ⟨Nat.one_pos, going, event, last, ?_⟩
          rw [Machine.clocks, Machine.clocks, Explains, cause]
          exact ⟨ranked, here⟩
        | none =>
          obtain ⟨kept, ⟨lastEvent, breakpoints⟩, watched⟩ := turned.passes problem cause
          simp only [stopAsked, kept, fetches, Bool.false_or]
          cases transfer : e.step.state.transferStop with
          | true =>
            obtain ⟨event, last, told⟩ := watched transfers transfer
            simp only [if_true]
            refine ⟨1, .last sound turned.machine turned.settings (fun _ _ => rfl) ?_⟩
            refine ⟨Nat.one_pos, going, event, last, ?_⟩
            rw [Machine.clocks, Machine.clocks, Explains, cause]
            exact told
          | false =>
            simp only [Bool.false_eq_true, if_false]
            obtain ⟨n, ran⟩ := ih sound (kept.trans fetches) transfer (before + 1) _
            exact ⟨n + 1, ran.next turned.machine turned.settings breakpoints ⟨going, cause⟩⟩

/-! ## The answer -/

/-- The answer of a run of at most `maxCycles` cycles that ends after `n`. -/
inductive Answered (e : Emulator) (maxCycles : Int) (n : Nat) : Except Refusal BreakEvent → Prop
  | untraced {cause : InvalidValue} (pos : 0 < n)
    (problem : traceProblem? e.settings (e.machine.clocks n) = some cause) :
    Answered e maxCycles n (.error (.invalid cause))
  | unwritten (used : (e.course maxCycles).ending = .ok .exhausted) (whole : n = maxCycles.toNat)
    (quiet : 0 < n → endsRuns e.settings (e.machine.clocks n) = false ∧
      e.stopCause? (e.machine.clocks n) = none)
    (long : Text.writeDecimal? maxCycles = none) :
    Answered e maxCycles n (.error (.invalid .longNumeral))
  | exhausted {event : BreakEvent} (used : (e.course maxCycles).ending = .ok .exhausted)
    (reason : event.reason = .maxCycles) (cycles : event.cycles = n) (whole : n = maxCycles.toNat)
    (quiet : 0 < n → endsRuns e.settings (e.machine.clocks n) = false ∧
      e.stopCause? (e.machine.clocks n) = none) :
    Answered e maxCycles n (.ok event)
  | halted {event : BreakEvent} (reason : event.reason = .halted) (cycles : event.cycles = n)
    (pos : 0 < n) (halted : (e.machine.clocks n).processor.halted = true) :
    Answered e maxCycles n (.ok event)
  | stopped {event : BreakEvent} (cycles : event.cycles = n) (pos : 0 < n)
    (going : endsRuns e.settings (e.machine.clocks n) = false)
    (explains : e.Explains (e.machine.clocks n) event) : Answered e maxCycles n (.ok event)

/-- A run ends after a number of cycles that its answer gives the reason for, and leaves the machine
as that many clock cycles do. -/
theorem Sound.exists_answered (h : e.Sound) (maxCycles : Int) :
    ∃ n, n ≤ maxCycles.toNat ∧ (e.run maxCycles).state.machine = e.machine.clocks n ∧
      (e.run maxCycles).state.settings = e.settings ∧
      (∀ k, 0 < k → k < n → endsRuns e.settings (e.machine.clocks k) = false ∧
        e.stopCause? (e.machine.clocks k) = none) ∧
      e.Answered maxCycles n (e.run maxCycles).answer := by
  have ready : e.unasked.Sound := ⟨h.processor, h.config, h.checks⟩
  obtain ⟨n, ran⟩ : ∃ n, e.unasked.Ran maxCycles.toNat 0 n (e.course maxCycles) :=
    ready.ran_extend rfl rfl maxCycles.toNat 0 #[]
  have ends : e.EndsAfter maxCycles.toNat n (e.course maxCycles).state
      (e.course maxCycles).ending := ran.ends
  refine ⟨n, ran.le, ?_, ?_, ran.passed, ?_⟩
  · obtain state | ⟨event, -, state⟩ := e.state_run maxCycles <;> rw [state]
    · exact ran.machine
    · exact ran.machine
  · obtain state | ⟨event, -, state⟩ := e.state_run maxCycles <;> rw [state]
    · exact ran.settings
    · exact ran.settings
  · cases ending : (e.course maxCycles).ending with
    | error refusal =>
      rw [ending] at ends
      obtain ⟨pos, cause, problem, rfl⟩ := ends
      rw [answer_run, conclusion, ending]
      exact .untraced pos problem
    | ok ending' =>
      have executed : ((e.course maxCycles).executed : Int) = n := by
        simp [ran.executed ending' ending]
      rw [ending] at ends
      cases ending' with
      | exhausted =>
        obtain ⟨whole, quiet⟩ := ends
        rw [answer_of_exhausted ending]
        cases told : limitEvent maxCycles with
        | error cause =>
          obtain ⟨long, rfl⟩ := limitEvent_eq_error_iff.1 told
          exact .unwritten ending whole quiet long
        | ok event =>
          obtain ⟨message, rfl⟩ := exists_eq_of_limitEvent told
          exact .exhausted ending rfl executed whole quiet
      | halted =>
        obtain ⟨pos, halted⟩ := ends
        rw [answer_run, conclusion, ending]
        exact .halted rfl executed pos halted
      | faulted => exact ends.elim
      | stopped =>
        obtain ⟨pos, going, event, last, told⟩ := ends
        rw [answer_run, conclusion_of_ending ending, endingEvent, last, Option.elim_some]
        exact .stopped executed pos going told

/-- With cycles left, a run takes at least one. -/
theorem Sound.exists_clocks (h : e.Sound) {maxCycles : Int} (pos : 0 < maxCycles) :
    ∃ n, 0 < n ∧ (e.run maxCycles).state.machine = e.machine.clocks n := by
  obtain ⟨n, -, machine, -, -, answered⟩ := h.exists_answered maxCycles
  refine ⟨n, ?_, machine⟩
  generalize (e.run maxCycles).answer = answer at answered
  cases answered with
  | untraced pos _ => exact pos
  | unwritten _ whole _ _ => omega
  | exhausted _ _ _ whole _ => omega
  | halted _ _ pos _ => exact pos
  | stopped _ pos _ _ => exact pos

/-- A run without watchpoints is refused at the first fetch that it comes to, if that cannot be
traced. -/
theorem Sound.run_refused (h : e.Sound) {n : Nat} {cause : InvalidValue} (pos : 0 < n)
    (before : ∀ k, 0 < k → k < n → (e.machine.clocks k).processor.settled = false)
    (problem : traceProblem? e.settings (e.machine.clocks n) = some cause)
    (unwatched : ∀ event, ¬e.breakpoints.Watched event) :
    (e.run n).state.machine = e.machine.clocks n ∧
      (e.run n).answer = .error (.invalid cause) := by
  obtain ⟨j, le, machine, -, -, answered⟩ := h.exists_answered n
  have ends : endsRuns e.settings (e.machine.clocks n) = true := by simp [endsRuns, problem]
  rw [Int.toNat_natCast] at le
  rcases Nat.lt_or_eq_of_le le with early | rfl
  · -- No earlier cycle is a reason to end: it comes neither to a fetch nor to a halt.
    have quiet (pos : 0 < j) : endsRuns e.settings (e.machine.clocks j) = false ∧
        e.stopCause? (e.machine.clocks j) = none := goes_on_of_unsettled (before j pos early)
    generalize (e.run n).answer = answer at answered
    cases answered with
    | untraced pos problem => simp [endsRuns, problem] at quiet; omega
    | unwritten _ whole _ _ => omega
    | exhausted _ _ _ whole _ => omega
    | halted _ _ pos halted => simp [endsRuns, halted] at quiet; omega
    | stopped _ pos _ explains =>
      rw [Explains, (quiet pos).2] at explains
      exact absurd explains (unwatched _)
  · refine ⟨machine, ?_⟩
    generalize (e.run j).answer = answer at answered
    cases answered with
    | untraced _ found =>
      obtain rfl := Option.some.inj (found.symm.trans problem)
      rfl
    | unwritten _ _ quiet _ => simp [(quiet pos).1] at ends
    | exhausted _ _ _ _ quiet => simp [(quiet pos).1] at ends
    | halted _ _ _ halted => simp [traceProblem?_eq_none_of_halted halted] at problem
    | stopped _ _ going _ => simp [going] at ends

theorem traceProblem?_of_line {settings : Settings} {m : Machine Bus} {cause : InvalidValue}
    (tracing : settings.trace = true) (fetch : m.processor.atFetch = true)
    (refused : (bare settings m).listing.line (m.bus.memory.get m.processor.registers.pc)
      m.processor.registers.pc = .error cause) : traceProblem? settings m = some cause := by
  have traced : (bare settings m).traceEvents m.processor.registers = .error cause := by
    have traces : (bare settings m).settings.trace = true := tracing
    have there : (bare settings m).listing.line
        ((bare settings m).memory.get m.processor.registers.pc) m.processor.registers.pc =
      .error cause := refused
    rw [traceEvents, if_pos traces, there]
    rfl
  rw [traceProblem?, if_pos fetch, traced]

/-- Words so wide that a listing cannot name every register of the peripherals, and tracing. -/
def wideTraced : Settings :=
  { config := { width := 14300 }, memoryWords := some 16, trace := true }

/-- The first word of the memory becomes one that `wideTraced` cannot list. -/
def loadUnlisted : Request := .loadWords [Word.mask 14300] 0

/-- The first fetch of `wideTraced` cannot be traced when it is the fetch of that word. -/
theorem traceProblem?_loadUnlisted :
    (∀ k, 0 < k → k < wideTraced.config.width + 1 →
      (((make wideTraced).handle loadUnlisted).machine.clocks k).processor.settled = false) ∧
    (((make wideTraced).handle loadUnlisted).machine.clocks
      (wideTraced.config.width + 1)).processor.atFetch = true ∧
    (((make wideTraced).handle loadUnlisted).machine.clocks
      (wideTraced.config.width + 1)).processor.registers.pc = 0 ∧
    traceProblem? wideTraced (((make wideTraced).handle loadUnlisted).machine.clocks
      (wideTraced.config.width + 1)) = some .longNumeral := by
  have ready : ((make wideTraced).handle loadUnlisted).machine.Ready :=
    Machine.ready_reset (m := ((make wideTraced).handle loadUnlisted).machine) rfl
  have sound := (sound_after wideTraced [loadUnlisted]).processor
  have config : ((make wideTraced).handle loadUnlisted).machine.processor.config =
      wideTraced.config := rfl
  obtain ⟨before, fetch, pc, memory⟩ := ready.clocks_of_reset sound rfl
  rw [config] at before fetch pc memory
  refine ⟨before, fetch, pc, traceProblem?_of_line rfl fetch ?_⟩
  rw [pc, memory]
  decide +kernel

end Emulator

end SerialMachine
