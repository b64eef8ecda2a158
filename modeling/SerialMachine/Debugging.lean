import SerialMachine.Emulator

/-!
# Runs of the emulator

Runs up to a halt, a fault, a stop that the breakpoints ask for, or the end of the cycles, and the
events that tell why they stopped.
-/

namespace SerialMachine

/-- The outcome of a request to an emulator: its state after it, what happened, and the answer,
unless a step was refused. -/
structure Outcome (α : Type) where
  state : Emulator
  events : Array Event
  answer : Except Refusal α

namespace Emulator

/-- The address of the program counter, as break events give it. -/
def here (e : Emulator) : Option Int :=
  some e.processor.registers.pc

/-- The text of the fault that stopped the processor. -/
def faultText (e : Emulator) : String :=
  (e.processor.fault.map Fault.text).getD ""

/-- The event that tells that a run has used up its cycles. -/
def limitEvent (maxCycles : Int) : Except InvalidValue BreakEvent := do
  let limit ← InvalidValue.decimal maxCycles
  return { reason := .maxCycles, message := "Reached max cycles (" ++ limit ++ ")" }

theorem limitEvent_eq_error_iff {maxCycles : Int} {cause : InvalidValue} :
    limitEvent maxCycles = .error cause ↔
      Text.writeDecimal? maxCycles = none ∧ cause = .longNumeral := by
  rw [← InvalidValue.decimal_eq_error_iff, limitEvent]
  cases InvalidValue.decimal maxCycles <;> simp [bind, Except.bind, pure, Except.pure]

theorem exists_eq_of_limitEvent {maxCycles : Int} {event : BreakEvent}
    (told : limitEvent maxCycles = .ok event) :
    ∃ message, event = { reason := .maxCycles, message } := by
  unfold limitEvent at told
  cases written : InvalidValue.decimal maxCycles with
  | error cause =>
    rw [written] at told
    cases told
  | ok limit =>
    rw [written] at told
    exact ⟨_, (Except.ok.inj told).symm⟩

/-- The event that tells why a run ended. A stop that the breakpoints asked for is the event that
they recorded. -/
def endingEvent (e : Emulator) (maxCycles : Int) : Ending → Except InvalidValue BreakEvent
  | .faulted => .ok { reason := .fault, address := e.here, message := e.faultText }
  | .halted => .ok {
      reason := .halted, address := e.here
      message := "CPU halted at $" ++ Text.hex 4 e.processor.registers.pc }
  | .stopped => e.breakpoints.lastEvent.elim (limitEvent maxCycles) .ok
  | .exhausted => limitEvent maxCycles

/-- A check has asked for a stop. -/
def stopAsked (e : Emulator) : Bool := e.fetchStop || e.transferStop

/-- The emulator with no stop asked for. -/
def unasked (e : Emulator) : Emulator :=
  { e with fetchStop := false, transferStop := false }

/-- At most `maxCycles` cycles, until a halt, a fault, or a stop. -/
def course (e : Emulator) (maxCycles : Int) : Run Emulator :=
  Run.start step stopAsked maxCycles.toNat e.unasked

/-- What a run of at most `maxCycles` cycles with the given course answers. -/
def conclusion (r : Run Emulator) (maxCycles : Int) : Except Refusal BreakEvent := do
  let event ← (r.state.endingEvent maxCycles (← r.ending)).mapError Refusal.invalid
  return { event with cycles := r.executed }

theorem conclusion_of_ending {r : Run Emulator} {maxCycles : Int} {ending : Ending}
    (ended : r.ending = .ok ending) :
    conclusion r maxCycles = match r.state.endingEvent maxCycles ending with
      | .error cause => .error (.invalid cause)
      | .ok event => .ok { event with cycles := r.executed } := by
  simp only [conclusion, ended, bind, Except.bind]
  cases r.state.endingEvent maxCycles ending <;> rfl

theorem conclusion_eq_ok_iff {r : Run Emulator} {maxCycles : Int} {event : BreakEvent} :
    conclusion r maxCycles = .ok event ↔
      ∃ ending told, r.ending = .ok ending ∧ r.state.endingEvent maxCycles ending = .ok told ∧
        event = { told with cycles := r.executed } := by
  cases ended : r.ending with
  | error refusal => simp [conclusion, ended, bind, Except.bind]
  | ok ending =>
    rw [conclusion_of_ending ended]
    cases told : r.state.endingEvent maxCycles ending <;> simp [told, eq_comm]

theorem conclusion_eq_error_iff {r : Run Emulator} {maxCycles : Int} {refusal : Refusal} :
    conclusion r maxCycles = .error refusal ↔
      r.ending = .error refusal ∨ ∃ ending cause, r.ending = .ok ending ∧
        r.state.endingEvent maxCycles ending = .error cause ∧ refusal = .invalid cause := by
  cases ended : r.ending with
  | error refusal => simp [conclusion, ended, bind, Except.bind]
  | ok ending =>
    rw [conclusion_of_ending ended]
    cases told : r.state.endingEvent maxCycles ending <;> simp [told, eq_comm]

/-- Runs at most `maxCycles` cycles, until a halt, a fault, or a stop. The event is also the last
one of the breakpoints. -/
def run (e : Emulator) (maxCycles : Int) : Outcome BreakEvent :=
  let r := e.course maxCycles
  match conclusion r maxCycles with
  | .error refusal => { state := r.state, events := r.events, answer := .error refusal }
  | .ok event =>
    { state := r.state.mapBreakpoints (·.record event), events := r.events, answer := .ok event }

theorem answer_run (e : Emulator) (maxCycles : Int) :
    (e.run maxCycles).answer = conclusion (e.course maxCycles) maxCycles := by
  unfold run
  simp only
  split <;> simp [*]

/-- A run that has used up its cycles tells so, unless their number is too long to be written. -/
theorem answer_of_exhausted {e : Emulator} {maxCycles : Int}
    (used : (e.course maxCycles).ending = .ok .exhausted) :
    (e.run maxCycles).answer = (limitEvent maxCycles).mapError Refusal.invalid >>= fun event =>
      .ok { event with cycles := (e.course maxCycles).executed } := by
  simp only [answer_run, conclusion, used, endingEvent, bind, Except.bind, pure, Except.pure]

/-- The answer is the event recorded last. -/
theorem lastEvent_run {e : Emulator} {maxCycles : Int} {event : BreakEvent}
    (answered : (e.run maxCycles).answer = .ok event) :
    (e.run maxCycles).state.breakpoints.lastEvent = some event := by
  rw [answer_run] at answered
  simp only [run, answered]
  rfl

theorem events_run (e : Emulator) (maxCycles : Int) :
    (e.run maxCycles).events = (e.course maxCycles).events := by
  unfold run
  simp only
  split <;> rfl

/-- A run leaves what its course leaves, up to the event that is recorded. -/
theorem state_run (e : Emulator) (maxCycles : Int) :
    (e.run maxCycles).state = (e.course maxCycles).state ∨
      ∃ event, (e.run maxCycles).answer = .ok event ∧
        (e.run maxCycles).state = (e.course maxCycles).state.mapBreakpoints (·.record event) := by
  unfold run
  simp only
  split
  · exact .inl rfl
  · exact .inr ⟨_, rfl, rfl⟩

/-- Runs until a fetch at an address begins, and answers whether the run stopped there. A breakpoint
is set for the run, unless there is one. -/
def runUntilPc (e : Emulator) (address maxCycles : Int) : Outcome Bool :=
  let present := e.breakpoints.addresses.contains address
  let armed := if present then e else e.mapBreakpoints (·.addBreakpoint address)
  let r := armed.run maxCycles
  let state := if present then r.state else r.state.mapBreakpoints (·.removeBreakpoint address)
  let reached := fun event : BreakEvent =>
    event.reason == .breakpoint && event.address == some address
  { state, events := r.events, answer := r.answer.map reached }

/-- Runs until a halt, past every stop, with `remaining` cycles left. Each run of a machine that can
still stop takes at least one cycle, so `fuel` runs suffice when it is at least `remaining`. -/
def untilHalt : (fuel : Nat) → Emulator → (remaining : Int) → Array Event → Outcome Bool
  | 0, e, _, events => { state := e, events, answer := .ok false }
  | fuel + 1, e, remaining, events =>
    if remaining ≤ 0 then
      { state := e, events, answer := .ok false }
    else
      let r := e.run remaining
      let events := events ++ r.events
      match r.answer with
      | .error refusal => { state := r.state, events, answer := .error refusal }
      | .ok event =>
        match event.reason with
        | .halted => { state := r.state, events, answer := .ok true }
        | .fault | .maxCycles => { state := r.state, events, answer := .ok false }
        | _ => untilHalt fuel r.state (remaining - event.cycles) events

/-- Runs at most `maxCycles` cycles until a halt, past every stop, and answers whether it halted. -/
def runUntilHalt (e : Emulator) (maxCycles : Int) : Outcome Bool :=
  untilHalt maxCycles.toNat e maxCycles #[]

/-- Runs until the next instruction fetch begins. The event is not recorded. -/
def stepInstruction (e : Emulator) : Outcome BreakEvent :=
  let r := Clocked.stepInstruction none e
  let event (e : Emulator) : BreakEvent :=
    let base : BreakEvent := { reason := .step, address := e.here, cycles := r.executed }
    if e.processor.fault.isSome then { base with reason := .fault, message := e.faultText }
    else if e.processor.halted then { base with reason := .halted }
    else { base with message := "Step at $" ++ Text.hex 4 e.processor.registers.pc }
  { state := r.state, events := r.events, answer := r.ending.map fun _ => event r.state }

/-! ## Inspection -/

/-- The words of memory from an address on as a listing. -/
def disassembleAt (e : Emulator) (address count : Int) : Except InvalidValue (List String) :=
  (·.map ListingLine.text) <$> e.listing.lines (e.memory.dump address (some count)) address none

/-- The registers that the variant has, with their short names. -/
def namedRegisters (e : Emulator) : List (String × Int) :=
  let r := e.processor.registers
  let shown : List Register := [.acc, .pc, .operand, .flags, .opcode]
  let extra : List Register :=
    if e.settings.config.extended then [.shadow, .timer, .compare] else []
  (shown ++ extra).map fun register => (register.name, r.get register)

/-- One line with the state, the cycles since the last reset and the registers. -/
def summary (e : Emulator) : String :=
  let parts := e.namedRegisters.map fun entry => entry.1 ++ "=$" ++ Text.hex 4 entry.2
  s!"state={e.processor.registers.state.name} cycles={e.processor.cycles} " ++
    " ".intercalate parts

/-- The emulator as it is written down. -/
def repr (e : Emulator) : String :=
  s!"Emulator(width={e.settings.config.width}, variant={e.settings.config.variant.name}, " ++
    "pc=$" ++ Text.hex 4 e.processor.registers.pc ++ s!", cycles={e.processor.cycles})"

end Emulator

end SerialMachine
