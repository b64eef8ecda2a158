import SerialMachine.Command.Parameter
import SerialMachine.Debugging

/-!
# The simulate command

Runs a program image until it halts, meets a breakpoint or a fault, or has used its cycles. What the
program transmits goes to the first stream; the log, the reason of the stop and the registers go to
the second.
-/

namespace SerialMachine.Command

/-- The arguments of the simulate command. -/
structure SimulateArguments where
  /-- The image file as it is named. -/
  name : String
  /-- The content of the file; none when there is no such file. -/
  content : Option ByteArray
  format : String := "auto"
  width : Int := 16
  variant : String := "base"
  jumpzNonzero : Bool := false
  maxCycles : Int := 10000000
  /-- Text queued on the serial line. -/
  input : String := ""
  /-- The breakpoint addresses as they are given. -/
  breaks : List String := []
  trace : Bool := false
  verbose : Bool := false
  host : Host := default

namespace SimulateArguments

/-- What is logged, and how. -/
def logStyle (a : SimulateArguments) : LogStyle :=
  { level := if a.trace then .debug else if a.verbose then .info else .warning
    headed := a.verbose }

end SimulateArguments

/-- The emulator with a breakpoint at each address. -/
def addBreaks (e : Emulator) : List String → Except ParameterError Emulator
  | [] => .ok e
  | text :: rest => do
    let address ← parseNumber text
    addBreaks (e.mapBreakpoints (·.addBreakpoint address)) rest

/-- The emulator with the breakpoints set and the input queued. -/
def prepare (a : SimulateArguments) (e : Emulator) : Except Failure Emulator := do
  let e ← (addBreaks e a.breaks).mapError ParameterError.failure
  if a.input == "" then return e
  let bytes ← (oneByteText a.input).mapError ParameterError.failure
  return e.feed bytes

/-- What the program transmitted, with a line end after it. -/
def transmittedText (e : Emulator) : String :=
  let text := textOfBytes e.peripherals.output
  if text == "" || text.endsWith "\n" then text else text ++ "\n"

/-- The report of a run of an emulator that is ready. -/
def runReport (a : SimulateArguments) (r : Report) (e : Emulator) : Report :=
  let outcome := e.run a.maxCycles
  let r := r.log a.logStyle outcome.events.toList
  match outcome.answer with
  | .error refusal => r.fail (some "Image") (refusalFailure refusal)
  | .ok event =>
    let r := r.print (transmittedText outcome.state)
    if event.reason == .fault then
      r.fail (some "Image") { errorClass := .fault, message := outcome.state.faultText }
    else
      (r.say ("Stopped: " ++ event.text?.getD "")).say outcome.state.summary

/-- The report of a run on an emulator that still lacks the program. -/
def loadAndRun (a : SimulateArguments) (content : ByteArray) (format : Option ImageFormat)
    (e : Emulator) : Report :=
  let name := PathName.normal a.name
  let (events, loaded) := e.loadImage name (.ok content) format 0
  let r := Report.log {} a.logStyle events
  match loaded with
  | .error failure => r.fail (some "Image") (imageFailure name failure)
  | .ok (count, e) =>
    let (e, events) := e.reset
    let r := r.log a.logStyle events
    match prepare a e with
    | .error failure => r.fail (some "Image") failure
    | .ok e =>
      runReport a (if a.verbose then r.say s!"Loaded {count} words from {name}" else r) e

/-- The report of a run with arguments that make a request. -/
def simulateWith (a : SimulateArguments) (content : ByteArray) (format : Option ImageFormat)
    (config : Config) : Report :=
  match Emulator.build { config, trace := a.trace } with
  | .error failure => Report.fail {} (some "Image") (valueFailure failure)
  | .ok e => loadAndRun a content format e

/-- The simulate command. -/
def simulate (a : SimulateArguments) : Result :=
  match chooseFormat? a.format, chooseVariant? a.variant with
  | some format, some variant =>
    match Config.make a.host a.width variant a.jumpzNonzero with
    | .error _ => .usage
    | .ok config =>
      if a.maxCycles < 1 then .usage
      else withFile a.name a.content fun content => simulateWith a content format config
  | _, _ => .usage

end SerialMachine.Command
