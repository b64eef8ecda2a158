import SerialMachine.Breakpoints
import SerialMachine.Clocked
import SerialMachine.Image.File
import SerialMachine.Listing
import SerialMachine.Settings

/-!
# The emulator

A machine with memory, peripherals and breakpoints. The breakpoints are told of every word transfer
and of every instruction fetch, and may stop the run; with tracing on, each fetch is logged as the
instruction in memory.
-/

namespace SerialMachine

/-- An emulated machine under a debugger. -/
structure Emulator where
  settings : Settings
  machine : Machine Bus
  breakpoints : Breakpoints
  /-- A check at a fetch has asked for a stop. -/
  fetchStop : Bool := false
  /-- A check after a word transfer has asked for a stop. -/
  transferStop : Bool := false

namespace Emulator

/-- The bus of a machine with memory and peripherals. -/
def freshBus (settings : Settings) : Bus :=
  let n := settings.config.width
  { width := n
    memory := { width := n, size := settings.memoryWords.getD (Word.window n) }
    peripherals := some { width := n } }

/-- The emulator as it is built, with an empty memory. -/
def make (settings : Settings) : Emulator :=
  { settings
    machine := { processor := { config := settings.config }, bus := freshBus settings }
    breakpoints := { variant := some settings.config.variant } }

/-- The emulator as it is built, unless its memory cannot be had. -/
def build (settings : Settings) : Except InvalidValue Emulator := do
  let _ ← Memory.make settings.config.host settings.config.width settings.memoryWords
  return make settings

theorem eq_make_of_build {settings : Settings} {fresh : Emulator}
    (built : build settings = .ok fresh) : fresh = make settings := by
  unfold build at built
  cases made : Memory.make settings.config.host settings.config.width settings.memoryWords with
  | error cause =>
    rw [made] at built
    cases built
  | ok memory =>
    rw [made] at built
    exact (Except.ok.inj built).symm

/-! ## Parts -/

/-- The processor. -/
def processor (e : Emulator) : Processor := e.machine.processor

/-- The bus. -/
def bus (e : Emulator) : Bus := e.machine.bus

/-- The memory. -/
def memory (e : Emulator) : Memory := e.bus.memory

/-- The peripherals. -/
def peripherals (e : Emulator) : Peripherals :=
  e.bus.peripherals.getD { width := e.settings.config.width }

/-- The emulator with another bus. -/
def withBus (e : Emulator) (bus : Bus) : Emulator :=
  { e with machine := { e.machine with bus } }

/-- The emulator with another memory. -/
def withMemory (e : Emulator) (memory : Memory) : Emulator :=
  e.withBus { e.bus with memory }

/-- The emulator with other peripherals. -/
def withPeripherals (e : Emulator) (p : Peripherals) : Emulator :=
  e.withBus { e.bus with peripherals := some p }

/-- The emulator with its breakpoints changed. -/
def mapBreakpoints (e : Emulator) (f : Breakpoints → Breakpoints) : Emulator :=
  { e with breakpoints := f e.breakpoints }

/-! ## Loading -/

/-- Copies words into the memory. -/
def loadWords (e : Emulator) (words : List Int) (start : Int) : Except InvalidValue Emulator :=
  e.withMemory <$> e.memory.loadWords words start

/-- Copies the words of an image file into the memory. The words read are reported even when the
memory has no room for them. -/
def loadImage (e : Emulator) (name : String) (content : Except FileProblem ByteArray)
    (format : Option ImageFormat) (start : Int) :
    List Event × Except ImageFailure (Nat × Emulator) :=
  match Image.load e.settings.config.host name content e.settings.config.width format with
  | .error failure => ([], .error failure)
  | .ok words =>
    let events := [Image.loadEvent name format words]
    match e.loadWords words start with
    | .ok loaded => (events, .ok (words.length, loaded))
    | .error _ =>
      let flaw := .tooLarge words.length start e.memory.size
      (events, .error (.malformed { flaw, file := some name }))

/-- Queues bytes on the serial line. -/
def feed (e : Emulator) (bytes : List UInt8) : Emulator :=
  e.withPeripherals (e.peripherals.feed bytes)

/-! ## Clock cycles -/

/-- The trace line of a fetch: the word in memory as an instruction, and two registers. -/
def traceText (e : Emulator) (r : Registers) : String :=
  let instruction := Instruction.decode e.settings.config.variant e.settings.config.width
    (e.memory.get r.pc)
  let digits := (e.settings.config.width - 1) / 4
  let operand := "$" ++ Text.hex digits instruction.operand
  "$" ++ Text.hex 4 r.pc ++ "  " ++ Text.padRight 8 instruction.operation.name ++ " " ++
    Text.padRight 8 operand ++ " acc=$" ++ Text.hex 4 r.acc ++ " flags=$" ++ Text.hex 4 r.flags

/-- How the words of the memory are listed. -/
def listing (e : Emulator) : Listing :=
  { variant := e.settings.config.variant, width := e.settings.config.width
    host := e.settings.config.host }

/-- What is logged when a fetch is traced, which is refused where the word cannot be listed. -/
def traceEvents (e : Emulator) (r : Registers) : Except InvalidValue (List Event) :=
  if e.settings.trace then do
    let _ ← e.listing.line (e.memory.get r.pc) r.pc
    return (e.memory.read r.pc).2 ++ [.traced (e.traceText r)]
  else
    return []

/-- The breakpoints are told of a word transfer. -/
def noteTransfer (e : Emulator) : Event → Emulator
  | .wordRead address value =>
    let (breakpoints, goOn) := e.breakpoints.checkRead address value
    { e with breakpoints, transferStop := e.transferStop || !goOn }
  | .wordWritten address value =>
    let (breakpoints, goOn) := e.breakpoints.checkWrite address value
    { e with breakpoints, transferStop := e.transferStop || !goOn }
  | _ => e

/-- The breakpoints are told that a fetch begins. -/
def noteFetch (e : Emulator) (r : Registers) : Emulator × Except Absent Unit :=
  let (breakpoints, answer) := e.breakpoints.checkFetch e.processor r.pc
  match answer with
  | .ok goOn => ({ e with breakpoints, fetchStop := e.fetchStop || !goOn }, .ok ())
  | .error absent => ({ e with breakpoints }, .error absent)

/-- The fetch that a step's events report. -/
def fetchOf? (events : List Event) : Option Registers :=
  events.findSome? fun
    | .fetchStarted r => some r
    | _ => none

/-- One clock cycle with nobody watching fetches; transfers are still watched. -/
def stepUnwatched (e : Emulator) : Step Emulator :=
  let turn := e.machine.step
  { turn with state := turn.events.foldl noteTransfer { e with machine := turn.state } }

/-- One clock cycle. A fetch is traced and checked once the cycle is complete. -/
def step (e : Emulator) : Step Emulator :=
  let turn := e.stepUnwatched
  match fetchOf? turn.events with
  | none => turn
  | some r =>
    match turn.state.traceEvents r with
    | .error cause => { turn with status := .error (.invalid cause) }
    | .ok traced =>
      let events := turn.events ++ traced
      match turn.state.noteFetch r with
      | (state, .ok ()) => { state, events, status := turn.status }
      | (state, .error absent) => { state, events, status := .error (.absent absent) }

instance : Clocked Emulator where
  step := step
  stepUnwatched := stepUnwatched
  processor := processor
  withProcessor e p := { e with machine := { e.machine with processor := p } }
  stopRequested e := e.fetchStop
  clearStop e := { e with fetchStop := false }

/-- Processor and bus as when the power comes on; memory, peripherals and breakpoints stay. -/
def resetProcessor (e : Emulator) : Emulator × List Event :=
  let (machine, events) := e.machine.reset
  ({ e with machine, fetchStop := false, transferStop := false }, events)

/-- The machine as when the power comes on. The memory keeps its words, the breakpoints stay, and a
request for a stop is taken back. -/
def reset (e : Emulator) : Emulator × List Event :=
  let (e, events) := e.resetProcessor
  ((e.withPeripherals e.peripherals.reset).mapBreakpoints .clearBreakRequest, events)

end Emulator

end SerialMachine
