import SerialMachine.InvalidValue
import SerialMachine.Registers

/-!
# Events

What a machine reports while it runs. Operations return their events in order; observers and the log
are functions of them. Each event has a level of importance and, when it is to be logged, a text.
-/

namespace SerialMachine

/-- How important a log line is. -/
inductive Level
  | debug | info | warning | error
  deriving DecidableEq, Repr, Inhabited

namespace Level

/-- The name of a level. -/
def name : Level → String
  | debug => "DEBUG"
  | info => "INFO"
  | warning => "WARNING"
  | error => "ERROR"

/-- The place of a level in the order of importance. -/
def rank : Level → Nat
  | debug => 0
  | info => 1
  | warning => 2
  | error => 3

/-- The level with a name. -/
def ofName? (text : String) : Option Level :=
  [debug, info, warning, error].find? (·.name == text)

end Level

/-- Something that happened in a machine. -/
inductive Event
  /-- The serial bus has delivered a whole word. -/
  | wordRead (address value : Int)
  /-- The serial bus has taken a whole word. -/
  | wordWritten (address value : Int)
  | unmappedMemoryRead (address : Int)
  | unmappedMemoryWrite (address : Int)
  | unmappedSpaceRead (address : Int)
  | unmappedSpaceWrite (address : Int)
  | unmappedPeripheralRead (offset : Int)
  | unmappedPeripheralWrite (offset : Int)
  | switchWrite
  /-- A byte was transmitted. -/
  | transmitted (byte : UInt8)
  /-- The machine was reset. -/
  | reset (width : Nat) (variant : Variant)
  /-- A fetch of an instruction begins, with these registers. -/
  | fetchStarted (registers : Registers)
  /-- A fetch begins that serves an interrupt. -/
  | dispatchStarted (pc : Int)
  /-- The machine came to a halt. -/
  | halted (pc : Int) (cycles : Nat)
  /-- The processor met a fault. -/
  | faulted (text : String)
  /-- An instruction is about to be fetched, as a trace shows it. -/
  | traced (text : String)
  /-- A program image was read. -/
  | imageLoaded (count : Nat) (name format : String)
  deriving DecidableEq, Repr

namespace Event

/-- The level and the text under which an event is logged. -/
def log? : Event → Option (Level × String)
  | wordRead address value =>
    some (.debug, s!"bus read ${Text.hex 4 value} from ${Text.hex 4 address}")
  | wordWritten address value =>
    some (.debug, s!"bus write ${Text.hex 4 value} to ${Text.hex 4 address}")
  | unmappedMemoryRead address =>
    some (.warning, s!"Read from unmapped memory address ${Text.hex 4 address}")
  | unmappedMemoryWrite address =>
    some (.warning, s!"Write to unmapped memory address ${Text.hex 4 address} dropped")
  | unmappedSpaceRead address =>
    some (.warning, s!"Read from unmapped I/O address ${Text.hex 4 address}")
  | unmappedSpaceWrite address =>
    some (.warning, s!"Write to unmapped I/O address ${Text.hex 4 address}")
  | unmappedPeripheralRead offset => some (.warning, s!"Read from unmapped I/O register {offset}")
  | unmappedPeripheralWrite offset => some (.warning, s!"Write to unmapped I/O register {offset}")
  | switchWrite => some (.warning, "Write to read-only switch register ignored")
  | transmitted byte => some (.debug, s!"UART out ${Text.hex 2 byte.toNat}")
  | reset width variant => some (.info, s!"CPU reset ({width}-bit {variant.name} variant)")
  | fetchStarted _ => none
  | dispatchStarted pc => some (.debug, s!"Interrupt dispatch at pc=${Text.hex 4 pc}")
  | halted pc cycles => some (.info, s!"CPU halted at pc=${Text.hex 4 pc} after {cycles} cycles")
  | faulted text => some (.error, s!"Simulation fault: {text}")
  | traced text => some (.debug, text)
  | imageLoaded count name format => some (.info, s!"Loaded {count} words from {name} ({format})")

/-- The texts of the events that are logged at a level or above, each with its level. -/
def logged (least : Level) (events : List Event) : List (Level × String) :=
  (events.filterMap log?).filter fun entry => least.rank ≤ entry.1.rank

/-- The log lines of events at a level or above, each headed by the name of its level. -/
def logLines (least : Level) (events : List Event) : List String :=
  (logged least events).map fun entry => entry.1.name ++ ": " ++ entry.2

/-- Why an event cannot be logged; none when it can. -/
def logProblem? : Event → Option InvalidValue
  | unmappedPeripheralRead offset | unmappedPeripheralWrite offset =>
    if (Text.writeDecimal? offset).isSome then none else some .longNumeral
  | _ => none

/-- Why the log of events at a level or above breaks off; none when it is complete. -/
def logBreak? (least : Level) (events : List Event) : Option InvalidValue :=
  (events.filter fun event => !(logged least [event]).isEmpty).findSome? logProblem?

/-- The events before the first one that cannot be logged. -/
def loggable (events : List Event) : List Event :=
  events.takeWhile fun event => event.logProblem?.isNone

end Event

end SerialMachine
