import SerialMachine.Command.Disassemble
import SerialMachine.Command.Simulate

/-!
# Command lines

The words of a command line as a request. The first word names the command: `run` simulates an
image, `list` disassembles one. Options may stand before and after the file; those with a value take
the next word.
-/

namespace SerialMachine.Command

/-- A request, which still lacks the content of its image file. -/
inductive Request
  | run (arguments : SimulateArguments)
  | list (arguments : DisassembleArguments)

/-- Reads the words after `run`. -/
def parseRun (a : SimulateArguments) : List String → Option SimulateArguments
  | [] => if a.name == "" then none else some a
  | "--jumpz-nonzero" :: rest => parseRun { a with jumpzNonzero := true } rest
  | "--trace" :: rest => parseRun { a with trace := true } rest
  | "-v" :: rest | "--verbose" :: rest => parseRun { a with verbose := true } rest
  | "-f" :: value :: rest | "--format" :: value :: rest => parseRun { a with format := value } rest
  | "--variant" :: value :: rest => parseRun { a with variant := value } rest
  | "-i" :: value :: rest | "--input" :: value :: rest => parseRun { a with input := value } rest
  | "-b" :: value :: rest | "--break" :: value :: rest =>
    parseRun { a with breaks := a.breaks ++ [value] } rest
  | "-w" :: value :: rest | "--width" :: value :: rest => do
    parseRun { a with width := ← Text.readDecimal? value.toList } rest
  | "-m" :: value :: rest | "--max-cycles" :: value :: rest => do
    parseRun { a with maxCycles := ← Text.readDecimal? value.toList } rest
  | name :: rest =>
    if a.name != "" || name.startsWith "-" then none else parseRun { a with name } rest

/-- Reads the words after `list`. -/
def parseList (a : DisassembleArguments) : List String → Option DisassembleArguments
  | [] => if a.name == "" then none else some a
  | "-v" :: rest | "--verbose" :: rest => parseList { a with verbose := true } rest
  | "-f" :: value :: rest | "--format" :: value :: rest => parseList { a with format := value } rest
  | "--variant" :: value :: rest => parseList { a with variant := value } rest
  | "-a" :: value :: rest | "--address" :: value :: rest =>
    parseList { a with address := value } rest
  | "-o" :: value :: rest | "--output" :: value :: rest =>
    parseList { a with output := some value } rest
  | "-w" :: value :: rest | "--width" :: value :: rest => do
    parseList { a with width := ← Text.readDecimal? value.toList } rest
  | "-c" :: value :: rest | "--count" :: value :: rest => do
    parseList { a with count := some (← Text.readDecimal? value.toList) } rest
  | name :: rest =>
    if a.name != "" || name.startsWith "-" then none else parseList { a with name } rest

namespace Request

/-- The request that a command line makes. -/
def ofWords? : List String → Option Request
  | "run" :: rest => run <$> parseRun { name := "", content := none } rest
  | "list" :: rest => list <$> parseList { name := "", content := none } rest
  | _ => none

/-- The image file of a request. -/
def fileName : Request → String
  | run a => a.name
  | list a => a.name

/-- The output file of a request. -/
def outputName? : Request → Option String
  | run _ => none
  | list a => a.output

/-- The outcome of a request, with the content of its image file. -/
def answer (content : Option ByteArray) : Request → Result
  | run a => simulate { a with content }
  | list a => disassemble { a with content }

end Request

end SerialMachine.Command
