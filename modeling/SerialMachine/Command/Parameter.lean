import SerialMachine.Command.Report
import SerialMachine.Image.File
import SerialMachine.Refusal
import SerialMachine.Text.Numeral

/-!
# Parameters of the commands

Numbers, choices and one-byte texts as they are given on a command line.
-/

namespace SerialMachine.Command

/-- Why a parameter is refused. -/
inductive ParameterError
  | notNumber (text : String)
  /-- The first address is not one of the image's. -/
  | addressOutside (address : Int) (count : Nat)
  /-- The text has a character outside the one-byte character set. -/
  | notOneByte
  deriving DecidableEq, Repr

/-- What is reported of text that its character set cannot spell. -/
def characterSetMessage : String :=
  "<codec>"

/-- The text that reports the cause. -/
def ParameterError.message : ParameterError → String
  | notNumber text => s!"Invalid number '{text}'"
  | addressOutside address count =>
    s!"Address ${Text.hex 4 address} is outside the {count}-word image"
  | notOneByte => characterSetMessage

/-- The failure that a refused parameter ends a command with. -/
def ParameterError.failure (e : ParameterError) : Failure :=
  { errorClass := .value, message := e.message }

/-- The failure that an unusable value ends a command with. -/
def valueFailure (cause : InvalidValue) : Failure :=
  { errorClass := if cause.overtaxesHost then .internal else .value, message := cause.message }

/-- The failure that a request left without an answer ends a command with. -/
def refusalFailure : Refusal → Failure
  | .absent absent => { errorClass := .internal, message := absent.key }
  | .invalid cause => valueFailure cause

/-- The failure that a path without a file ends a command with. -/
def fileFailure (path : String) (problem : FileProblem) : Failure :=
  { errorClass :=
      match problem with
      | .missing => .file
      | .endedName => .value
      | .folder | .behindFile | .longName => .internal
    message := problem.message path }

/-- The failure that an image that cannot be read ends a command with. -/
def imageFailure (path : String) : ImageFailure → Failure
  | .malformed error => { errorClass := .image, message := error.text }
  | .width cause => valueFailure cause
  | .emptyWord => { errorClass := .internal, message := "integer modulo by zero" }
  | .file problem => fileFailure path problem
  | .undecodable => { errorClass := .value, message := characterSetMessage }

/-- The outcome of arguments with a path that cannot be looked up: the command breaks off without a
word. -/
def brokenOff : Result :=
  .report { exit := 1 }

/-- The outcome of a request about the file that an argument must name. The path is looked up as it
is written. -/
def withFile (path : String) (content : Option ByteArray) (report : ByteArray → Report) : Result :=
  if PathName.endsEarly path then brokenOff
  else
    match content with
    | none => .usage
    | some content =>
      if PathName.isLong path || PathName.namesFolder path then .usage
      else .report (report content)

/-- A number: hexadecimal after `0x` or `$`, else decimal. Blanks may stand after it, and before the
digits of a decimal number or of one that begins with `$`. -/
def parseNumber (text : String) : Except ParameterError Int :=
  let value? :=
    match text.toList with
    | '$' :: rest => Text.readHexadecimal? rest
    | '0' :: 'x' :: _ | '0' :: 'X' :: _ => Text.readHexadecimal? text.toList
    | chars => Text.readDecimal? chars
  match value? with
  | some value => .ok value
  | none => .error (.notNumber text)

/-- A character of a choice, in small letters; the long s is an s. -/
def foldChar (c : Char) : Char :=
  if c.toNat == 0x17F then 's' else c.toLower

/-- The one of the choices that a text means, in any letter case. -/
def choose? (choices : List String) (text : String) : Option String :=
  let wanted := String.ofList (text.toList.map foldChar)
  choices.find? (· == wanted)

/-- The format that a choice means; `none` inside leaves it to the file's name. -/
def chooseFormat? (text : String) : Option (Option ImageFormat) :=
  match choose? ["auto", "bin", "hex"] text with
  | some "auto" => some none
  | some name => (ImageFormat.ofName? name).map some
  | none => none

/-- The variant that a choice means. -/
def chooseVariant? (text : String) : Option Variant :=
  (choose? (Variant.all.map (·.name)) text).bind fun name =>
    Variant.all.find? (·.name == name)

/-- The bytes of a text in the one-byte character set. -/
def oneByteText (text : String) : Except ParameterError (List UInt8) :=
  if text.toList.all fun c => c.toNat < 256 then
    .ok (text.toList.map fun c => UInt8.ofNat c.toNat)
  else
    .error .notOneByte

/-- The text that bytes spell in the one-byte character set. -/
def textOfBytes (bytes : Array UInt8) : String :=
  String.ofList (bytes.toList.map fun b => Char.ofNat b.toNat)

end SerialMachine.Command
