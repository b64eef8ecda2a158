import SerialMachine.Command.Parameter
import SerialMachine.Listing

/-!
# The disassemble command

Lists a program image as instructions, from an address on, to the first stream or to a file.
-/

namespace SerialMachine.Command

/-- The arguments of the disassemble command. -/
structure DisassembleArguments where
  /-- The image file as it is named. -/
  name : String
  /-- The content of the file; none when there is no such file. -/
  content : Option ByteArray
  format : String := "auto"
  width : Int := 16
  variant : String := "base"
  /-- The first address as it is given. -/
  address : String := "0"
  count : Option Int := none
  /-- The file for the listing. -/
  output : Option String := none
  /-- Why that file cannot be written; none when it can. -/
  outputProblem : Option FileProblem := none
  verbose : Bool := false
  host : Host := default

/-- The words of the image and the first address to list, which must be one of theirs. -/
def loadListed (a : DisassembleArguments) (content : ByteArray) (format : Option ImageFormat) :
    Except Failure (List Int × Nat) := do
  let start ← (parseNumber a.address).mapError ParameterError.failure
  let words ←
    (Image.load a.host a.name (.ok content) a.width format).mapError (imageFailure a.name)
  if 0 ≤ start ∧ start < max words.length 1 then return (words, start.toNat)
  else throw (ParameterError.addressOutside start words.length).failure

/-- The text of a listing with its heading. -/
def listingText (a : DisassembleArguments) (variant : Variant) (size : Nat)
    (lines : List ListingLine) : String :=
  let heading :=
    ["; Disassembly of " ++ PathName.fileName a.name,
      s!"; Size: {size} words, {a.width}-bit {variant.name} variant", ""]
  "\n".intercalate (heading ++ lines.map ListingLine.text) ++ "\n"

/-- The report with one more line, when such lines are asked for. -/
def note (a : DisassembleArguments) (r : Report) (line : String) : Report :=
  if a.verbose then r.say line else r

/-- The report with the listing where it is asked for, unless it cannot be written there. -/
def deliverListing (a : DisassembleArguments) (r : Report) (text : String) :
    Except Failure Report :=
  match a.output, a.outputProblem with
  | none, _ => .ok (r.print text)
  | some output, some problem => .error (fileFailure output problem)
  | some output, none =>
    .ok (note a { r with file := some text } s!"Output written to: {PathName.normal output}")

/-- The report with the listing and, when asked for, a note on its length. -/
def listingReport (a : DisassembleArguments) (r : Report) (variant : Variant) (size : Nat)
    (lines : List ListingLine) : Report :=
  match deliverListing a r (listingText a variant size lines) with
  | .error failure => r.fail (some "Image") failure
  | .ok r => note a r s!"Instructions disassembled: {lines.length}"

/-- The report of a listing with arguments that make a request. -/
def disassembleWith (a : DisassembleArguments) (content : ByteArray)
    (format : Option ImageFormat) (variant : Variant) : Report :=
  match loadListed a content format with
  | .error failure => Report.fail {} (some "Image") failure
  | .ok (words, start) =>
    let r := note a {} s!"Input file: {PathName.normal a.name} ({words.length} words)"
    let listing : Listing := { variant, width := a.width, host := a.host }
    match listing.lines (words.drop start) start a.count with
    | .error cause => r.fail (some "Image") (valueFailure cause)
    | .ok lines => listingReport a r variant words.length lines

/-- Whether a path, looked up as it is written, is that of a folder. -/
def isFolderOutput (output : String) : Bool :=
  output != "" && !PathName.isLong output && PathName.leadsUp output

/-- The disassemble command. -/
def disassemble (a : DisassembleArguments) : Result :=
  match chooseFormat? a.format, chooseVariant? a.variant with
  | some format, some variant =>
    if a.width < 8 then .usage
    else if a.output.any PathName.endsEarly then brokenOff
    else if a.output.any isFolderOutput then .usage
    else withFile a.name a.content fun content => disassembleWith a content format variant
  | _, _ => .usage

end SerialMachine.Command
