import SerialMachine.Folder
import SerialMachine.InvalidValue

/-!
# Errors in program images

The causes for which an image is rejected, with the file and the line where they are known.
-/

namespace SerialMachine

/-- Why a program image is rejected. -/
inductive ImageFlaw
  /-- The file does not hold a whole number of words. -/
  | partialWord (length : Nat) (wordBytes : Int)
  /-- A word of a binary image is too wide. -/
  | wideBinaryWord (word : Int) (offset : Nat) (width : Int)
  /-- A line of a text image is no numeral. -/
  | notNumeral (text : String)
  /-- A word of a text image is too wide, or negative. -/
  | wideWord (word : Int) (width : Int)
  /-- The memory has no room for the words. -/
  | tooLarge (count : Nat) (start size : Int)
  /-- A flaw found elsewhere, with its own text. -/
  | reported (text : String)
  deriving DecidableEq, Repr

/-- The text that reports a flaw. -/
def ImageFlaw.message : ImageFlaw → String
  | partialWord length wordBytes =>
    s!"image length {length} is not a multiple of the {wordBytes}-byte word size"
  | wideBinaryWord word offset width =>
    s!"word ${Text.hex 0 word} at offset {offset} exceeds {width} bits"
  | notNumeral text => s!"invalid hex word '{text}'"
  | wideWord word width => s!"word ${Text.hex 0 word} exceeds {width} bits"
  | tooLarge count start size => (InvalidValue.wordsDoNotFit count start size).message
  | reported text => text

/-- A flaw and where it is. -/
structure ImageError where
  flaw : ImageFlaw
  /-- The file, when it has a name. -/
  file : Option String := none
  /-- The number of the line, from one. -/
  line : Option Int := none
  deriving DecidableEq, Repr

/-- The text of an error; a line is shown only after the name of its file. -/
def ImageError.text (e : ImageError) : String :=
  match e.file with
  | none | some "" => e.flaw.message
  | some file =>
    match e.line with
    | some line => s!"{file}:{line}: " ++ e.flaw.message
    | none => file ++ ": " ++ e.flaw.message

/-- Why reading or writing an image comes to nothing. -/
inductive ImageFailure
  /-- The content is rejected. -/
  | malformed (error : ImageError)
  /-- The width cannot be used. -/
  | width (cause : InvalidValue)
  /-- A word of no bytes divides nothing. -/
  | emptyWord
  /-- The path leads to no file. -/
  | file (problem : FileProblem)
  /-- The file does not hold UTF-8 text. -/
  | undecodable
  deriving DecidableEq, Repr

end SerialMachine
