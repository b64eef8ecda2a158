import SerialMachine.AnyWidth
import SerialMachine.Image.Error
import SerialMachine.Text.Lines
import SerialMachine.Text.Numeral

/-!
# Hexadecimal images

One word a line. A line ends where a comment begins, at its first `#` or `;`; lines with nothing but
blanks are passed over.
-/

namespace SerialMachine.Image.Hexadecimal

/-- Whether a character begins a comment. -/
def beginsComment (c : Char) : Bool :=
  c == '#' || c == ';'

/-- What a line holds beside its comment and the blanks around it. -/
def content (line : List Char) : List Char :=
  Text.trim (line.takeWhile fun c => !beginsComment c)

/-- The word of a line; none when the line is passed over. -/
def word? (n : Nat) (line : List Char) : Except ImageFlaw (Option Int) :=
  match content line with
  | [] => .ok none
  | numeral =>
    match Text.readHexadecimal? numeral with
    | none => .error (.notNumeral (String.ofList numeral))
    | some word =>
      if word < 0 ∨ Word.mask n < word then .error (.wideWord word n) else .ok (some word)

/-- The words of lines, the first of which has the given number, up to the first flaw. -/
def words (n : Nat) (file : Option String) :
    (number : Nat) → List (List Char) → Except ImageError (List Int)
  | _, [] => .ok []
  | number, line :: rest =>
    match word? n line with
    | .error flaw => .error { flaw, file, line := some (number : Int) }
    | .ok none => words n file (number + 1) rest
    | .ok (some word) => (word :: ·) <$> words n file (number + 1) rest

/-- The words of an image. -/
def parse (host : Host) (width : Int) (file : Option String) (text : String) :
    Except ImageFailure (List Int) := do
  let n ← (AnyWidth.roomy host 0 width).mapError ImageFailure.width
  (words n file 1 (Text.lines text.toList)).mapError ImageFailure.malformed

/-- The number of digits that a word is written with. -/
def digits (width : Nat) : Nat :=
  (width + 3) / 4

/-- The image of words, each cut to the width. -/
def format (host : Host) (width : Int) (words : List Int) : Except InvalidValue String := do
  let n ← AnyWidth.roomy host 0 width
  return String.ofList
    (words.flatMap fun word => Text.hexChars (digits n) (Bits.keep n word) ++ ['\n'])

end SerialMachine.Image.Hexadecimal
