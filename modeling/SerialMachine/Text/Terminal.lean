/-!
# Terminal sequences

The sequences by which a text steers a terminal: escape and `[`, then parameters, then a letter. The
plain form of a text lacks them. It may hold sequences of its own, when what stood around a sequence
makes one.
-/

namespace SerialMachine.Text

/-- The characters of parameters. -/
def isParameter (c : Char) : Bool :=
  c == ';' || c == '?' || c.isDigit

/-- The number of characters in the terminal sequence that a text begins with; zero when it begins
with none. -/
def sequenceLength : List Char → Nat
  | '\x1b' :: '[' :: rest =>
    match rest.dropWhile isParameter with
    | c :: _ => if c.isAlpha then (rest.takeWhile isParameter).length + 3 else 0
    | [] => 0
  | _ => 0

/-- A text without its terminal sequences, after the first `skipped` characters of it. -/
def plainAfter : (skipped : Nat) → List Char → List Char
  | _, [] => []
  | skipped + 1, _ :: rest => plainAfter skipped rest
  | 0, c :: rest =>
    match sequenceLength (c :: rest) with
    | 0 => c :: plainAfter 0 rest
    | more + 1 => plainAfter more rest

/-- A text without its terminal sequences. -/
def plain (text : List Char) : List Char :=
  plainAfter 0 text

/-- A string without its terminal sequences. -/
def plainString (text : String) : String :=
  String.ofList (plain text.toList)

example : plain "\x1b[1;31mred\x1b[0m".toList = "red".toList := by decide +kernel
example : plain "\x1b[\x1b[mA\x1b[1 m".toList = "\x1b[A\x1b[1 m".toList := by decide +kernel

end SerialMachine.Text
