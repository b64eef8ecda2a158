/-!
# Lines of a text

Two rules for line ends. A text file keeps only `\n`: the pair `\r\n` and a lone `\r` are turned
into it when the file is read. A text in memory is cut at every character that ends a line in any
script, the pair `\r\n` counting once; a last line without an end counts when it is not empty.
-/

namespace SerialMachine.Text

/-- The characters that end a line. -/
def isLineEnd (c : Char) : Bool :=
  let n := c.toNat
  (0x0A ≤ n && n ≤ 0x0D) || (0x1C ≤ n && n ≤ 0x1E) || n == 0x85 || n == 0x2028 || n == 0x2029

/-- The lines of a text, without their ends. -/
def lines : List Char → List (List Char)
  | [] => []
  | '\r' :: '\n' :: rest => [] :: lines rest
  | c :: rest =>
    if isLineEnd c then
      [] :: lines rest
    else
      match lines rest with
      | [] => [[c]]
      | line :: more => (c :: line) :: more

/-- The text with `\r\n` and `\r` read as `\n`. -/
def unifyLineEnds : List Char → List Char
  | [] => []
  | '\r' :: '\n' :: rest => '\n' :: unifyLineEnds rest
  | '\r' :: rest => '\n' :: unifyLineEnds rest
  | c :: rest => c :: unifyLineEnds rest

example : lines "1\r\n2\n\n3".toList = ["1".toList, "2".toList, [], "3".toList] := by
  decide +kernel
example : lines "\n".toList = [[]] := by decide +kernel

end SerialMachine.Text
