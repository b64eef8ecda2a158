/-!
# Blank characters

The white space that surrounds words and numbers, and its removal from both ends of a text.
-/

namespace SerialMachine.Text

/-- White space: the blanks and line ends of every script, and the four separator controls. -/
def isBlank (c : Char) : Bool :=
  let n := c.toNat
  (0x09 ≤ n && n ≤ 0x0D) || (0x1C ≤ n && n ≤ 0x20) || n == 0x85 || n == 0xA0 || n == 0x1680 ||
    (0x2000 ≤ n && n ≤ 0x200A) || n == 0x2028 || n == 0x2029 || n == 0x202F || n == 0x205F ||
    n == 0x3000

/-- `text` without the characters of a class at either end. -/
def trimBy (drop : Char → Bool) (text : List Char) : List Char :=
  (((text.dropWhile drop).reverse).dropWhile drop).reverse

/-- `text` without the white space at either end. -/
def trim (text : List Char) : List Char :=
  trimBy isBlank text

end SerialMachine.Text
