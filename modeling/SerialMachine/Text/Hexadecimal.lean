/-!
# Hexadecimal text

Upper-case digits, zero padded. The padding counts the sign: `-1` padded to four places is `-001`.
Numbers that need more places are written in full.
-/

namespace SerialMachine.Text

/-- The hexadecimal digits of a natural number, the most significant first. -/
def hexDigits (n : Nat) : List Char :=
  (Nat.toDigits 16 n).map Char.toUpper

/-- The hexadecimal text of `x`, filled up with zeros to `places` characters. -/
def hexChars (places : Nat) (x : Int) : List Char :=
  let sign := if x < 0 then ['-'] else []
  let digits := hexDigits x.natAbs
  sign ++ List.replicate (places - sign.length - digits.length) '0' ++ digits

/-- The hexadecimal text of `x`, filled up with zeros to `places` characters. -/
def hex (places : Nat) (x : Int) : String :=
  String.ofList (hexChars places x)

/-- The decimal text of an integer. -/
def decimal (x : Int) : String :=
  (if x < 0 then "-" else "") ++ String.ofList (Nat.toDigits 10 x.natAbs)

/-- A truth value as messages spell it. -/
def truth (b : Bool) : String :=
  if b then "True" else "False"

/-- `text` filled up with blanks on the right to `places` characters. -/
def padRight (places : Nat) (text : String) : String :=
  text ++ String.ofList (List.replicate (places - text.length) ' ')

example : hex 4 (-1) = "-001" := by decide +kernel
example : hex 4 0x12345 = "12345" := by decide +kernel
example : hex 0 0 = "0" := by decide +kernel

end SerialMachine.Text
