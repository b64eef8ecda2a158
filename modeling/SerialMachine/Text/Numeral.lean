import SerialMachine.Text.Blank
import SerialMachine.Text.Digit

/-!
# Numerals

The text of an integer in base ten or sixteen: blanks around it, at most one sign, in base sixteen
an optional `0x`, then digits. A single underscore may stand between two digits, and between `0x`
and the first digit. Decimal digits of any script count. Decimal numerals are bounded in length,
both read and written.
-/

namespace SerialMachine.Text

/-- The blanks allowed around a numeral: white space other than the four separator controls. -/
def isNumeralBlank (c : Char) : Bool :=
  isBlank c && !(0x1C ≤ c.toNat && c.toNat ≤ 0x1F)

/-- The value of a digit in the given base. -/
def digitValue? (base : Nat) (c : Char) : Option Nat :=
  let value? :=
    if 'a' ≤ c ∧ c ≤ 'f' then some (c.toNat - 'a'.toNat + 10)
    else if 'A' ≤ c ∧ c ≤ 'F' then some (c.toNat - 'A'.toNat + 10)
    else decimalValue? c
  value?.filter (· < base)

/-- The values of digits that may be set apart by single underscores; at least one digit. -/
def digitValues? (base : Nat) : List Char → Option (List Nat)
  | [] => none
  | [c] => (digitValue? base c).map ([·])
  | c :: '_' :: rest => do return (← digitValue? base c) :: (← digitValues? base rest)
  | c :: rest => do return (← digitValue? base c) :: (← digitValues? base rest)

/-- The number spelled by digits, the most significant first. -/
def valueOfDigits (base : Nat) (digits : List Nat) : Nat :=
  digits.foldl (fun value d => base * value + d) 0

/-- The most digits that a decimal numeral may have. -/
def decimalDigitLimit : Nat := 4300

/-- A text without the sign in front of it, and whether the sign is a minus. -/
def splitSign : List Char → Bool × List Char
  | '-' :: rest => (true, rest)
  | '+' :: rest => (false, rest)
  | text => (false, text)

/-- A text without the base mark `0x` in front of it and one underscore after the mark. -/
def dropHexMark : List Char → List Char
  | zero :: x :: rest =>
    if decimalValue? zero == some 0 && (x == 'x' || x == 'X') then
      match rest with
      | '_' :: digits => digits
      | digits => digits
    else
      zero :: x :: rest
  | text => text

/-- The integer that a decimal numeral denotes. -/
def readDecimal? (text : List Char) : Option Int := do
  let (negative, body) := splitSign (trimBy isNumeralBlank text)
  let digits ← digitValues? 10 body
  if digits.length > decimalDigitLimit then none
  let value : Int := valueOfDigits 10 digits
  return if negative then -value else value

/-- The integer that a hexadecimal numeral denotes. -/
def readHexadecimal? (text : List Char) : Option Int := do
  let (negative, body) := splitSign (trimBy isNumeralBlank text)
  let digits ← digitValues? 16 (dropHexMark body)
  let value : Int := valueOfDigits 16 digits
  return if negative then -value else value

/-- The decimal numeral of an integer; none when it would have too many digits. -/
def writeDecimal? (value : Int) : Option String :=
  if Nat.pow 10 decimalDigitLimit ≤ value.natAbs then none else some (toString value)

example : readHexadecimal? " -0x_1F\n".toList = some (-31) := by decide +kernel
example : readHexadecimal? "1__0".toList = none := by decide +kernel
example : readDecimal? "1_000".toList = some 1000 := by decide +kernel
example : readDecimal? "_1".toList = none := by decide +kernel

end SerialMachine.Text
