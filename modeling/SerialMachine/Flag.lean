import SerialMachine.Bits
import SerialMachine.Variant

/-!
# The flags register

Each variant gives its flags fixed bits of the flags register. A flag that a variant lacks reads as
clear and cannot be set.
-/

namespace SerialMachine

/-- A flag of one of the variants. -/
inductive Flag
  /-- Carry out of the last addition. -/
  | carry
  /-- Borrow out of the last subtraction. -/
  | borrow
  /-- The accumulator was zero at the last fetch. -/
  | zero
  /-- The top bit of the accumulator at the last fetch. -/
  | negative
  /-- The parity of the accumulator at the last fetch. -/
  | parity
  /-- Shifts rotate instead of filling with zero. -/
  | rotate
  /-- Reset at the next fetch. -/
  | reset
  /-- Operands of the low eight opcodes are addresses of the operands. -/
  | indirect
  /-- Interrupts are enabled. -/
  | interruptEnable
  /-- A match of timer and compare register requests an interrupt. -/
  | timerEnable
  /-- Halt at the next fetch. -/
  | halt
  deriving DecidableEq, Repr, Inhabited

namespace Flag

/-- The short name of a flag. -/
def name : Flag → String
  | carry => "CY"
  | borrow => "U"
  | zero => "Z"
  | negative => "NG"
  | parity => "PAR"
  | rotate => "ROT"
  | reset => "R"
  | indirect => "IND"
  | interruptEnable => "IE"
  | timerEnable => "TE"
  | halt => "HLT"

/-- The flags of a variant, bit `0` first. -/
def layout : Variant → List Flag
  | .base => [carry, zero, negative, parity, rotate, reset, indirect, halt]
  | .extended =>
    [carry, borrow, zero, negative, parity, rotate, reset, interruptEnable, timerEnable, halt]

/-- The bit of a flag; none when the variant lacks it. -/
def bit? : Variant → Flag → Option Nat
  | _, carry => some 0
  | .base, zero => some 1
  | .base, negative => some 2
  | .base, parity => some 3
  | .base, rotate => some 4
  | .base, reset => some 5
  | .base, indirect => some 6
  | .base, halt => some 7
  | .extended, borrow => some 1
  | .extended, zero => some 2
  | .extended, negative => some 3
  | .extended, parity => some 4
  | .extended, rotate => some 5
  | .extended, reset => some 6
  | .extended, interruptEnable => some 7
  | .extended, timerEnable => some 8
  | .extended, halt => some 9
  | _, _ => none

/-- The number that has only the flag's bit; zero when the variant lacks it. -/
def mask (variant : Variant) (flag : Flag) : Nat :=
  match bit? variant flag with
  | some k => 1 <<< k
  | none => 0

/-- Whether a flag is set in a flags register. -/
def isSet (variant : Variant) (flag : Flag) (flags : Int) : Bool :=
  match bit? variant flag with
  | some k => Bits.test k flags
  | none => false

/-- A flags register with one flag made `on`. -/
def put (variant : Variant) (flag : Flag) (on : Bool) (flags : Int) : Int :=
  match bit? variant flag with
  | some k => Bits.assign k on flags
  | none => flags

/-- A flags register with one flag turned over. -/
def toggle (variant : Variant) (flag : Flag) (flags : Int) : Int :=
  match bit? variant flag with
  | some k => Bits.flip k flags
  | none => flags

/-- The flag of a variant that has a short name. -/
def ofName? (variant : Variant) (text : String) : Option Flag :=
  (layout variant).find? (·.name == text)

end Flag

end SerialMachine
