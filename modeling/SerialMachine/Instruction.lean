import SerialMachine.InvalidValue
import SerialMachine.Word

/-!
# Instruction words

Encoding and decoding of instruction words, and the register that an exchange instruction names.
-/

namespace SerialMachine

/-- What an exchange instruction exchanges with the accumulator. -/
inductive Target
  | pc
  | flags
  | compare
  | timer
  | shadow
  /-- A word transfer with a peripheral instead of an exchange. -/
  | io
  deriving DecidableEq, Repr, Inhabited

namespace Target

/-- The name of a target. -/
def name : Target → String
  | pc => "PC"
  | flags => "FLAGS"
  | compare => "COMPARE"
  | timer => "COUNTER"
  | shadow => "SHADOW"
  | io => "IO"

/-- Every target. -/
def all : List Target := [pc, flags, compare, timer, shadow, io]

/-- The target with a name. -/
def ofName? (text : String) : Option Target :=
  all.find? (·.name == text)

end Target

/-- A decoded instruction word. -/
structure Instruction where
  opcode : Nat
  operand : Int
  operation : Operation
  deriving DecidableEq, Repr, Inhabited

namespace Instruction

/-- The mnemonic and the operand. -/
def text (instruction : Instruction) : String :=
  s!"{instruction.operation.name} ${Text.hex 0 instruction.operand}"

/-- The word of `n` bits that holds an operation and its operand. -/
def encode (variant : Variant) (n : Nat) (operation : Operation) (operand : Int) :
    Except InvalidValue Int :=
  match Operation.opcode? variant operation with
  | none => .error (.foreignOperation operation variant)
  | some opcode =>
    if 0 ≤ operand ∧ operand ≤ Word.operandMask n then
      .ok (opcode * Bits.weight (n - 4) + operand)
    else
      .error (.wideOperand operand (n - 4 : Nat))

/-- The instruction that the lowest `n` bits of a word hold. -/
def decode (variant : Variant) (n : Nat) (word : Int) : Instruction :=
  let opcode := (Bits.drop (n - 4) (Bits.keep n word)).toNat
  { opcode
    operand := Bits.keep (n - 4) word
    operation := (Operation.table variant).getD opcode .unused }

/-- What an operation with the given operand exchanges with the accumulator, in words of `n`
bits. -/
def target? (variant : Variant) (n : Nat) (operation : Operation) (operand : Int) : Option Target :=
  match operation with
  | .shadow => some (if Bits.test 0 operand then .timer else .shadow)
  | .get | .set =>
    if Bits.test (Word.selectPlace n) operand then
      some .io
    else
      match variant with
      | .base => some (if Bits.test 0 operand then .flags else .pc)
      | .extended =>
        match Bits.test 1 operand, Bits.test 0 operand with
        | false, false => some .pc
        | false, true => some .flags
        | true, false => some .compare
        | true, true => some .timer
  | _ => none

end Instruction

end SerialMachine
