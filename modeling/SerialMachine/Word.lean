import SerialMachine.Bits

/-!
# The parts of a word

A word of `n` bits holds an opcode nibble in its top four bits and an operand below it. The top bit
of the operand separates memory addresses from the peripherals.
-/

namespace SerialMachine.Word

/-- The largest word. -/
def mask (n : Nat) : Int :=
  Bits.weight n - 1

/-- The largest operand. -/
def operandMask (n : Nat) : Int :=
  Bits.weight (n - 4) - 1

/-- The bit of an operand or address that selects the peripherals. -/
def selectPlace (n : Nat) : Nat :=
  n - 5

/-- The number of words below the select bit. -/
def window (n : Nat) : Nat :=
  1 <<< (n - 5)

end SerialMachine.Word
