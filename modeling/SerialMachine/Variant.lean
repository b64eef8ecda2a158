/-!
# Instruction-set variants

The machine comes in two variants that share the word format and not the opcodes. The base variant
can fetch operands indirectly; the extended one has interrupts, a timer and a shadow register.
-/

namespace SerialMachine

/-- The instruction-set variant that a machine implements. -/
inductive Variant
  | base
  | extended
  deriving DecidableEq, Repr, Inhabited

namespace Variant

/-- The name by which users choose a variant. -/
def name : Variant → String
  | base => "base"
  | extended => "extended"

/-- Every variant, in the order in which messages list them. -/
def all : List Variant := [base, extended]

end Variant

end SerialMachine
