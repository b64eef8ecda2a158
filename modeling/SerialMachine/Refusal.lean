import SerialMachine.Fault
import SerialMachine.InvalidValue

/-!
# Refusals

What leaves a request to a machine without an answer, though the machine meets no fault.
-/

namespace SerialMachine

/-- Why a request to a machine ends without an answer. -/
inductive Refusal
  /-- A look-up found nothing. -/
  | absent (absent : Absent)
  /-- A value on the way cannot be used. -/
  | invalid (cause : InvalidValue)
  deriving DecidableEq, Repr

end SerialMachine
