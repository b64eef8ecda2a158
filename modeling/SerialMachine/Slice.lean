/-!
# Slices of a list

The parts of a list that bounds cut off. A negative bound counts from the end, and bounds outside
the list are moved to its ends.
-/

namespace SerialMachine.Slice

/-- The place in a list of `length` elements that a bound stands for. -/
def place (length : Nat) (bound : Int) : Nat :=
  min length (if bound < 0 then bound + length else bound).toNat

/-- The elements up to and without `stop`; all of them when there is no bound. -/
def upTo {α : Type} (xs : List α) : Option Int → List α
  | some stop => xs.take (place xs.length stop)
  | none => xs

example : upTo [1, 2, 3, 4] (some (-1)) = [1, 2, 3] := by decide

end SerialMachine.Slice
