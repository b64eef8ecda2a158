import Mathlib.Algebra.Group.Int.Defs
import Mathlib.Algebra.Group.Nat.Defs
import SerialMachine.Host

/-!
# Attempts

What an attempt made of several steps comes to, when any of them may be refused, and the numbers
that it is refused for when it has to write them.
-/

namespace SerialMachine

variable {ε α β : Type} {x : Except ε α} {a : α} {b : β} {e : ε}

theorem bind_eq_ok_iff {f : α → Except ε β} :
    x >>= f = .ok b ↔ ∃ a, x = .ok a ∧ f a = .ok b := by
  cases x <;> simp [bind, Except.bind]

theorem bind_eq_error_iff {f : α → Except ε β} :
    x >>= f = .error e ↔ x = .error e ∨ ∃ a, x = .ok a ∧ f a = .error e := by
  cases x <;> simp [bind, Except.bind]

theorem map_eq_ok_iff {f : α → β} : f <$> x = .ok b ↔ ∃ a, x = .ok a ∧ f a = b := by
  cases x <;> simp [Functor.map, Except.map]

theorem map_eq_error_iff {f : α → β} : f <$> x = .error e ↔ x = .error e := by
  cases x <;> simp [Functor.map, Except.map]

/-! ## Numbers that are too long to be written -/

theorem Text.writeDecimal?_eq_none_iff {value : Int} :
    writeDecimal? value = none ↔ 10 ^ decimalDigitLimit ≤ value.natAbs := by
  unfold writeDecimal?
  rw [Nat.pow_eq]
  split <;> simp_all

theorem Text.writeDecimal?_ten_pow : writeDecimal? (10 ^ decimalDigitLimit) = none := by
  rw [writeDecimal?_eq_none_iff, Int.natAbs_pow]
  generalize decimalDigitLimit = digits
  exact Nat.le_refl _

/-- A number that is no smaller than one that is too long to be written is too long, too. -/
theorem Text.writeDecimal?_eq_none_of_le {a b : Int} (le : a.natAbs ≤ b.natAbs)
    (long : writeDecimal? a = none) : writeDecimal? b = none := by
  rw [writeDecimal?_eq_none_iff] at long ⊢
  exact Nat.le_trans long le

/-- A number of bits that a host has room for can be written. -/
theorem Host.writeDecimal?_ne_none {host : Host} {place : Int}
    (small : (place.natAbs : Int) < host.bits) :
    Text.writeDecimal? place ≠ none := by
  rw [Ne, Text.writeDecimal?_eq_none_iff, Nat.not_le]
  have counted : host.bits ≤ 10 ^ 20 := Int.le_trans host.bits_le_digitLimit (by decide)
  have long : 10 ^ 20 ≤ 10 ^ Text.decimalDigitLimit :=
    Nat.pow_le_pow_right (by decide) (by decide)
  refine Nat.lt_of_lt_of_le ?_ long
  omega

end SerialMachine
