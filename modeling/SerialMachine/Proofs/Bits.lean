import Mathlib.Algebra.Order.Ring.Int
import Mathlib.Tactic.Linarith
import Mathlib.Tactic.Ring
import SerialMachine.Word

/-!
# Words and their bits

A word of `n` bits is a number from zero to `2 ^ n - 1`. This file has the laws that tie the bits of
a number to its quotients and remainders, and say what becomes of them when single bits change or
two words are joined bit by bit.
-/

namespace SerialMachine

/-- `x` is a word of `n` bits. -/
def Word.Fits (n : Nat) (x : Int) : Prop :=
  0 ≤ x ∧ x < Bits.weight n

namespace Bits

/-- Bit `k` of `x`, as a number. -/
def bit (k : Nat) (x : Int) : Int :=
  low (drop k x)

/-- The number of ones among the lowest `k` bits of `x`. -/
def ones (k : Nat) (x : Int) : Nat :=
  (List.range k).countP fun j => test j x

/-! ## Quotients and remainders -/

@[simp] theorem weight_zero : weight 0 = 1 := rfl

theorem weight_eq_pow (k : Nat) : weight k = ((2 ^ k : Nat) : Int) := by
  rw [weight, Nat.one_shiftLeft]

theorem weight_eq_two_pow (k : Nat) : weight k = 2 ^ k := by
  rw [weight_eq_pow]
  push_cast
  rfl

theorem weight_add (j k : Nat) : weight (j + k) = weight j * weight k := by
  simp only [weight_eq_pow, Nat.pow_add]
  push_cast
  rfl

theorem weight_le {j k : Nat} (h : j ≤ k) : weight j ≤ weight k := by
  obtain ⟨d, rfl⟩ := Nat.exists_eq_add_of_le h
  have one_le : 1 ≤ weight d := weight_pos d
  rw [weight_add]
  exact le_mul_of_one_le_right (weight_pos j).le one_le

@[simp] theorem drop_zero (x : Int) : drop 0 x = x := by
  rw [drop_eq_div, weight_zero, Int.ediv_one]

theorem drop_drop (j k : Nat) (x : Int) : drop j (drop k x) = drop (k + j) x := by
  rw [drop_eq_div, drop_eq_div, drop_eq_div, weight_add,
    Int.ediv_ediv_of_nonneg (weight_pos k).le]

theorem drop_add_mul (k : Nat) (x c : Int) : drop k (x + c * weight k) = drop k x + c := by
  rw [drop_eq_div, drop_eq_div, Int.add_mul_ediv_right _ _ (weight_pos k).ne']

theorem drop_mul_weight_add_keep (k : Nat) (x : Int) : drop k x * weight k + keep k x = x := by
  rw [drop_eq_div, keep, mul_comm]
  exact Int.mul_ediv_add_emod x (weight k)

theorem drop_one (x : Int) : drop 1 x = x / 2 := drop_eq_div 1 x

theorem test_eq (k : Nat) (x : Int) : test k x = decide (drop k x % 2 = 1) := by
  rw [test_eq_decide, drop_eq_div]

@[simp] theorem test_drop (j k : Nat) (x : Int) : test j (drop k x) = test (k + j) x := by
  rw [test_eq, test_eq, drop_drop]

theorem bit_eq_ite (k : Nat) (x : Int) : bit k x = if test k x then 1 else 0 := by
  rw [test_eq, bit, low]
  by_cases h : drop k x % 2 = 1
  · simp [h]
  · simp only [h, decide_false, Bool.false_eq_true, if_false]
    omega

theorem low_eq_bit (x : Int) : low x = bit 0 x := by
  rw [bit, drop_zero]

theorem bit_eq_zero_or_one (k : Nat) (x : Int) : bit k x = 0 ∨ bit k x = 1 :=
  low_eq_zero_or_one _

theorem bit_eq_of_test_eq {j k : Nat} {x y : Int} (h : test j x = test k y) :
    bit j x = bit k y := by
  rw [bit_eq_ite, bit_eq_ite, h]

@[simp] theorem test_zero_bit (k : Nat) (x : Int) : test 0 (bit k x) = test k x := by
  rw [bit_eq_ite]
  cases test k x <;> rfl

theorem drop_eq_two_mul (k : Nat) (x : Int) : drop k x = 2 * drop (k + 1) x + bit k x := by
  rw [← drop_drop, bit, low, drop_one]
  omega

@[simp] theorem keep_zero (x : Int) : keep 0 x = 0 := by
  rw [keep, weight_zero, Int.emod_one]

theorem keep_succ (k : Nat) (x : Int) : keep (k + 1) x = keep k x + bit k x * weight k := by
  have below := drop_mul_weight_add_keep k x
  have above := drop_mul_weight_add_keep (k + 1) x
  rw [weight_succ] at above
  rw [drop_eq_two_mul] at below
  linarith

theorem keep_keep_succ (k : Nat) (x : Int) : keep k (keep (k + 1) x) = keep k x := by
  rw [keep_succ, keep, Int.add_mul_emod_self_right]
  exact Int.emod_emod_of_dvd _ dvd_rfl

theorem keep_keep {j n : Nat} (le : j ≤ n) (x : Int) : keep j (keep n x) = keep j x := by
  obtain ⟨d, rfl⟩ := Nat.exists_eq_add_of_le le
  rw [keep, keep, weight_add]
  exact Int.emod_emod_of_dvd x (dvd_mul_right _ _)

/-- Two numbers agree in `k + 1` bits when they agree in the lowest `k` and in the next. -/
theorem keep_succ_beq (k : Nat) (x y : Int) :
    (keep (k + 1) x == keep (k + 1) y) = (keep k x == keep k y && bit k x == bit k y) := by
  rw [Bool.eq_iff_iff, Bool.and_eq_true, beq_iff_eq, beq_iff_eq, beq_iff_eq]
  constructor
  · intro same
    have below : keep k x = keep k y := by rw [← keep_keep_succ, same, keep_keep_succ]
    rw [keep_succ, keep_succ, below] at same
    exact ⟨below, mul_right_cancel₀ (weight_pos k).ne' (add_left_cancel same)⟩
  · rintro ⟨below, above⟩
    rw [keep_succ, keep_succ, below, above]

theorem test_add_mul_weight_of_lt {j k : Nat} (h : j < k) (x c : Int) :
    test j (x + c * weight k) = test j x := by
  obtain ⟨d, rfl⟩ := Nat.exists_eq_add_of_lt h
  have even : c * weight (j + d + 1) = 2 * (c * weight d) * weight j := by
    rw [weight_succ, weight_add]
    ring
  rw [even, test_eq, test_eq, drop_add_mul, Int.add_mul_emod_self_left]

theorem test_keep {j n : Nat} (h : j < n) (x : Int) : test j (keep n x) = test j x := by
  conv_rhs => rw [← drop_mul_weight_add_keep n x, add_comm, test_add_mul_weight_of_lt h]

theorem drop_complement (k : Nat) (x : Int) : drop k (complement x) = complement (drop k x) := by
  have whole := drop_mul_weight_add_keep k x
  have split : complement x = (weight k - 1 - keep k x) + complement (drop k x) * weight k := by
    simp only [complement]
    linarith
  have below : (weight k - 1 - keep k x) / weight k = 0 := by
    have := keep_nonneg k x
    have := keep_lt k x
    exact Int.ediv_eq_zero_of_lt (by omega) (by omega)
  rw [split, drop_add_mul, drop_eq_div, below, zero_add]

theorem test_complement (k : Nat) (x : Int) : test k (complement x) = !test k x := by
  rw [test_eq, test_eq, drop_complement, complement, Bool.eq_iff_iff]
  simp only [decide_eq_true_eq, Bool.not_eq_true', decide_eq_false_iff_not]
  omega

/-! ## Words -/

theorem keep_eq_emod (n : Nat) (x : Int) : keep n x = x % 2 ^ n := by
  rw [keep, weight_eq_pow]
  push_cast
  rfl

theorem fits_keep (n : Nat) (x : Int) : Word.Fits n (keep n x) :=
  ⟨keep_nonneg n x, keep_lt n x⟩

theorem keep_le_mask (n : Nat) (x : Int) : keep n x ≤ Word.mask n :=
  Int.le_sub_one_of_lt (keep_lt n x)

theorem keep_eq_self {n : Nat} {x : Int} (h : Word.Fits n x) : keep n x = x :=
  Int.emod_eq_of_lt h.1 h.2

theorem keep_complement {n : Nat} {x : Int} (h : Word.Fits n x) :
    keep n (complement x) = Word.mask n - x := by
  obtain ⟨nonneg, lt⟩ := h
  rw [keep, complement, Word.mask, ← Int.add_emod_right,
    Int.emod_eq_of_lt (by omega) (by omega)]
  ring

/-- The words of `n` bits are the numbers with nothing above their lowest `n` bits. -/
theorem fits_iff_drop_eq_zero {n : Nat} {x : Int} : Word.Fits n x ↔ drop n x = 0 := by
  constructor
  · intro h
    rw [drop_eq_div, Int.ediv_eq_zero_of_lt h.1 h.2]
  · intro h
    have whole := drop_mul_weight_add_keep n x
    rw [h, zero_mul, zero_add] at whole
    exact whole ▸ fits_keep n x

theorem fits_zero (n : Nat) : Word.Fits n 0 :=
  ⟨le_rfl, weight_pos n⟩

theorem fits_mono {m n : Nat} {x : Int} (h : Word.Fits m x) (le : m ≤ n) : Word.Fits n x :=
  ⟨h.1, h.2.trans_le (weight_le le)⟩

theorem fits_drop {j n : Nat} {x : Int} (h : Word.Fits (n + j) x) : Word.Fits n (drop j x) := by
  rw [fits_iff_drop_eq_zero, drop_drop, add_comm, ← fits_iff_drop_eq_zero]
  exact h

theorem test_of_fits {n k : Nat} {x : Int} (h : Word.Fits n x) (le : n ≤ k) : test k x = false := by
  rw [test_eq, fits_iff_drop_eq_zero.1 (fits_mono h le)]
  rfl

@[simp] theorem test_of_zero (k : Nat) : test k 0 = false :=
  test_of_fits (fits_zero 0) (Nat.zero_le k)

@[simp] theorem bit_of_zero (k : Nat) : bit k 0 = 0 := by
  rw [bit_eq_ite, test_of_zero]
  rfl

/-- Words with the same bits are equal. -/
theorem eq_of_test_eq {n : Nat} {x y : Int} (hx : Word.Fits n x) (hy : Word.Fits n y)
    (h : ∀ k < n, test k x = test k y) : x = y := by
  have prefixes : ∀ m ≤ n, keep m x = keep m y := by
    intro m
    induction m with
    | zero => intro _; rw [keep_zero, keep_zero]
    | succ m ih =>
      intro le
      rw [keep_succ, keep_succ, ih (by omega), bit_eq_of_test_eq (h m (by omega))]
  rw [← keep_eq_self hx, ← keep_eq_self hy, prefixes n le_rfl]

/-! ## Single bits -/

theorem assign_eq (k : Nat) (on : Bool) (x : Int) :
    assign k on x = x + ((if on then 1 else 0) - bit k x) * weight k := by
  rw [bit_eq_ite]
  cases on <;> cases h : test k x <;> simp [assign, set, clear, h, sub_eq_add_neg]

theorem drop_assign (k : Nat) (on : Bool) (x : Int) :
    drop (k + 1) (assign k on x) = drop (k + 1) x := by
  have bit_lt := bit_eq_zero_or_one k x
  rw [← drop_drop, ← drop_drop, assign_eq, drop_add_mul, drop_eq_two_mul k x, drop_one, drop_one]
  cases on <;> simp only [if_true, Bool.false_eq_true, if_false] <;> omega

@[simp] theorem test_assign_self (k : Nat) (on : Bool) (x : Int) : test k (assign k on x) = on := by
  rw [test_eq, assign_eq, drop_add_mul, drop_eq_two_mul k x]
  cases on <;> simp

theorem test_assign_of_ne {j k : Nat} (h : j ≠ k) (on : Bool) (x : Int) :
    test j (assign k on x) = test j x := by
  rcases lt_or_gt_of_ne h with lt | lt
  · rw [assign_eq, test_add_mul_weight_of_lt lt]
  · obtain ⟨d, rfl⟩ := Nat.exists_eq_add_of_lt lt
    rw [add_right_comm, ← test_drop, drop_assign, test_drop]

theorem fits_assign {n k : Nat} (h : k < n) (on : Bool) {x : Int} (hx : Word.Fits n x) :
    Word.Fits n (assign k on x) := by
  obtain ⟨d, rfl⟩ := Nat.exists_eq_add_of_lt h
  rw [fits_iff_drop_eq_zero] at hx ⊢
  rw [add_right_comm, ← drop_drop] at hx ⊢
  rw [drop_assign, hx]

theorem assign_assign (k : Nat) (a b : Bool) (x : Int) :
    assign k a (assign k b x) = assign k a x := by
  rw [assign_eq k a (assign k b x), bit_eq_ite, test_assign_self, assign_eq, assign_eq]
  ring

theorem assign_comm {j k : Nat} (h : j ≠ k) (a b : Bool) (x : Int) :
    assign j a (assign k b x) = assign k b (assign j a x) := by
  rw [assign_eq j, assign_eq k b (assign j a x), bit_eq_of_test_eq (test_assign_of_ne h b x),
    bit_eq_of_test_eq (test_assign_of_ne h.symm a x), assign_eq k, assign_eq j]
  ring

theorem flip_eq_assign (k : Nat) (x : Int) : flip k x = assign k (!test k x) x := by
  cases h : test k x <;> simp [flip, assign, set, clear, h]

/-! ## Joined bits -/

theorem test_natCast (k m : Nat) : test k (m : Int) = m.testBit k := by
  rw [test_eq_decide, weight_eq_pow, Nat.testBit_eq_decide_div_mod_eq]
  norm_cast

theorem exists_natCast_of_fits {n : Nat} {x : Int} (h : Word.Fits n x) :
    ∃ m : Nat, m < 2 ^ n ∧ x = m := by
  obtain ⟨m, rfl⟩ := Int.eq_ofNat_of_zero_le h.1
  exact ⟨m, Int.ofNat_lt.1 (weight_eq_pow n ▸ h.2), rfl⟩

theorem fits_natCast {n m : Nat} (h : m < 2 ^ n) : Word.Fits n (m : Int) :=
  ⟨Int.natCast_nonneg m, by simpa only [weight_eq_pow, Nat.cast_lt] using h⟩

theorem complement_natCast (m : Nat) : complement (m : Int) = .negSucc m := by
  simp only [complement]
  omega

theorem or_natCast (m k : Nat) : or (m : Int) (k : Int) = ((m ||| k : Nat) : Int) := by
  rw [or, complement_natCast, complement_natCast]
  simp only [and, complement]
  omega

theorem test_negSucc (k m : Nat) : test k (.negSucc m) = !m.testBit k := by
  rw [← complement_natCast, test_complement, test_natCast]

theorem testBit_sub_and (m n k : Nat) :
    (m - (m &&& n)).testBit k = (m.testBit k && !n.testBit k) := by
  have low (m n : Nat) : (m &&& n) % 2 = 1 ↔ m % 2 = 1 ∧ n % 2 = 1 := Nat.and_mod_two_eq_one
  induction k generalizing m n with
  | zero =>
    have le : m &&& n ≤ m := Nat.and_le_left
    have both := low m n
    rw [Nat.testBit_zero, Nat.testBit_zero, Nat.testBit_zero, Bool.eq_iff_iff]
    simp only [decide_eq_true_eq, Bool.and_eq_true, Bool.not_eq_true', decide_eq_false_iff_not]
    omega
  | succ k ih =>
    -- the lowest bit of `m &&& n` never borrows
    have half : (m &&& n) / 2 = m / 2 &&& n / 2 := Nat.and_div_two
    have both := low m n
    have quotient : (m - (m &&& n)) / 2 = m / 2 - (m / 2 &&& n / 2) := by omega
    rw [Nat.testBit_succ, quotient, ih, ← Nat.testBit_succ, ← Nat.testBit_succ]

/-- The bits of a conjunction, whatever the signs. -/
theorem test_and (k : Nat) (x y : Int) : test k (and x y) = (test k x && test k y) := by
  have ofNat (m : Nat) : test k (.ofNat m) = m.testBit k := test_natCast k m
  obtain m | m := x <;> obtain n | n := y <;> simp only [and, ofNat, test_negSucc]
  · rw [test_natCast, Nat.testBit_and]
  · rw [test_natCast, testBit_sub_and]
  · rw [test_natCast, testBit_sub_and, Bool.and_comm]
  · rw [Nat.testBit_or, Bool.not_or]

/-- Two numbers joined bit by bit, one bit at a time. -/
theorem test_and_bit (k : Nat) (x y : Int) :
    test 0 (and (bit k x) (bit k y)) = test k (and x y) := by
  rw [test_and, test_and, test_zero_bit, test_zero_bit]

theorem ne_zero_iff_exists_test (x : Int) : x ≠ 0 ↔ ∃ k, test k x = true := by
  constructor
  · intro nonzero
    obtain m | m := x
    · obtain ⟨k, set⟩ := Nat.exists_testBit_of_ne_zero fun zero => nonzero (congrArg Int.ofNat zero)
      exact ⟨k, (test_natCast k m).trans set⟩
    · refine ⟨m, ?_⟩
      rw [test_negSucc, Nat.testBit_lt_two_pow Nat.lt_two_pow_self]
      rfl
  · rintro ⟨k, set⟩ rfl
    rw [test_of_zero] at set
    cases set

theorem and_ne_zero_iff (x y : Int) :
    and x y ≠ 0 ↔ ∃ k, test k x = true ∧ test k y = true := by
  simp only [ne_zero_iff_exists_test, test_and, Bool.and_eq_true]

theorem fits_bit (k : Nat) (x : Int) : Word.Fits 1 (bit k x) :=
  fits_keep 1 (drop k x)

section Joined

variable {n : Nat} {x y : Int} (hx : Word.Fits n x) (hy : Word.Fits n y)
include hx hy

theorem fits_and : Word.Fits n (and x y) := by
  obtain ⟨m, lt, rfl⟩ := exists_natCast_of_fits hx
  obtain ⟨k, -, rfl⟩ := exists_natCast_of_fits hy
  exact fits_natCast (Nat.and_le_left.trans_lt lt)

theorem fits_xor : Word.Fits n (xor x y) := by
  obtain ⟨m, lt, rfl⟩ := exists_natCast_of_fits hx
  obtain ⟨k, lt', rfl⟩ := exists_natCast_of_fits hy
  exact fits_natCast (Nat.xor_lt_two_pow lt lt')

theorem test_xor (j : Nat) : test j (xor x y) = (test j x ^^ test j y) := by
  obtain ⟨m, -, rfl⟩ := exists_natCast_of_fits hx
  obtain ⟨k, -, rfl⟩ := exists_natCast_of_fits hy
  exact (test_natCast j (m ^^^ k)).trans (by rw [Nat.testBit_xor, test_natCast, test_natCast])

theorem fits_or : Word.Fits n (or x y) := by
  obtain ⟨m, lt, rfl⟩ := exists_natCast_of_fits hx
  obtain ⟨k, lt', rfl⟩ := exists_natCast_of_fits hy
  rw [or_natCast]
  exact fits_natCast (Nat.or_lt_two_pow lt lt')

theorem test_or (j : Nat) : test j (or x y) = (test j x || test j y) := by
  obtain ⟨m, -, rfl⟩ := exists_natCast_of_fits hx
  obtain ⟨k, -, rfl⟩ := exists_natCast_of_fits hy
  rw [or_natCast, test_natCast, Nat.testBit_or, test_natCast, test_natCast]

theorem test_or_bit (k : Nat) : test 0 (or (bit k x) (bit k y)) = test k (or x y) := by
  rw [test_or (fits_bit k x) (fits_bit k y), test_or hx hy, test_zero_bit, test_zero_bit]

theorem test_xor_bit (k : Nat) : test 0 (xor (bit k x) (bit k y)) = test k (xor x y) := by
  rw [test_xor (fits_bit k x) (fits_bit k y), test_xor hx hy, test_zero_bit, test_zero_bit]

end Joined

theorem xor_bit_one (k : Nat) (x : Int) : xor (bit k x) 1 = bit k (complement x) := by
  rw [bit_eq_ite, bit_eq_ite, test_complement]
  cases test k x <;> rfl

/-! ## Counted ones -/

@[simp] theorem ones_zero (x : Int) : ones 0 x = 0 := rfl

theorem ones_succ (k : Nat) (x : Int) : ones (k + 1) x = ones k x + if test k x then 1 else 0 := by
  rw [ones, List.range_succ, List.countP_append, List.countP_singleton]
  rfl

/-- A word without ones is zero. -/
theorem ones_beq_zero {n : Nat} {x : Int} (h : Word.Fits n x) : (ones n x == 0) = (x == 0) := by
  rw [Bool.eq_iff_iff, beq_iff_eq, beq_iff_eq]
  constructor
  · intro none
    refine eq_of_test_eq h (fits_zero n) fun j lt => ?_
    rw [ones, List.countP_eq_zero] at none
    rw [test_of_zero]
    exact Bool.eq_false_iff.2 (none j (List.mem_range.2 lt))
  · rintro rfl
    exact List.countP_eq_zero.2 fun j _ => by rw [test_of_zero]; exact Bool.false_ne_true

end Bits

end SerialMachine
