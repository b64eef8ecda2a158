import SerialMachine.Adder
import SerialMachine.Proofs.Bits
import SerialMachine.Shift

/-!
# Words in motion

Every register takes one bit a cycle. `Shift.midway n k old new` is a register after `k` of the `n`
cycles in which the word `new` takes the place of `old`; the shift unit and the adder are described
by what they make of it in the next cycle.
-/

namespace SerialMachine

open Bits (bit drop keep weight test ones)

namespace Shift

/-! ## One bit enters -/

theorem enter_eq {n : Nat} {value : Int} (h : Word.Fits (n + 1) value) (b : Int) :
    enter (n + 1) value b = drop 1 value + bit 0 b * weight n := by
  have clear : bit n (drop 1 value) = 0 := by
    rw [Bits.bit_eq_ite, Bits.test_of_fits (Bits.fits_drop h) le_rfl]
    rfl
  rw [Bits.bit_eq_ite 0 b, enter, Nat.add_sub_cancel]
  split
  · rw [show Bits.set n (drop 1 value) = Bits.assign n true (drop 1 value) from rfl,
      Bits.assign_eq, clear]
    simp
  · simp

theorem fits_enter {n : Nat} (pos : 0 < n) {value : Int} (h : Word.Fits n value) (b : Int) :
    Word.Fits n (enter n value b) := by
  obtain ⟨n, rfl⟩ := Nat.exists_eq_add_one.2 pos
  have low := Bits.fits_drop h
  have b_le := Bits.bit_eq_zero_or_one 0 b
  rw [enter_eq h]
  simp only [Word.Fits, Bits.weight_succ] at low ⊢
  rcases b_le with e | e <;> rw [e] <;> omega

/-! ## A word takes the place of another -/

/-- A register of `n` bits after `k` of the `n` cycles in which `new` takes the place of `old`. -/
def midway (n k : Nat) (old new : Int) : Int :=
  drop k old + keep k new * weight (n - k)

@[simp] theorem midway_zero (n : Nat) (old new : Int) : midway n 0 old new = old := by
  simp [midway]

theorem midway_self {n : Nat} {old : Int} (h : Word.Fits n old) (new : Int) :
    midway n n old new = keep n new := by
  rw [midway, Bits.fits_iff_drop_eq_zero.1 h, Nat.sub_self, Bits.weight_zero]
  ring

theorem midway_eq_new {n : Nat} {old new : Int} (h : Word.Fits n old) (h' : Word.Fits n new) :
    midway n n old new = new := by
  rw [midway_self h, Bits.keep_eq_self h']

theorem fits_midway {n k : Nat} (le : k ≤ n) {old : Int} (h : Word.Fits n old) (new : Int) :
    Word.Fits n (midway n k old new) := by
  obtain ⟨d, rfl⟩ := Nat.exists_eq_add_of_le le
  rw [add_comm] at h
  rw [Bits.fits_iff_drop_eq_zero, ← Bits.drop_drop, midway, Nat.add_sub_cancel_left]
  obtain ⟨nonneg, lt⟩ := Bits.fits_drop h
  obtain ⟨nonneg', lt'⟩ := Bits.fits_keep k new
  rw [Bits.drop_drop, ← Bits.fits_iff_drop_eq_zero, Word.Fits, Bits.weight_add]
  have pos := Bits.weight_pos d
  constructor
  · positivity
  · nlinarith

/-- What leaves the register is the old word, lowest bit first. -/
theorem test_midway {n k j : Nat} (lt : k + j < n) (old new : Int) :
    test j (midway n k old new) = test (k + j) old := by
  rw [midway, Bits.test_add_mul_weight_of_lt (by omega), Bits.test_drop]

theorem bit_midway {n k : Nat} (lt : k < n) (old new : Int) :
    bit 0 (midway n k old new) = bit k old :=
  Bits.bit_eq_of_test_eq (test_midway (j := 0) lt old new)

theorem low_midway {n k : Nat} (lt : k < n) (old new : Int) :
    Bits.low (midway n k old new) = bit k old := by
  rw [Bits.low_eq_bit, bit_midway lt]

/-- What enters the register is the new word, lowest bit first. -/
theorem enter_midway {n k : Nat} (lt : k < n) {old new b : Int} (h : Word.Fits n old)
    (arrives : test 0 b = test k new) :
    enter n (midway n k old new) b = midway n (k + 1) old new := by
  obtain ⟨d, rfl⟩ := Nat.exists_eq_add_of_lt lt
  have halved : drop 1 (midway (k + d + 1) k old new) =
      drop (k + 1) old + keep k new * weight d := by
    rw [midway, show k + d + 1 - k = d + 1 by omega, Bits.weight_succ,
      show keep k new * (2 * weight d) = keep k new * weight d * weight 1 by
        rw [show weight 1 = 2 from rfl]; ring,
      Bits.drop_add_mul, Bits.drop_drop]
  rw [enter_eq (fits_midway (by omega) h new), halved, Bits.bit_eq_of_test_eq arrives, midway,
    show k + d + 1 - (k + 1) = d by omega, Bits.keep_succ, Bits.weight_add]
  ring

theorem rotate_midway {n k : Nat} (lt : k < n) {word : Int} (h : Word.Fits n word) :
    rotate n (midway n k word word) = midway n (k + 1) word word :=
  enter_midway lt h (test_midway (j := 0) lt word word)

/-! ## A word that only leaves in the end

In the last four cycles of a fetch nothing enters the operand latch; the four bits that are left of
the old word drop out of it.
-/

/-- A register of `n` bits after `k` of `n` cycles in which `new` enters; in the last four the
register only moves. -/
def shortened (n k : Nat) (old new : Int) : Int :=
  if k ≤ n - 4 then midway n k old new else drop (k - (n - 4)) (midway n (n - 4) old new)

@[simp] theorem shortened_zero (n : Nat) (old new : Int) : shortened n 0 old new = old := by
  simp [shortened]

theorem shortened_self {n : Nat} (four_le : 4 < n) {old : Int} (h : Word.Fits n old) (new : Int) :
    shortened n n old new = keep (n - 4) new := by
  obtain ⟨d, rfl⟩ := Nat.exists_eq_add_of_le (show 4 ≤ n by omega)
  rw [shortened, if_neg (by omega), show 4 + d - (4 + d - 4) = 4 by omega, midway,
    show 4 + d - (4 + d - 4) = 4 by omega, Bits.drop_add_mul, Bits.drop_drop,
    show 4 + d - 4 + 4 = 4 + d by omega, Bits.fits_iff_drop_eq_zero.1 h, zero_add]

theorem enter_shortened {n k : Nat} (lt : k < n - 4) {old new b : Int} (h : Word.Fits n old)
    (arrives : test 0 b = test k new) :
    enter n (shortened n k old new) b = shortened n (k + 1) old new := by
  rw [shortened, if_pos lt.le, shortened, if_pos (by omega), enter_midway (by omega) h arrives]

theorem drop_shortened {n k : Nat} (le : n - 4 ≤ k) (old new : Int) :
    drop 1 (shortened n k old new) = shortened n (k + 1) old new := by
  rw [shortened, shortened, if_neg (show ¬k + 1 ≤ n - 4 by omega)]
  split
  · rw [show k = n - 4 by omega, Nat.add_sub_cancel_left]
  · rw [Bits.drop_drop, show k - (n - 4) + 1 = k + 1 - (n - 4) by omega]

theorem test_shortened {n k : Nat} (lt : k < n) (old new : Int) :
    test 0 (shortened n k old new) = test k old := by
  rw [shortened]
  split
  · exact test_midway (j := 0) lt old new
  · rw [Bits.test_drop, test_midway (by omega)]
    congr 1
    omega

end Shift

/-! ## A word moved by several places -/

namespace Word

/-- A word of `n` bits moved `c` places to the left; with `around`, what leaves at the top enters at
the bottom. -/
def leftBy (n c : Nat) (around : Bool) (value : Int) : Int :=
  if around then
    keep (n - c % n) value * weight (c % n) + drop (n - c % n) value
  else
    keep n (value * weight c)

/-- A word of `n` bits moved `c` places to the right; with `around`, what leaves at the bottom
enters at the top. -/
def rightBy (n c : Nat) (around : Bool) (value : Int) : Int :=
  if around then
    drop (c % n) value + keep (c % n) value * weight (n - c % n)
  else
    drop c value

theorem succ_mod {n : Nat} (pos : 0 < n) (c : Nat) :
    (c + 1) % n = if c % n + 1 = n then 0 else c % n + 1 := by
  have lt := Nat.mod_lt c pos
  rw [Nat.add_mod]
  split
  · next e =>
    by_cases one : n = 1
    · subst one; omega
    · rw [Nat.mod_eq_of_lt (show 1 < n by omega), e, Nat.mod_self]
  · rw [Nat.mod_eq_of_lt (show 1 < n by omega), Nat.mod_eq_of_lt (by omega)]

@[simp] theorem leftBy_zero {n : Nat} {value : Int} (h : Fits n value) (around : Bool) :
    leftBy n 0 around value = value := by
  cases around <;> simp [leftBy, Bits.keep_eq_self h, Bits.fits_iff_drop_eq_zero.1 h]

@[simp] theorem rightBy_zero {n : Nat} (value : Int) (around : Bool) :
    rightBy n 0 around value = value := by
  cases around <;> simp [rightBy]

/-- A word turned to the left by fewer places than it has, and then by one more. -/
theorem left_turned {m c : Nat} {value : Int} (h : Fits (m + 1 + c) value) :
    Shift.left (m + 1 + c) (keep (m + 1) value * weight c + drop (m + 1) value) true =
      keep m value * weight (c + 1) + drop m value := by
  obtain ⟨nonneg, lt⟩ := Bits.fits_drop (n := c) (j := m + 1) (add_comm (m + 1) c ▸ h)
  obtain ⟨nonneg', lt'⟩ := Bits.fits_keep m value
  have pos := Bits.weight_pos c
  have top : bit (m + c) (keep (m + 1) value * weight c + drop (m + 1) value) = bit m value := by
    rw [Bits.bit, add_comm m c, ← Bits.drop_drop, add_comm (keep _ _ * _), Bits.drop_add_mul,
      Bits.fits_iff_drop_eq_zero.1 ⟨nonneg, lt⟩, zero_add]
    exact Bits.bit_eq_of_test_eq (Bits.test_keep (Nat.lt_succ_self m) value)
  have moved : keep (m + 1 + c) (2 * (keep (m + 1) value * weight c + drop (m + 1) value)) =
      keep m value * weight (c + 1) + 2 * drop (m + 1) value := by
    rw [Bits.keep_succ, show 2 * ((keep m value + bit m value * weight m) * weight c +
        drop (m + 1) value) = keep m value * weight (c + 1) + 2 * drop (m + 1) value +
        bit m value * weight (m + 1 + c) by
      rw [Bits.weight_succ, Bits.weight_add, Bits.weight_succ]; ring,
      keep, Int.add_mul_emod_self_right]
    apply Int.emod_eq_of_lt
    · rw [Bits.weight_succ]; positivity
    · rw [Bits.weight_succ, Bits.weight_add, Bits.weight_succ]; nlinarith
  have even : test 0 (keep m value * weight (c + 1) + 2 * drop (m + 1) value) = false := by
    rw [Bits.test_eq, Bits.drop_zero, Bits.weight_succ]
    simp only [decide_eq_false_iff_not]
    rw [show keep m value * (2 * weight c) = 2 * (keep m value * weight c) by ring]
    omega
  have set_zero : Bits.set 0 (keep m value * weight (c + 1) + 2 * drop (m + 1) value) =
      keep m value * weight (c + 1) + 2 * drop (m + 1) value + 1 := by
    rw [Bits.set, even]
    rfl
  rw [Bits.bit_eq_ite, Bits.bit_eq_ite] at top
  rw [Shift.left, show m + 1 + c - 1 = m + c by omega, moved, set_zero, Bits.drop_eq_two_mul m,
    Bits.bit_eq_ite]
  cases hx : test (m + c) (keep (m + 1) value * weight c + drop (m + 1) value) <;>
    cases hy : test m value <;> simp [hx, hy] at top ⊢
  ring

theorem left_leftBy {n : Nat} (pos : 0 < n) (c : Nat) (around : Bool) {value : Int}
    (h : Fits n value) :
    Shift.left n (leftBy n c around value) around = leftBy n (c + 1) around value := by
  cases around with
  | false =>
    simp only [Shift.left, leftBy, Bool.false_and, Bool.false_eq_true, if_false]
    rw [keep, keep, keep, Int.mul_emod, Int.emod_emod_of_dvd _ dvd_rfl, ← Int.mul_emod,
      Bits.weight_succ]
    congr 1
    ring
  | true =>
    have lt := Nat.mod_lt c pos
    obtain ⟨m, hm⟩ := Nat.exists_eq_add_of_lt lt
    have turned := @left_turned m (c % n) value (by rwa [show m + 1 + c % n = n by omega])
    simp only [leftBy, if_true]
    rw [show m + 1 + c % n = n by omega] at turned
    rw [show n - c % n = m + 1 by omega, turned, succ_mod pos]
    split
    · next e =>
      obtain rfl : m = 0 := by omega
      simp [Bits.keep_eq_self h, Bits.fits_iff_drop_eq_zero.1 h]
    · rw [show n - (c % n + 1) = m by omega]

theorem right_rightBy {n : Nat} (pos : 0 < n) (c : Nat) (around : Bool) {value : Int}
    (h : Fits n value) :
    Shift.right n (rightBy n c around value) around = rightBy n (c + 1) around value := by
  cases around with
  | false => simp [Shift.right, rightBy, Bits.drop_drop]
  | true =>
    simp only [Shift.right, rightBy, if_true]
    have lt := Nat.mod_lt c pos
    have turned := Shift.rotate_midway lt h
    rw [Shift.midway] at turned
    rw [turned, succ_mod pos]
    split
    · next e =>
      rw [e, Shift.midway_eq_new h h]
      simp
    · rfl

end Word

/-! ## The adder, bit by bit -/

namespace Adder

theorem add_eq {x y c : Int} (hx : x = 0 ∨ x = 1) (hy : y = 0 ∨ y = 1) (hc : c = 0 ∨ c = 1) :
    add x y c = ((x + y + c) % 2, (x + y + c) / 2) := by
  rcases hx with rfl | rfl <;> rcases hy with rfl | rfl <;> rcases hc with rfl | rfl <;> rfl

/-- The carry into place `k` of the sum of two numbers and a first carry. -/
def carryInto (k : Nat) (x y c : Int) : Int :=
  (keep k x + keep k y + c) / weight k

@[simp] theorem carryInto_zero (x y c : Int) : carryInto 0 x y c = c := by
  simp [carryInto]

theorem carryInto_eq_zero_or_one (k : Nat) (x y : Int) {c : Int} (h : c = 0 ∨ c = 1) :
    carryInto k x y c = 0 ∨ carryInto k x y c = 1 := by
  obtain ⟨nonneg, lt⟩ := Bits.fits_keep k x
  obtain ⟨nonneg', lt'⟩ := Bits.fits_keep k y
  have pos := Bits.weight_pos k
  have lower : 0 ≤ carryInto k x y c := Int.ediv_nonneg (by omega) pos.le
  have upper : carryInto k x y c < 2 := Int.ediv_lt_of_lt_mul pos (by omega)
  omega

/-- One cycle of the adder finds the next bit of the sum and the next carry. -/
theorem add_carryInto (k : Nat) (x y : Int) {c : Int} (h : c = 0 ∨ c = 1) :
    add (bit k x) (bit k y) (carryInto k x y c) = (bit k (x + y + c), carryInto (k + 1) x y c) := by
  have bx := Bits.bit_eq_zero_or_one k x
  have by' := Bits.bit_eq_zero_or_one k y
  have sum : drop k (x + y + c) = drop k x + drop k y + carryInto k x y c := by
    have split : x + y + c =
        keep k x + keep k y + c + (drop k x + drop k y) * weight k := by
      linarith [Bits.drop_mul_weight_add_keep k x, Bits.drop_mul_weight_add_keep k y]
    rw [split, Bits.drop_add_mul, Bits.drop_eq_div, carryInto]
    ring
  have next : carryInto (k + 1) x y c = (bit k x + bit k y + carryInto k x y c) / 2 := by
    rw [carryInto, Bits.keep_succ, Bits.keep_succ, Bits.weight_succ, mul_comm 2,
      ← Int.ediv_ediv_of_nonneg (Bits.weight_pos k).le,
      show keep k x + bit k x * weight k + (keep k y + bit k y * weight k) + c =
        keep k x + keep k y + c + (bit k x + bit k y) * weight k by ring,
      Int.add_mul_ediv_right _ _ (Bits.weight_pos k).ne', ← carryInto, add_comm]
  rw [add_eq bx by' (carryInto_eq_zero_or_one k x y h), next, Prod.mk.injEq]
  refine ⟨?_, rfl⟩
  rw [show bit k (x + y + c) = drop k (x + y + c) % 2 from rfl, sum, Bits.drop_eq_two_mul k x,
    Bits.drop_eq_two_mul k y]
  omega

/-- One cycle of counting up. -/
theorem add_zero_carryInto (k : Nat) (x : Int) :
    add (bit k x) 0 (carryInto k x 0 1) = (bit k (x + 1), carryInto (k + 1) x 0 1) := by
  have added := add_carryInto k x 0 (Or.inr rfl)
  rwa [Bits.bit_of_zero, add_zero] at added

theorem carryInto_add {n : Nat} {x y : Int} (hx : Word.Fits n x) (hy : Word.Fits n y) :
    (carryInto n x y 0 != 0) = decide (weight n ≤ x + y) := by
  have carry := carryInto_eq_zero_or_one n x y (Or.inl rfl)
  rw [carryInto, Bits.keep_eq_self hx, Bits.keep_eq_self hy, add_zero] at carry ⊢
  have pos := Bits.weight_pos n
  have below := hx.1
  have below' := hy.1
  by_cases le : weight n ≤ x + y
  · have : 1 ≤ (x + y) / weight n := (Int.le_ediv_iff_mul_le pos).2 (by omega)
    simp only [le, decide_true, bne_iff_ne, ne_eq]
    omega
  · rw [Int.ediv_eq_zero_of_lt (by omega) (by omega)]
    simp [le]

/-- Without a carry out of the top place, a difference has borrowed. -/
theorem carryInto_sub {n : Nat} {x y : Int} (hx : Word.Fits n x) (hy : Word.Fits n y) :
    (carryInto n x (Bits.complement y) 1 == 0) = decide (x < y) := by
  obtain ⟨nonneg, lt⟩ := hx
  obtain ⟨nonneg', lt'⟩ := hy
  have carry : carryInto n x (Bits.complement y) 1 = (x - y + weight n) / weight n := by
    rw [carryInto, Bits.keep_eq_self ⟨nonneg, lt⟩, Bits.keep_complement ⟨nonneg', lt'⟩, Word.mask]
    ring_nf
  have pos := Bits.weight_pos n
  rw [carry]
  by_cases less : x < y
  · rw [Int.ediv_eq_zero_of_lt (by omega) (by omega)]
    simp [less]
  · have : 1 ≤ (x - y + weight n) / weight n := (Int.le_ediv_iff_mul_le pos).2 (by omega)
    simp only [less, decide_false, beq_eq_false_iff_ne, ne_eq]
    omega

end Adder

end SerialMachine
