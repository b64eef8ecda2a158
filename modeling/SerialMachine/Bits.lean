/-!
# Integers as bit sequences

An integer is read as an unending two's complement sequence of bits, bit `0` first: shifts to the
right are floor quotients, the bits of a negative number end in ones. Every operation here is total
and agrees with ordinary binary arithmetic on numbers below a power of two.
-/

namespace SerialMachine.Bits

/-- The weight `2 ^ k` of bit `k`. -/
def weight (k : Nat) : Int :=
  ((1 <<< k : Nat) : Int)

/-- Whether bit `k` of `x` is one. -/
def test (k : Nat) (x : Int) : Bool :=
  x >>> k % 2 == 1

/-- Bit `0` of `x`, as a number. -/
def low (x : Int) : Int :=
  x % 2

/-- The number spelled by the lowest `n` bits of `x`. -/
def keep (n : Nat) (x : Int) : Int :=
  x % weight n

/-- `x` without its lowest `k` bits. -/
def drop (k : Nat) (x : Int) : Int :=
  x >>> k

/-- `x` with bit `k` made one. -/
def set (k : Nat) (x : Int) : Int :=
  if test k x then x else x + weight k

/-- `x` with bit `k` made zero. -/
def clear (k : Nat) (x : Int) : Int :=
  if test k x then x - weight k else x

/-- `x` with bit `k` turned over. -/
def flip (k : Nat) (x : Int) : Int :=
  if test k x then x - weight k else x + weight k

/-- `x` with bit `k` made `on`. -/
def assign (k : Nat) (on : Bool) (x : Int) : Int :=
  if on then set k x else clear k x

/-- Every bit turned over. -/
def complement (x : Int) : Int :=
  -x - 1

/-- The bits that both numbers have. -/
def and : Int → Int → Int
  | .ofNat m, .ofNat n => ((m &&& n : Nat) : Int)
  | .ofNat m, .negSucc n => ((m - (m &&& n) : Nat) : Int)
  | .negSucc m, .ofNat n => ((n - (n &&& m) : Nat) : Int)
  | .negSucc m, .negSucc n => .negSucc (m ||| n)

/-- The bits that at least one of the numbers has. -/
def or (x y : Int) : Int :=
  complement (and (complement x) (complement y))

/-- The bits that exactly one of the numbers has. -/
def xor : Int → Int → Int
  | .ofNat m, .ofNat n => ((m ^^^ n : Nat) : Int)
  | .ofNat m, .negSucc n => .negSucc (m ^^^ n)
  | .negSucc m, .ofNat n => .negSucc (m ^^^ n)
  | .negSucc m, .negSucc n => ((m ^^^ n : Nat) : Int)

/-! ## The operations as arithmetic -/

theorem weight_pos (k : Nat) : 0 < weight k := by
  have := Nat.two_pow_pos k
  simp only [weight, Nat.one_shiftLeft]
  omega

theorem weight_succ (k : Nat) : weight (k + 1) = 2 * weight k := by
  simp only [weight, Nat.one_shiftLeft, Nat.pow_succ]
  omega

theorem drop_eq_div (k : Nat) (x : Int) : drop k x = x / weight k := by
  simp [drop, weight, Nat.one_shiftLeft, Int.shiftRight_eq_div_pow]

theorem test_eq_decide (k : Nat) (x : Int) : test k x = decide (x / weight k % 2 = 1) := by
  simp only [test, weight, Nat.one_shiftLeft, Int.shiftRight_eq_div_pow]
  rfl

theorem keep_nonneg (n : Nat) (x : Int) : 0 ≤ keep n x :=
  Int.emod_nonneg x (Int.ne_of_gt (weight_pos n))

theorem keep_lt (n : Nat) (x : Int) : keep n x < weight n :=
  Int.emod_lt_of_pos x (weight_pos n)

theorem low_eq_zero_or_one (x : Int) : low x = 0 ∨ low x = 1 := by
  simp only [low]
  omega

end SerialMachine.Bits
