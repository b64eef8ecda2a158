import SerialMachine.Flag
import SerialMachine.Proofs.Bits

/-!
# Flags one by one

Different flags of a variant are different bits, so that setting one leaves the others alone. The
three flags that describe the accumulator are found while it goes once around.
-/

namespace SerialMachine.Flag

open Bits (test ones)

variable {variant : Variant}

theorem layout_getElem? {f : Flag} {k : Nat} (h : bit? variant f = some k) :
    (layout variant)[k]? = some f := by
  cases variant <;> cases f <;> cases h <;> rfl

theorem eq_of_bit?_eq {f g : Flag} {k : Nat} (hf : bit? variant f = some k)
    (hg : bit? variant g = some k) : f = g :=
  Option.some.inj ((layout_getElem? hf).symm.trans (layout_getElem? hg))

theorem put_put (f : Flag) (a b : Bool) (x : Int) :
    put variant f a (put variant f b x) = put variant f a x := by
  unfold put
  cases bit? variant f with
  | none => rfl
  | some k => exact Bits.assign_assign k a b x

theorem put_comm {f g : Flag} (h : f ≠ g) (a b : Bool) (x : Int) :
    put variant f a (put variant g b x) = put variant g b (put variant f a x) := by
  unfold put
  cases hf : bit? variant f with
  | none => rfl
  | some j =>
    cases hg : bit? variant g with
    | none => rfl
    | some k => exact Bits.assign_comm (fun e : j = k => h (eq_of_bit?_eq hf (e ▸ hg))) a b x

theorem isSet_put_of_ne {f g : Flag} (h : f ≠ g) (on : Bool) (x : Int) :
    isSet variant f (put variant g on x) = isSet variant f x := by
  unfold isSet put
  cases hf : bit? variant f with
  | none => rfl
  | some j =>
    cases hg : bit? variant g with
    | none => rfl
    | some k => exact Bits.test_assign_of_ne (fun e : j = k => h (eq_of_bit?_eq hf (e ▸ hg))) on x

theorem isSet_put_self {f : Flag} {k : Nat} (h : bit? variant f = some k) (on : Bool) (x : Int) :
    isSet variant f (put variant f on x) = on := by
  simp only [isSet, put, h]
  exact Bits.test_assign_self k on x

theorem toggle_eq_put (f : Flag) (x : Int) :
    toggle variant f x = put variant f (!isSet variant f x) x := by
  unfold toggle put isSet
  cases bit? variant f with
  | none => rfl
  | some k => exact Bits.flip_eq_assign k x

/-- A flag that has room in a word can be set in it; a flag that has none can be cleared. -/
theorem fits_put {n : Nat} {f : Flag} {on : Bool} (h : on = false ∨ ∀ k ∈ bit? variant f, k < n)
    {x : Int} (hx : Word.Fits n x) : Word.Fits n (put variant f on x) := by
  unfold put
  cases hf : bit? variant f with
  | none => exact hx
  | some k =>
    by_cases lt : k < n
    · exact Bits.fits_assign lt on hx
    · have clear := Bits.test_of_fits hx (not_lt.1 lt)
      rcases h with rfl | h
      · simpa [Bits.assign, Bits.clear, clear] using hx
      · exact absurd (h k hf) lt

/-- The flags that an instruction sets fit in every word. -/
theorem bit?_lt_of_eight_le {n : Nat} (eight_le : 8 ≤ n) {f : Flag}
    (h : f ∈ [carry, borrow, zero, negative, parity]) : ∀ k ∈ bit? variant f, k < n := by
  intro k hk
  cases variant <;> simp only [List.mem_cons, List.not_mem_nil, or_false] at h <;>
    rcases h with rfl | rfl | rfl | rfl | rfl <;> simp [bit?] at hk <;> omega

theorem test_put_of_ne {f : Flag} {k : Nat} (h : bit? variant f ≠ some k) (on : Bool) (x : Int) :
    test k (put variant f on x) = test k x := by
  unfold put
  cases hf : bit? variant f with
  | none => rfl
  | some j => exact Bits.test_assign_of_ne (fun e => h (hf.trans (congrArg some e.symm))) on x

/-! ## The accumulator's flags -/

/-- A flags register when `k` bits of an accumulator of `n` bits have been counted into it. -/
def counted (variant : Variant) (n k : Nat) (acc flags : Int) : Int :=
  put variant zero (ones k acc == 0)
    (put variant parity (ones k acc % 2 == 1) (put variant negative (test (n - 1) acc) flags))

theorem counted_zero (n : Nat) (acc flags : Int) :
    put variant negative (test (n - 1) acc)
        (put variant parity false (put variant zero true flags)) =
      counted variant n 0 acc flags := by
  rw [counted, put_comm (by decide : negative ≠ parity), put_comm (by decide : negative ≠ zero),
    put_comm (by decide : parity ≠ zero)]
  rfl

theorem counted_counted (n j k : Nat) (acc flags : Int) :
    counted variant n k acc (counted variant n j acc flags) = counted variant n k acc flags := by
  rw [counted, counted, put_comm (by decide : negative ≠ zero),
    put_comm (by decide : negative ≠ parity), put_put, put_comm (by decide : parity ≠ zero),
    put_put, put_put]
  rfl

theorem counted_succ (n k : Nat) (acc flags : Int) :
    (if test k acc then
        toggle variant parity (put variant zero false (counted variant n k acc flags))
      else counted variant n k acc flags) = counted variant n (k + 1) acc flags := by
  have some_bit : ∃ j, bit? variant parity = some j := by
    cases variant
    · exact ⟨3, rfl⟩
    · exact ⟨4, rfl⟩
  obtain ⟨j, hj⟩ := some_bit
  split
  · next one =>
    have odd : (!(ones k acc % 2 == 1)) = ((ones k acc + 1) % 2 == 1) := by
      rcases Nat.mod_two_eq_zero_or_one (ones k acc) with e | e <;> simp [Nat.add_mod, e]
    rw [toggle_eq_put, counted, counted, put_put, Bits.ones_succ, if_pos one,
      isSet_put_of_ne (by decide), isSet_put_self hj, put_comm (by decide : parity ≠ zero), put_put,
      odd]
    rfl
  · next zero =>
    rw [counted, counted, Bits.ones_succ, if_neg zero, Nat.add_zero]

/-- The flags that describe the accumulator. -/
def descriptive : List Flag := [zero, negative, parity]

theorem exists_bit?_of_descriptive (variant : Variant) {f : Flag} (h : f ∈ descriptive) :
    ∃ k, bit? variant f = some k := by
  revert h
  cases variant <;> cases f <;>
    first | exact fun _ => ⟨_, rfl⟩ | exact fun h => absurd h (by decide)

section

variable (n k : Nat) (acc flags : Int)

theorem isSet_counted_zero : isSet variant zero (counted variant n k acc flags) =
    (ones k acc == 0) := by
  obtain ⟨j, place⟩ := exists_bit?_of_descriptive variant (show zero ∈ descriptive by decide)
  rw [counted, isSet_put_self place]

theorem isSet_counted_parity : isSet variant parity (counted variant n k acc flags) =
    (ones k acc % 2 == 1) := by
  obtain ⟨j, place⟩ := exists_bit?_of_descriptive variant (show parity ∈ descriptive by decide)
  rw [counted, isSet_put_of_ne (by decide), isSet_put_self place]

theorem isSet_counted_negative : isSet variant negative (counted variant n k acc flags) =
    test (n - 1) acc := by
  obtain ⟨j, place⟩ := exists_bit?_of_descriptive variant (show negative ∈ descriptive by decide)
  rw [counted, isSet_put_of_ne (by decide), isSet_put_of_ne (by decide), isSet_put_self place]

theorem isSet_counted_of_notMem {f : Flag} (h : f ∉ descriptive) :
    isSet variant f (counted variant n k acc flags) = isSet variant f flags := by
  simp only [descriptive, List.mem_cons, List.not_mem_nil, or_false, not_or] at h
  rw [counted, isSet_put_of_ne h.1, isSet_put_of_ne h.2.2, isSet_put_of_ne h.2.1]

theorem test_counted_of_ne {j : Nat} (h : ∀ f ∈ descriptive, bit? variant f ≠ some j) :
    test j (counted variant n k acc flags) = test j flags := by
  rw [counted, test_put_of_ne (h zero (by decide)), test_put_of_ne (h parity (by decide)),
    test_put_of_ne (h negative (by decide))]

end

end SerialMachine.Flag
