import Mathlib.Algebra.BigOperators.Fin
import SerialMachine.Proofs.ExitCodes
import SerialMachine.Proofs.Operations
import SerialMachine.Proofs.WholeWrites

/-!
# Words that are shifted

A register that takes one bit a cycle lets its lowest bit go. Main statement: at every width, after
as many cycles as there are new bits, the new bits stand above what is left of the old word, and the
old bits have left in their order. A whole turn brings a word back, and turns in the two directions
undo each other.
-/

namespace SerialMachine

open Bits (bit drop keep low test weight)
open Shift (midway)

/-! ## Bits of a list -/

theorem Bits.bit_eq (k : Nat) (x : Int) : bit k x = x / 2 ^ k % 2 := by
  rw [bit, drop_eq_div, weight_eq_two_pow]
  rfl

theorem Bits.test_joined {bits : List Int} {j : Nat} (within : j < bits.length) :
    test j (joined bits) = test 0 bits[j] := by
  induction bits generalizing j with
  | nil => simp at within
  | cons b rest ih =>
    have half : drop 1 (joined (b :: rest)) = joined rest := by
      have lowest := low_eq_zero_or_one b
      rw [drop_one, joined]
      omega
    cases j with
    | zero =>
      have parity : test 0 (joined (b :: rest)) = test 0 b := by
        rw [test_eq, test_eq, drop_zero, drop_zero, joined, low]
        congr 2
        omega
      exact parity
    | succ j =>
      have higher : test (j + 1) (joined (b :: rest)) = test j (joined rest) := by
        rw [add_comm, ← test_drop, half]
      exact higher.trans (ih (by simpa using within))

theorem Bits.joined_eq_sum (bits : List Int) :
    joined bits = ∑ j : Fin bits.length, bits[j] % 2 * 2 ^ (j : Nat) := by
  induction bits with
  | nil => rfl
  | cons b rest ih =>
    have first : ∑ j : Fin (b :: rest).length, (b :: rest)[j] % 2 * 2 ^ (j : Nat) =
        b % 2 * 2 ^ 0 + ∑ j : Fin rest.length, rest[j] % 2 * 2 ^ ((j : Nat) + 1) :=
      Fin.sum_univ_succ _
    rw [joined, ih, first, low, pow_zero, mul_one, Finset.mul_sum]
    congr 1
    refine Finset.sum_congr rfl fun j _ => ?_
    rw [pow_succ]
    ring

/-! ## Turned words -/

namespace Word.Rotated

variable {n c : Nat} {x y z : Int}

/-- A word can have been turned from one word only. -/
theorem unique_source (h : Rotated n c x z) (h' : Rotated n c y z) : x = y :=
  Bits.eq_of_test_eq h.1 h'.1 fun j lt => (h.2.2 j lt).symm.trans (h'.2.2 j lt)

theorem unique_target (h : Rotated n c x y) (h' : Rotated n c x z) : y = z := by
  refine Bits.eq_of_test_eq h.2.1 h'.2.1 fun j lt => ?_
  have pos : 0 < n := Nat.zero_lt_of_lt lt
  -- the place from which the bit has come
  have source : ((j + (n - c % n)) % n + c) % n = j := by
    have few := Nat.mod_lt c pos
    have whole := Nat.mod_add_div c n
    rw [Nat.mod_add_mod, show j + (n - c % n) + c = j + n * (1 + c / n) by rw [Nat.mul_add]; omega,
      Nat.add_mul_mod_self_left, Nat.mod_eq_of_lt lt]
  have inside : (j + (n - c % n)) % n < n := Nat.mod_lt _ pos
  have moved := (h.2.2 _ inside).trans (h'.2.2 _ inside).symm
  rwa [source] at moved

end Word.Rotated

/-! ## Answers of a host -/

namespace AnyWidth

variable {α β : Type} {host : Host} {width : Int}

/-- The answer is the value, unless the host has no room for a word. -/
inductive Yields (host : Host) (width : Int) (value : α) : Except InvalidValue α → Prop
  | done : Yields host width value (.ok value)
  | cramped {cause : InvalidValue} (large : host.bits ≤ width)
      (overtaxes : cause.overtaxesHost = true) : Yields host width value (.error cause)

theorem Yields.bind {value : α} {found : β} {outcome : Except InvalidValue α}
    {next : α → Except InvalidValue β} (first : Yields host width value outcome)
    (second : Yields host width found (next value)) :
    Yields host width found (outcome >>= next) := by
  cases first with
  | done => exact second
  | cramped large overtaxes => exact .cramped large overtaxes

theorem Yields.map {value : α} {outcome : Except InvalidValue α} (f : α → β)
    (h : Yields host width value outcome) : Yields host width (f value) (f <$> outcome) := by
  cases h with
  | done => exact .done
  | cramped large overtaxes => exact .cramped large overtaxes

theorem yields_atLeast {least : Nat} (enough : (least : Int) ≤ width) :
    Yields host width width.toNat (atLeast least width) := by
  rw [atLeast, if_pos enough]
  exact .done

theorem yields_roomy {least : Nat} (enough : (least : Int) ≤ width) :
    Yields host width width.toNat (roomy host least width) := by
  cases room : roomy host least width with
  | ok n =>
    obtain ⟨-, -, rfl⟩ := roomy_eq_ok_iff.1 room
    exact .done
  | error cause =>
    obtain ⟨large, overtaxes⟩ := overtaxesHost_of_roomy enough room
    exact .cramped (by omega) overtaxes

section

variable (positive : 1 ≤ width) (value b : Int)
include positive

theorem yields_enter :
    Yields host width (Shift.enter width.toNat value b) (enter host width value b) := by
  unfold enter
  split
  · exact (yields_roomy positive).map (Shift.enter · value b)
  · exact (yields_atLeast positive).map (Shift.enter · value b)

theorem yields_left (around : Bool) :
    Yields host width (Shift.left width.toNat value around) (left host width value around) :=
  (yields_atLeast positive).bind ((yields_roomy (by omega)).map (Shift.left · value around))

theorem yields_right (around : Bool) :
    Yields host width (Shift.right width.toNat value around) (right host width value around) := by
  cases around with
  | false => exact .done
  | true => exact yields_enter positive value value

end

/-! ## Many steps -/

/-- A register after bits have entered it one by one, and the bits that have left it. -/
def enterAll (host : Host) (width value : Int) : List Int → Except InvalidValue (Int × List Int)
  | [] => .ok (value, [])
  | b :: rest => do
    let next ← enter host width value b
    let (last, left) ← enterAll host width next rest
    return (last, low value :: left)

/-- A number after `k` equal steps. -/
def times (step : Int → Except InvalidValue Int) : (k : Nat) → Int → Except InvalidValue Int
  | 0, value => .ok value
  | k + 1, value => times step k value >>= step

/-- Equal steps lead along a sequence when each of them leads on to the next of its numbers. -/
theorem yields_times (step : Int → Except InvalidValue Int) (seen : Nat → Int) {k : Nat}
    (steps : ∀ j < k, Yields host width (seen (j + 1)) (step (seen j))) :
    Yields host width (seen k) (times step k (seen 0)) := by
  induction k with
  | zero => exact .done
  | succ k ih =>
    exact (ih fun j lt => steps j (by omega)).bind (steps k (by omega))

section

variable (host) {n k : Nat} {old v : Int} (positive : 1 ≤ width) (sized : width.toNat = n)
include positive sized

/-- The bits of `new` from place `k` on enter above those that are there already, and as many bits
of `old` leave. -/
theorem yields_enterAll_midway (h : Word.Fits n old) (new : Int) {bits : List Int}
    (room : k + bits.length ≤ n)
    (arrive : ∀ j, (within : j < bits.length) → test 0 bits[j] = test (k + j) new) :
    Yields host width
      (midway n (k + bits.length) old new, (List.range bits.length).map fun j => bit (k + j) old)
      (enterAll host width (midway n k old new) bits) := by
  -- over the bits that are still to come, from whichever place they are
  induction bits generalizing k with
  | nil => exact .done
  | cons b rest ih =>
    rw [List.length_cons] at room ⊢
    have entered :
        Yields host width (midway n (k + 1) old new) (enter host width (midway n k old new) b) := by
      rw [← Shift.enter_midway (by omega) h (arrive 0 (by simp)), ← sized]
      exact yields_enter positive _ b
    have later := ih (k := k + 1) (by omega) fun j within => by
      have next := arrive (j + 1) (by simpa using within)
      rwa [List.getElem_cons_succ, show k + (j + 1) = k + 1 + j by omega] at next
    have left : (List.range (rest.length + 1)).map (fun j => bit (k + j) old) =
        low (midway n k old new) ::
          (List.range rest.length).map fun j => bit (k + 1 + j) old := by
      rw [List.range_succ_eq_map, List.map_cons, List.map_map, Shift.low_midway (by omega)]
      congr 2
      funext j
      exact congrArg (bit · old) (by simp; omega)
    rw [left, show k + (rest.length + 1) = k + 1 + rest.length by omega]
    exact entered.bind (later.map fun (last, left) => (last, low (midway n k old new) :: left))

theorem yields_times_rotate (h : Word.Fits n v) :
    Yields host width v (times (rotate host width) n v) := by
  have turned := yields_times (rotate host width) (fun k => midway n k v v) (k := n) fun j lt => by
    rw [← Shift.rotate_midway lt h, ← sized]
    exact yields_enter positive _ _
  rwa [Shift.midway_zero, Shift.midway_eq_new h h] at turned

theorem yields_times_left (h : Word.Fits n v) (k : Nat) :
    Yields host width (Word.leftBy n k true v) (times (left host width · true) k v) := by
  have moved := yields_times (left host width · true) (fun k => Word.leftBy n k true v) (k := k)
    fun j _ => by
      rw [← Word.left_leftBy (by omega) j true h, ← sized]
      exact yields_left positive _ true
  rwa [Word.leftBy_zero h] at moved

theorem yields_times_right (h : Word.Fits n v) (k : Nat) :
    Yields host width (Word.rightBy n k true v) (times (right host width · true) k v) := by
  have moved := yields_times (right host width · true) (fun k => Word.rightBy n k true v) (k := k)
    fun j _ => by
      rw [← Word.right_rightBy (by omega) j true h, ← sized]
      exact yields_right positive _ true
  rwa [Word.rightBy_zero] at moved

theorem yields_right_left (h : Word.Fits n v) (k : Nat) :
    Yields host width v
      (times (left host width · true) k v >>= times (right host width · true) k) := by
  have pos : 0 < n := by omega
  have there := Word.rotated_leftBy pos h k
  have back := Word.rotated_rightBy pos there.2.1 k
  have right := yields_times_right host positive sized there.2.1 k
  rw [back.unique_source there] at right
  exact (yields_times_left host positive sized h k).bind right

theorem yields_left_right (h : Word.Fits n v) (k : Nat) :
    Yields host width v
      (times (right host width · true) k v >>= times (left host width · true) k) := by
  have pos : 0 < n := by omega
  have there := Word.rotated_rightBy pos h k
  have back := Word.rotated_leftBy pos there.1 k
  have left := yields_times_left host positive sized there.1 k
  rw [back.unique_target there] at left
  exact (yields_times_right host positive sized h k).bind left

end

/-! ## Shift registers -/

/-- How a word of `width` bits is shifted on a host. -/
structure ShiftsBits (host : Host) (width v : Int) : Prop where
  /-- Of each number that enters, its lowest bit counts. -/
  enters : ∀ bits : List Int, bits.length ≤ width →
    Yields host width
      (v / 2 ^ bits.length +
          2 ^ (width.toNat - bits.length) * ∑ j : Fin bits.length, bits[j] % 2 * 2 ^ (j : Nat),
        (List.range bits.length).map fun j => v / 2 ^ j % 2)
      (enterAll host width v bits)
  /-- With all its bits a new word has taken the place of the old one. -/
  loads : ∀ new : Int, 0 ≤ new → new < 2 ^ width.toNat →
    Yields host width (new, (List.range width.toNat).map fun j => v / 2 ^ j % 2)
      (enterAll host width v ((List.range width.toNat).map fun j => new / 2 ^ j % 2))
  turns : Yields host width v (times (rotate host width) width.toNat v)
  right_left : ∀ k,
    Yields host width v (times (left host width · true) k v >>= times (right host width · true) k)
  left_right : ∀ k,
    Yields host width v (times (right host width · true) k v >>= times (left host width · true) k)

/-- Whatever the width and the word, bits enter above it in their order and leave it in theirs. -/
theorem shifts_bits (host : Host) {width v : Int} (positive : 1 ≤ width) (nonneg : 0 ≤ v)
    (below : v < 2 ^ width.toNat) : ShiftsBits host width v := by
  have fits : Word.Fits width.toNat v := ⟨nonneg, Bits.weight_eq_two_pow _ ▸ below⟩
  constructor
  case enters =>
    intro bits few
    have room : 0 + bits.length ≤ width.toNat := by omega
    have entered := yields_enterAll_midway host positive rfl fits (Bits.joined bits) room
      fun j within => by rw [Nat.zero_add, Bits.test_joined within]
    simp only [Shift.midway_zero, Nat.zero_add, Bits.bit_eq] at entered
    rwa [Shift.midway, Bits.keep_eq_self (Bits.fits_joined bits), Bits.drop_eq_div,
      Bits.joined_eq_sum, Bits.weight_eq_two_pow, Bits.weight_eq_two_pow, mul_comm] at entered
  case loads =>
    intro new nonneg' below'
    have fits' : Word.Fits width.toNat new := ⟨nonneg', Bits.weight_eq_two_pow _ ▸ below'⟩
    have room : 0 + ((List.range width.toNat).map (bit · new)).length ≤ width.toNat := by simp
    have loaded := yields_enterAll_midway host positive rfl fits new room fun j within => by simp
    rw [List.length_map, List.length_range, Nat.zero_add, Shift.midway_zero,
      Shift.midway_eq_new fits fits'] at loaded
    simpa only [Nat.zero_add, Bits.bit_eq] using loaded
  case turns => exact yields_times_rotate host positive rfl fits
  case right_left => exact yields_right_left host positive rfl fits
  case left_right => exact yields_left_right host positive rfl fits

/-- Three bits enter a word of five, a whole turn, and two steps to and fro. -/
theorem shifts_bits_five :
    ShiftsBits {} 5 0b10110 ∧
      enterAll {} 5 0b10110 [1, 0, 1] = .ok (0b10110, [0, 1, 1]) ∧
      enterAll {} 5 0b10110 [1, 1, 0, 0, 1] = .ok (0b10011, [0, 1, 1, 0, 1]) ∧
      times (rotate {} 5) 3 0b10110 = .ok 0b11010 ∧ times (rotate {} 5) 5 0b10110 = .ok 0b10110 ∧
      times (left {} 5 · true) 2 0b10110 = .ok 0b11010 ∧
      times (right {} 5 · true) 2 0b11010 = .ok 0b10110 :=
  ⟨shifts_bits {} (by decide) (by decide) (by decide), by decide⟩

end AnyWidth

end SerialMachine
