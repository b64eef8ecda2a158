import SerialMachine.Proofs.Coherence

/-!
# Operations bit by bit

`Registers.executed` is the record of an operation when `k` bits have been through the machine: the
words that change are midway between what they were and what the operation makes of them. Main
statement: every data cycle of the execute state goes from `k` bits to `k + 1`.
-/

namespace SerialMachine

open Bits (bit drop test weight)
open Shift (midway)

/-- The registers that an operation with a target moves in its data cycles. -/
def Operation.moved (operation : Operation) (target : Option Target) : List Register :=
  match operation with
  | .jump | .jumpz => [.operand, .pc]
  | .get | .set | .shadow =>
    match target.bind Target.register? with
    | none => [.operand]
    | some register => [.acc, register]
  | .unused => []
  | .load | .store | .loadc | .storec => [.operand]
  | _ => [.acc, .operand]

theorem Operation.moved_subset (operation : Operation) (target : Option Target) :
    ∀ x ∈ operation.moved target, x ∈ Register.words := by
  obtain _ | target := target
  · cases operation <;> decide
  · cases target <;> cases operation <;> decide

theorem Target.register?_ne_acc {target : Target} {register : Register}
    (h : target.register? = some register) : register ≠ .acc := by
  cases target <;> cases h <;> decide

namespace Registers

/-- The record when the accumulator is on its way to `result` and the operand on its way around. -/
def combined (n k : Nat) (result : Int) (r : Registers) : Registers :=
  { r with acc := midway n k r.acc result, operand := midway n k r.operand r.operand }

/-- The record when accumulator and register are on their way into each other. -/
def exchanged (n k : Nat) (register : Register) (r : Registers) : Registers :=
  { r.set register (midway n k (r.get register) r.acc) with
    acc := midway n k r.acc (r.get register) }

/-- The record of an operation after `k` of its data cycles. -/
def executed (config : Config) (operation : Operation) (k : Nat) (r : Registers) : Registers :=
  let n := config.width
  let a := r.acc
  let x := r.operand
  let turned := { r with operand := midway n k x x }
  let around := Flag.isSet config.variant .rotate r.flags
  match operation with
  | .or => r.combined n k (Bits.or a x)
  | .and =>
    let done := r.combined n k (Bits.and a x)
    if config.extended then done
    else if r.indirected then { done with operand := drop k x }
    else { done with operand := Shift.shortened n k x x }
  | .xor => r.combined n k (Bits.xor a x)
  | .invert => r.combined n k (Bits.complement a)
  | .add =>
    { r.combined n k (a + x) with
      carry := Adder.carryInto k a x 0
      flags :=
        if k = n then Flag.put config.variant .carry (decide (weight n ≤ a + x)) r.flags
        else r.flags }
  | .sub =>
    { r.combined n k (a - x) with
      carry := Adder.carryInto k a (Bits.complement x) 1
      flags :=
        if k = n then Flag.put config.variant .borrow (decide (a < x)) r.flags else r.flags }
  | .lshift => { turned with acc := Word.leftBy n (Bits.ones k x) around a }
  | .rshift => { turned with acc := Word.rightBy n (Bits.ones k x) around a }
  | .literal => r.combined n k x
  | .jump | .jumpz => if r.choice = .fetch then { turned with pc := midway n k r.pc x } else turned
  | .get | .set | .shadow =>
    match r.target.bind Target.register? with
    | none => turned
    | some register => r.exchanged n k register
  | .load | .store | .loadc | .storec => turned
  | .unused => r

variable {config : Config} {operation : Operation} {k : Nat} {r : Registers} {m : Timing.Markers}

/-- The carry with which an operation sets out. -/
def firstCarry (operation : Operation) : Int :=
  if operation = .sub then 1 else 0

/-- Nothing has happened after no cycle. -/
theorem executed_zero (carry : r.carry = firstCarry operation)
    (acc : Word.Fits config.width r.acc) : r.executed config operation 0 = r := by
  have pos := config.width_pos
  have combined (result : Int) : r.combined config.width 0 result = r := by
    simp only [Registers.combined, Shift.midway_zero]
  have turned : { r with operand := midway config.width 0 r.operand r.operand } = r := by
    simp only [Shift.midway_zero]
  cases operation with
  | and => simp [executed, combined, Shift.shortened]
  | add | sub =>
    have unused : ¬0 = config.width := by omega
    simp only [executed, combined, Adder.carryInto_zero, if_neg unused]
    rw [firstCarry] at carry
    simp only [reduceCtorEq, if_true, if_false] at carry
    rw [← carry]
  | lshift => simp [executed, Word.leftBy_zero acc]
  | rshift => simp [executed]
  | jump | jumpz => simp [executed]
  | get | set | shadow =>
    unfold executed
    cases r.target.bind Target.register? with
    | none => exact turned
    | some register =>
      simp only [exchanged, Shift.midway_zero]
      cases register <;> rfl
  | or | xor | invert | literal => exact combined _
  | load | store | loadc | storec => exact turned
  | unused => rfl

/-- No operation touches the latches in its data cycles. -/
theorem executed_latches (config : Config) (operation : Operation) (k : Nat) (r : Registers) :
    (r.executed config operation k).state = r.state ∧
      (r.executed config operation k).choice = r.choice ∧
      (r.executed config operation k).opcode = r.opcode ∧
      (r.executed config operation k).target = r.target ∧
      (r.executed config operation k).dispatch = r.dispatch ∧
      (r.executed config operation k).indirected = r.indirected ∧
      (r.executed config operation k).irq = r.irq := by
  unfold executed
  cases operation with
  | and =>
    simp only
    split
    · exact ⟨rfl, rfl, rfl, rfl, rfl, rfl, rfl⟩
    · split <;> exact ⟨rfl, rfl, rfl, rfl, rfl, rfl, rfl⟩
  | jump | jumpz =>
    simp only
    split <;> exact ⟨rfl, rfl, rfl, rfl, rfl, rfl, rfl⟩
  | get | set | shadow =>
    cases ht : r.target with
    | none => exact ⟨rfl, rfl, rfl, rfl, rfl, rfl, rfl⟩
    | some target =>
      cases target with
      | io => exact ⟨rfl, rfl, rfl, rfl, rfl, rfl, rfl⟩
      | _ => exact ⟨rfl, rfl, rfl, ht, rfl, rfl, rfl⟩
  | _ => exact ⟨rfl, rfl, rfl, rfl, rfl, rfl, rfl⟩

/-! ## A data cycle -/

theorem bit_beq_one (k : Nat) (x : Int) : (bit k x == 1) = test k x := by
  rw [Bits.bit_eq_ite]
  cases test k x <;> rfl

theorem fits_of_moved {n : Nat} {target : Option Target} {x y : Register}
    (moved : operation.moved target = [x, y])
    (fits : ∀ z ∈ operation.moved target, Word.Fits n (r.get z)) :
    Word.Fits n (r.get x) ∧ Word.Fits n (r.get y) :=
  ⟨fits x (by simp [moved]), fits y (by simp [moved])⟩

/-- A flag that the last cycle of an operation settles. -/
theorem put_at_last (last : m.last = decide (k + 1 = config.width)) (flag : Flag) (flags : Int)
    {on on' : Bool} (same : k + 1 = config.width → on = on') :
    (if m.last then Flag.put config.variant flag on flags else flags) =
      if k + 1 = config.width then Flag.put config.variant flag on' flags else flags := by
  by_cases h : k + 1 = config.width
  · simp [last, h, same h]
  · simp [last, h]

section DataCycle

variable (lt : k < config.width) (last : m.last = decide (k + 1 = config.width))
  (lastFour : m.lastFour = decide (config.width - 4 ≤ k))
include lt

theorem combine_combined (acc : Word.Fits config.width r.acc)
    (operand : Word.Fits config.width r.operand) {result b : Int}
    (arrives : test 0 b = test k result) :
    Cycle.combine config.width b (r.combined config.width k result) =
      r.combined config.width (k + 1) result := by
  rw [Cycle.combine, combined, combined, Shift.enter_midway lt acc arrives,
    Shift.rotate_midway lt operand]

theorem exchange_exchanged {register : Register} (apart : register ≠ .acc)
    (acc : Word.Fits config.width r.acc) (other : Word.Fits config.width (r.get register)) :
    Cycle.exchange config.width register (r.exchanged config.width k register) =
      r.exchanged config.width (k + 1) register := by
  have leaving := Shift.enter_midway lt other (Shift.test_midway (j := 0) lt r.acc (r.get register))
  have arriving := Shift.enter_midway lt acc (Shift.test_midway (j := 0) lt (r.get register) r.acc)
  cases register <;>
    first
    | exact absurd rfl apart
    | (simp only [get] at leaving arriving
       simp only [Cycle.exchange, exchanged, get, set, leaving, arriving])

section Combination

variable (acc : Word.Fits config.width r.acc) (operand : Word.Fits config.width r.operand)
include acc operand

/-- The operations that set the accumulator bit by bit and have nothing else to keep up with. -/
theorem executeBit_combined
    (plain : operation = .or ∨ operation = .xor ∨ operation = .invert ∨ operation = .literal) :
    Cycle.executeBit config operation m (r.executed config operation k) =
      .ok (r.executed config operation (k + 1)) := by
  have leaves := Shift.low_midway lt
  rcases plain with rfl | rfl | rfl | rfl <;>
    simp only [Cycle.executeBit, executed, combined, leaves, Bits.xor_bit_one]
  · exact congrArg _ (combine_combined lt acc operand (Bits.test_or_bit acc operand k))
  · exact congrArg _ (combine_combined lt acc operand (Bits.test_xor_bit acc operand k))
  · exact congrArg _ (combine_combined lt acc operand (Bits.test_zero_bit k _))
  · exact congrArg _ (combine_combined lt acc operand (Bits.test_zero_bit k _))

include lastFour in
/-- In the base variant a conjunction lets the operand's last bits fall out, or all of them when the
operand has been fetched. -/
theorem executeBit_and :
    Cycle.executeBit config .and m (r.executed config .and k) =
      .ok (r.executed config .and (k + 1)) := by
  have leaves := Shift.low_midway lt
  have arrives := Bits.test_and_bit k r.acc r.operand
  cases extended : config.extended with
  | true =>
    simp only [Cycle.executeBit, executed, extended, combined, leaves, if_true, Bool.not_true,
      Bool.false_and, Bool.false_eq_true, if_false]
    exact congrArg _ (combine_combined lt acc operand arrives)
  | false =>
    cases indirected : r.indirected with
    | true =>
      have leaving : Bits.low (drop k r.operand) = bit k r.operand := rfl
      simp only [Cycle.executeBit, executed, extended, indirected, combined, leaves, leaving,
        Bool.not_false, Bool.or_true, Bool.and_self, if_true, Bool.false_eq_true, if_false,
        Shift.enter_midway lt acc arrives, Bits.drop_drop]
    | false =>
      have leaving : Bits.low (Shift.shortened config.width k r.operand r.operand) =
          bit k r.operand := by
        rw [Bits.low_eq_bit, Bits.bit_eq_of_test_eq (Shift.test_shortened lt _ _)]
      simp only [Cycle.executeBit, executed, extended, indirected, combined, leaves, leaving,
        Bool.not_false, Bool.or_false, Bool.true_and, Bool.false_eq_true, if_false, lastFour,
        decide_eq_true_eq, Shift.enter_midway lt acc arrives]
      split
      · next le => rw [Shift.drop_shortened le]
      · next more =>
        rw [Shift.rotate, Shift.enter_shortened (by omega) operand (Shift.test_shortened lt _ _)]

include last in
theorem executeBit_add :
    Cycle.executeBit config .add m (r.executed config .add k) =
      .ok (r.executed config .add (k + 1)) := by
  have sum := Adder.add_carryInto k r.acc r.operand (Or.inl rfl)
  have overflow (h : k + 1 = config.width) :
      (Adder.carryInto (k + 1) r.acc r.operand 0 != 0) =
        decide (weight config.width ≤ r.acc + r.operand) := by
    rw [h, Adder.carryInto_add acc operand]
  have moved := combine_combined lt acc operand (Bits.test_zero_bit k (r.acc + r.operand))
  simp only [Cycle.combine, combined, Registers.mk.injEq, true_and, and_true] at moved
  simp only [Cycle.executeBit, executed, combined, Shift.low_midway lt, sum, add_zero, if_neg lt.ne,
    Cycle.combine, moved, put_at_last last .carry r.flags overflow]

include last in
/-- A difference is a sum with the operand's complement and a one. -/
theorem executeBit_sub :
    Cycle.executeBit config .sub m (r.executed config .sub k) =
      .ok (r.executed config .sub (k + 1)) := by
  have sum := Adder.add_carryInto k r.acc (Bits.complement r.operand) (Or.inr rfl)
  have difference : r.acc + Bits.complement r.operand + 1 = r.acc - r.operand := by
    simp only [Bits.complement]
    ring
  have overflow (h : k + 1 = config.width) :
      (Adder.carryInto (k + 1) r.acc (Bits.complement r.operand) 1 == 0) =
        decide (r.acc < r.operand) := by
    rw [h, Adder.carryInto_sub acc operand]
  have moved := combine_combined lt acc operand (Bits.test_zero_bit k (r.acc - r.operand))
  simp only [Cycle.combine, combined, Registers.mk.injEq, true_and, and_true] at moved
  simp only [Cycle.executeBit, executed, combined, Shift.low_midway lt, Bits.xor_bit_one, sum,
    difference, if_neg lt.ne, Cycle.combine, moved, put_at_last last .borrow r.flags overflow]

/-- A shift moves the accumulator once for every one in the operand. -/
theorem executeBit_shift (shifts : operation = .lshift ∨ operation = .rshift) :
    Cycle.executeBit config operation m (r.executed config operation k) =
      .ok (r.executed config operation (k + 1)) := by
  rcases shifts with rfl | rfl <;>
    simp only [Cycle.executeBit, executed, Shift.low_midway lt, Bits.ones_succ, bit_beq_one] <;>
    cases one : test k r.operand
  · simp only [Bool.false_eq_true, if_false, Nat.add_zero]
    rw [Cycle.turn, Shift.rotate_midway lt operand]
  · simp only [if_true, Word.left_leftBy config.width_pos _ _ acc]
    rw [Cycle.turn, Shift.rotate_midway lt operand]
  · simp only [Bool.false_eq_true, if_false, Nat.add_zero]
    rw [Cycle.turn, Shift.rotate_midway lt operand]
  · simp only [if_true, Word.right_rightBy config.width_pos _ _ acc]
    rw [Cycle.turn, Shift.rotate_midway lt operand]

end Combination

/-- A jump that is taken moves the operand into the program counter. -/
theorem executeBit_jump (jumps : operation = .jump ∨ operation = .jumpz)
    (operand : Word.Fits config.width r.operand) (pc : Word.Fits config.width r.pc) :
    Cycle.executeBit config operation m (r.executed config operation k) =
      .ok (r.executed config operation (k + 1)) := by
  have arriving := Shift.enter_midway lt pc (Bits.test_zero_bit k r.operand)
  rcases jumps with rfl | rfl <;> by_cases taken : r.choice = .fetch <;>
    simp only [Cycle.executeBit, executed, taken, if_true, if_false, beq_self_eq_true, beq_iff_eq,
      Shift.low_midway lt, arriving] <;>
    rw [Cycle.turn, Shift.rotate_midway lt operand]

theorem executeBit_exchange {target : Target} (aim : r.target = some target)
    (exchanges : operation = .get ∨ operation = .set ∨ operation = .shadow)
    (fits : ∀ x ∈ operation.moved (some target), Word.Fits config.width (r.get x)) :
    Cycle.executeBit config operation m (r.executed config operation k) =
      .ok (r.executed config operation (k + 1)) := by
  cases hx : target.register? with
  | none =>
    have operand : Word.Fits config.width r.operand := by
      refine fits .operand ?_
      rcases exchanges with rfl | rfl | rfl <;> simp [Operation.moved, hx]
    rcases exchanges with rfl | rfl | rfl <;>
      simp only [Cycle.executeBit, executed, aim, Option.bind_some, hx] <;>
      rw [Cycle.turn, Shift.rotate_midway lt operand]
  | some register =>
    have moved : operation.moved (some target) = [.acc, register] := by
      rcases exchanges with rfl | rfl | rfl <;> simp [Operation.moved, hx]
    obtain ⟨acc, other⟩ := fits_of_moved moved fits
    have kept : (r.exchanged config.width k register).target = some target := by
      cases register <;> exact aim
    have exchanged := exchange_exchanged lt (Target.register?_ne_acc hx) acc other
    rcases exchanges with rfl | rfl | rfl <;>
      simp only [Cycle.executeBit, executed, aim, Option.bind_some, hx, kept, exchanged]

include last lastFour in
/-- A data cycle of an operation takes one more bit through the machine. -/
theorem executeBit_executed
    (fits : ∀ x ∈ operation.moved r.target, Word.Fits config.width (r.get x))
    (aimed : operation.aims = true → r.target ≠ none) :
    Cycle.executeBit config operation m (r.executed config operation k) =
      .ok (r.executed config operation (k + 1)) := by
  cases operation with
  | or | xor | invert | literal =>
    obtain ⟨acc, operand⟩ := fits_of_moved rfl fits
    exact executeBit_combined lt acc operand (by decide)
  | and =>
    obtain ⟨acc, operand⟩ := fits_of_moved rfl fits
    exact executeBit_and lt lastFour acc operand
  | add =>
    obtain ⟨acc, operand⟩ := fits_of_moved rfl fits
    exact executeBit_add lt last acc operand
  | sub =>
    obtain ⟨acc, operand⟩ := fits_of_moved rfl fits
    exact executeBit_sub lt last acc operand
  | lshift | rshift =>
    obtain ⟨acc, operand⟩ := fits_of_moved rfl fits
    exact executeBit_shift lt acc operand (by decide)
  | jump | jumpz =>
    obtain ⟨operand, pc⟩ := fits_of_moved rfl fits
    exact executeBit_jump lt (by decide) operand pc
  | get | set | shadow =>
    obtain ⟨target, aim⟩ := Option.ne_none_iff_exists'.1 (aimed rfl)
    exact executeBit_exchange lt aim (by decide) (aim ▸ fits)
  | load | store | loadc | storec =>
    have operand : Word.Fits config.width r.operand :=
      fits .operand (by simp [Operation.moved])
    simp only [Cycle.executeBit, executed]
    rw [Cycle.turn, Shift.rotate_midway lt operand]
  | unused => rfl

end DataCycle

end Registers

end SerialMachine
