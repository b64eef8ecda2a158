import SerialMachine.Proofs.Decoding

/-!
# Operations on whole words

A state that begins takes one cycle to set up and one for each bit. This file follows records
through them that no machine need ever have come to: only the words that an operation moves have to
be words. Main statements: the serial adder adds, subtracts and counts whole words, and the shifts
move the accumulator once for every one in the operand, wherever it stands.
-/

namespace SerialMachine

open Bits (bit keep drop test weight ones)
open Shift (midway)

/-! ## Words turned around -/

/-- `y` is the word `x` of `n` bits turned `c` places to the left: the bit at place `j` has gone to
place `j + c`, counted around. -/
def Word.Rotated (n c : Nat) (x y : Int) : Prop :=
  Word.Fits n x ∧ Word.Fits n y ∧ ∀ j < n, test ((j + c) % n) y = test j x

namespace Word

variable {n j : Nat} {value : Int}

theorem fits_leftBy (pos : 0 < n) (h : Fits n value) (c : Nat) (around : Bool) :
    Fits n (leftBy n c around value) := by
  induction c with
  | zero => rwa [leftBy_zero h]
  | succ c ih =>
    rw [← left_leftBy pos c around h]
    exact Registers.fits_left pos _ around

theorem fits_rightBy (pos : 0 < n) (h : Fits n value) (c : Nat) (around : Bool) :
    Fits n (rightBy n c around value) := by
  induction c with
  | zero => rwa [rightBy_zero]
  | succ c ih =>
    rw [← right_rightBy pos c around h]
    exact Registers.fits_right pos ih around

/-- The bits of a number that is put together from two parts. -/
theorem test_joined {c : Nat} {low : Int} (fits : Fits c low) (high : Int) (j : Nat) :
    test j (low + high * weight c) = if j < c then test j low else test (j - c) high := by
  split
  · next below => rw [Bits.test_add_mul_weight_of_lt below]
  · next above =>
    obtain ⟨d, rfl⟩ := Nat.exists_eq_add_of_le (not_lt.1 above)
    rw [← Bits.test_drop, Bits.drop_add_mul, Bits.fits_iff_drop_eq_zero.1 fits, zero_add,
      Nat.add_sub_cancel_left]

/-- A place counted around is below the turn or behind it. -/
theorem place_turned (lt : j < n) (c : Nat) :
    (j + c) % n = if j < n - c % n then j + c % n else j - (n - c % n) := by
  have few := Nat.mod_lt c (Nat.zero_lt_of_lt lt)
  rw [Nat.add_mod, Nat.mod_eq_of_lt lt]
  split
  · rw [Nat.mod_eq_of_lt (by omega)]
  · rw [Nat.mod_eq_sub_mod (by omega), Nat.mod_eq_of_lt (by omega)]
    omega

theorem rotated_leftBy (pos : 0 < n) (h : Fits n value) (c : Nat) :
    Rotated n c value (leftBy n c true value) := by
  refine ⟨h, fits_leftBy pos h c true, fun j lt => ?_⟩
  have few := Nat.mod_lt c pos
  have high : Fits (c % n) (drop (n - c % n) value) := Bits.fits_drop (by
    rwa [Nat.add_sub_cancel' few.le])
  rw [leftBy, if_pos rfl, add_comm (keep _ _ * _), test_joined high, place_turned lt]
  split
  · next below =>
    rw [if_neg (by omega), Nat.add_sub_cancel, Bits.test_keep below]
  · next above =>
    rw [if_pos (by omega), Bits.test_drop, Nat.add_sub_cancel' (not_lt.1 above)]

theorem rotated_rightBy (pos : 0 < n) (h : Fits n value) (c : Nat) :
    Rotated n c (rightBy n c true value) value := by
  refine ⟨fits_rightBy pos h c true, h, fun j lt => ?_⟩
  have few := Nat.mod_lt c pos
  have low : Fits (n - c % n) (drop (c % n) value) := Bits.fits_drop (by
    rwa [Nat.sub_add_cancel few.le])
  rw [rightBy, if_pos rfl, test_joined low, place_turned lt]
  split
  · rw [Bits.test_drop, add_comm]
  · next above => rw [Bits.test_keep (by omega)]

end Word

/-! ## Bits that enter over a longer number -/

namespace Shift

/-- A register of `n` bits, or the number in its place, after `k` bits of `new` have entered. -/
def taken (n : Nat) (old new : Int) : Nat → Int
  | 0 => old
  | k + 1 => enter n (taken n old new k) (bit k new)

theorem test_enter (n : Nat) (value b : Int) (j : Nat) :
    test j (enter n value b) = (test (1 + j) value || (j == n - 1 && test 0 b)) := by
  rw [enter]
  by_cases one : test 0 b = true
  · rw [if_pos one, show Bits.set (n - 1) (drop 1 value) = Bits.assign (n - 1) true (drop 1 value)
      from rfl, one, Bool.and_true]
    by_cases top : j = n - 1
    · rw [top, Bits.test_assign_self, beq_self_eq_true, Bool.or_true]
    · rw [Bits.test_assign_of_ne top, Bits.test_drop, beq_false_of_ne top, Bool.or_false]
  · rw [if_neg one, Bits.test_drop, Bool.eq_false_iff.2 one, Bool.and_false, Bool.or_false]

/-- Nothing that was there is cleared: the bits that enter are laid over those that move down. -/
theorem test_taken {n k : Nat} (le : k ≤ n) (old new : Int) (j : Nat) :
    test j (taken n old new k) =
      (test (k + j) old || (decide (n - k ≤ j ∧ j < n) && test (k + j - n) new)) := by
  induction k generalizing j with
  | zero =>
    have outside : ¬(n - 0 ≤ j ∧ j < n) := by omega
    rw [taken, zero_add, decide_eq_false outside, Bool.false_and, Bool.or_false]
  | succ k ih =>
    rw [taken, test_enter, ih (by omega), Bits.test_zero_bit, ← Nat.add_assoc]
    by_cases top : j = n - 1
    · have inside : n - (k + 1) ≤ j ∧ j < n := by omega
      have above : ¬(n - k ≤ 1 + j ∧ 1 + j < n) := by omega
      rw [decide_eq_true inside, decide_eq_false above, show k + 1 + j - n = k by omega,
        beq_iff_eq.2 top, Bool.false_and, Bool.or_false]
    · have same : (n - k ≤ 1 + j ∧ 1 + j < n) ↔ (n - (k + 1) ≤ j ∧ j < n) := by omega
      rw [decide_eq_decide.2 same, beq_false_of_ne top, Bool.false_and, Bool.or_false]

/-- What leaves the register is what was there. -/
theorem low_taken {n k : Nat} (lt : k < n) (old new : Int) :
    Bits.low (taken n old new k) = bit k old := by
  rw [Bits.low_eq_bit]
  refine Bits.bit_eq_of_test_eq ?_
  have outside : ¬(n - k ≤ 0 ∧ 0 < n) := by omega
  rw [test_taken lt.le, decide_eq_false outside, Bool.false_and, Bool.or_false, Nat.add_zero]

/-- Over a word nothing is left of what was there. -/
theorem taken_self {n : Nat} {old : Int} (h : Word.Fits n old) (new : Int) :
    taken n old new n = keep n new := by
  have midway (k : Nat) (le : k ≤ n) : taken n old new k = midway n k old new := by
    induction k with
    | zero => rw [taken, midway_zero]
    | succ k ih => rw [taken, ih (by omega), enter_midway le h (Bits.test_zero_bit k new)]
  rw [midway n le_rfl, midway_self h]

/-- After all bits the number is a word laid over what was above the word before. -/
theorem test_taken_self (n : Nat) (old new : Int) (j : Nat) :
    test j (taken n old new n) = (test (n + j) old || test j (keep n new)) := by
  rw [test_taken le_rfl, Nat.sub_self, Nat.add_sub_cancel_left]
  by_cases lt : j < n
  · rw [decide_eq_true ⟨Nat.zero_le j, lt⟩, Bool.true_and, Bits.test_keep lt]
  · rw [decide_eq_false (by omega), Bool.false_and,
      Bits.test_of_fits (Bits.fits_keep n new) (not_lt.1 lt)]

end Shift

/-! ## Records at the first cycle of a state -/

namespace Registers

/-- The record is at the first cycle of a state, whatever else it holds. -/
structure Begins (state : State) (r : Registers) : Prop where
  state : r.state = state
  cycle : r.cycle = 0
  first : r.first = true
  lastFour : r.lastFour = false

variable {config : Config} {r : Registers} {input : Nat → Int} {level : Nat → Bool}

theorem Begins.timed {state : State} (h : r.Begins state) (config : Config) :
    r = r.timed config 0 := by
  have early : decide ((0 : Int) > config.width - 4) = false := by
    have := config.four_lt_width
    rw [decide_eq_false_iff_not]
    omega
  obtain ⟨-, cycle, first, lastFour⟩ := h
  rw [Registers.timed, Nat.cast_zero, early, beq_self_eq_true, ← cycle, ← first, ← lastFour]

theorem begins_entering {state : State} (choice : r.choice = state) :
    (r.entering config).Begins state where
  state := choice
  cycle := rfl
  first := rfl
  lastFour := by
    have := config.four_lt_width
    simp [entering, timed]
    omega

/-- A state whose cycles leave a sequence `f` of records, each the work of the one before. -/
theorem along_of_work {f : Nat → Registers} (begins : r = r.timed config 0)
    (native : r.Native config ∧ ∀ k < config.width, (f k).Native config)
    (setUp : (r.latched config (level 0)).work config (input 0)
      (Timing.markers (0 : Nat) config.width) = .ok (f 0))
    (work : ∀ k < config.width, ((f k).latched config (level (k + 1))).work config (input (k + 1))
      (Timing.markers (k + 1 : Nat) config.width) = .ok (f (k + 1)))
    (follows : State.Follows config (f config.width).state (f config.width).choice) :
    (∀ k < config.width,
      r.along config input level (k + 1) = .ok ((f k).timed config (k + 1))) ∧
    r.along config input level (config.width + 1) = .ok ((f config.width).entering config) := by
  have inside : ∀ k < config.width,
      r.along config input level (k + 1) = .ok ((f k).timed config (k + 1)) := by
    intro k lt
    induction k with
    | zero =>
      rw [← transition_of_lt config.width_pos native.1 setUp, ← begins]
      rfl
    | succ k ih =>
      rw [along, ih (by omega)]
      exact transition_of_lt lt (native.2 k (by omega)) (work k (by omega))
  refine ⟨inside, ?_⟩
  obtain ⟨k, eq⟩ := Nat.exists_eq_add_one.2 config.width_pos
  have lt : k < config.width := by omega
  have before := inside k lt
  have last := work k lt
  rw [← eq] at before last
  rw [along, before]
  exact transition_of_follows (native.2 k lt) last follows

theorem native_of_state (state : State) (native : state.baseOnly = false) (h : r.state = state) :
    r.Native config := by
  intro _
  rw [h, native]

/-! ## Executions -/

theorem selected_of_operation {operation : Operation} (h : r.operation config = .ok operation) :
    r.selected config = operation := by
  unfold Registers.operation at h
  unfold selected
  cases found : Operation.ofOpcode? config.variant r.opcode with
  | none => simp [found] at h
  | some other => simpa [found] using h

section

variable (hs : r.state = .execute) {operation : Operation}
  (selected : r.operation config = .ok operation)
include hs selected

theorem work_execute (b : Int) (m : Timing.Markers) : r.work config b m =
    if m.first then .ok (Cycle.executeSetUp config operation r)
    else Cycle.executeBit config operation m r := by
  simp only [Registers.work, hs, Cycle.execute, selected]
  rfl

theorem setUp_execute : r.setUp config = Cycle.executeSetUp config operation r := by
  rw [setUp, hs, ← selected_of_operation selected]

variable (level : Nat → Bool) (k : Nat)

theorem opening_execute : r.opening config level k =
    (Cycle.executeSetUp config operation (r.latched config (level 0))).latched config
      (raised level 1 k) := by
  rw [opening, setUp_execute (r := r.latched config (level 0)) hs selected]

/-- The first cycle of an execution and the interrupt line leave all words alone. -/
theorem get_opening_execute (x : Register) (word : x ∈ Register.words) :
    (r.opening config level k).get x = r.get x := by
  rw [opening_execute hs selected]
  revert word
  cases x <;> first | exact fun _ => rfl | exact fun word => absurd word (by decide)

theorem latches_opening_execute : (r.opening config level k).state = .execute ∧
    (r.opening config level k).operation config = .ok operation ∧
    (r.opening config level k).carry = firstCarry operation ∧
    (r.opening config level k).target =
      Instruction.target? config.variant config.width operation r.operand ∧
    (r.opening config level k).choice =
      Cycle.executeChoice config (r.opening config level k) operation := by
  rw [opening_execute hs selected]
  exact ⟨hs, selected, rfl, rfl, rfl⟩

variable (fits : ∀ x ∈ operation.moved (Instruction.target? config.variant config.width operation
  r.operand), Word.Fits config.width (r.get x))
include fits

/-- A data cycle of an execution, whatever the interrupt line has raised so far. -/
theorem work_executed {k : Nat} (lt : k < config.width) (b : Int) :
    (((r.opening config level k).executed config operation k).latched config
        (level (k + 1))).work config b (Timing.markers (k + 1 : Nat) config.width) =
      .ok ((r.opening config level (k + 1)).executed config operation (k + 1)) := by
  obtain ⟨first, last, lastFour⟩ := markers_data k config
  obtain ⟨executing, held, -, target, -⟩ := latches_opening_execute hs selected level (k + 1)
  have moved : ∀ x ∈ operation.moved (r.opening config level (k + 1)).target,
      Word.Fits config.width ((r.opening config level (k + 1)).get x) := by
    intro x member
    rw [get_opening_execute hs selected level _ x (Operation.moved_subset _ _ x member)]
    rw [target] at member
    exact fits x member
  have aimed (aims : operation.aims = true) : (r.opening config level (k + 1)).target ≠ none := by
    rw [target]
    exact isSome_target?_of_aims aims _ _ _
  obtain ⟨state, -, opcode, -⟩ :=
    executed_latches config operation k (r.opening config level (k + 1))
  have holds : ((r.opening config level (k + 1)).executed config operation k).operation config =
      .ok operation := by
    rw [Registers.operation, opcode]
    exact held
  -- What the interrupt line raises may as well have been raised when the state began.
  rw [← executed_latched, ← opening_succ, work_execute (state.trans executing) holds, first]
  exact executeBit_executed lt last lastFour moved aimed

/-- An execution takes the words that its operation moves through the machine, from any record in
which these are words. -/
theorem along_executed (input : Nat → Int) (begins : r = r.timed config 0)
    (acc : Word.Fits config.width r.acc) :
    (∀ k < config.width, r.along config input level (k + 1) =
      .ok (((r.opening config level k).executed config operation k).timed config (k + 1))) ∧
    r.along config input level (config.width + 1) =
      .ok (((r.opening config level config.width).executed config operation config.width).entering
        config) := by
  have running (k : Nat) : ((r.opening config level k).executed config operation k).state =
      .execute := (executed_latches ..).1.trans (latches_opening_execute hs selected level k).1
  refine along_of_work (f := fun k => (r.opening config level k).executed config operation k)
    begins ?native ?setUp (fun k lt => work_executed hs selected level fits lt _) ?follows
  case native =>
    exact ⟨native_of_state .execute rfl hs, fun k _ => native_of_state .execute rfl (running k)⟩
  case setUp =>
    have carry := (latches_opening_execute hs selected level 0).2.2.1
    have same : (r.opening config level 0).acc = r.acc :=
      get_opening_execute hs selected level 0 .acc (by decide)
    rw [executed_zero carry (same ▸ acc), opening_zero,
      work_execute (r := r.latched config (level 0)) hs selected,
      setUp_execute (r := r.latched config (level 0)) hs selected]
    rfl
  case follows =>
    obtain ⟨-, choice, -⟩ :=
      executed_latches config operation config.width (r.opening config level config.width)
    rw [running, choice, (latches_opening_execute hs selected level config.width).2.2.2.2]
    exact follows_executeChoice _ operation

end

/-! ## Operations on accumulator and operand -/

/-- The word registers of two records hold the same. -/
def SameWords (r s : Registers) : Prop :=
  ∀ x ∈ Register.words, r.get x = s.get x

theorem SameWords.loaded {o : Registers} (words : o.SameWords r) :
    o.acc = r.acc ∧ o.operand = r.operand ∧ o.flags = r.flags :=
  ⟨words .acc (by decide), words .operand (by decide), words .flags (by decide)⟩

/-- An operation that turns the operand once around has changed accumulator and flags. -/
theorem SameWords.turned {o e : Registers} (words : o.SameWords r)
    (operand : Word.Fits config.width r.operand) {acc flags : Int}
    (done : e.SameWords { o with
      acc, flags, operand := midway config.width config.width r.operand r.operand }) :
    e.SameWords { r with acc, flags } := by
  rw [Shift.midway_eq_new operand operand] at done
  intro x word
  rw [done x word]
  have same := words x word
  cases x <;> first | rfl | exact same

section Executed

variable {o : Registers} (words : o.SameWords r) (acc : Word.Fits config.width r.acc)
  (operand : Word.Fits config.width r.operand)
include words operand

theorem executed_shift {operation : Operation} {moved : Int} (shifts :
    operation = .lshift ∧ moved = Word.leftBy config.width (ones config.width r.operand)
        (Flag.isSet config.variant .rotate r.flags) r.acc ∨
      operation = .rshift ∧ moved = Word.rightBy config.width (ones config.width r.operand)
        (Flag.isSet config.variant .rotate r.flags) r.acc) :
    (o.executed config operation config.width).SameWords
      { r with acc := moved, flags := r.flags } := by
  obtain ⟨sameAcc, sameOperand, sameFlags⟩ := words.loaded
  apply words.turned operand
  rcases shifts with ⟨rfl, rfl⟩ | ⟨rfl, rfl⟩ <;>
    rw [← sameFlags, ← sameOperand, ← sameAcc] <;> exact fun _ _ => rfl

include acc

theorem executed_sum {operation : Operation} {total flags : Int} (sums :
    operation = .add ∧ total = r.acc + r.operand ∧
        flags = Flag.put config.variant .carry (decide (weight config.width ≤ total)) r.flags ∨
      operation = .sub ∧ total = r.acc - r.operand ∧
        flags = Flag.put config.variant .borrow (decide (r.acc < r.operand)) r.flags) :
    (o.executed config operation config.width).SameWords
      { r with acc := keep config.width total, flags } := by
  obtain ⟨sameAcc, sameOperand, sameFlags⟩ := words.loaded
  apply words.turned operand
  rcases sums with ⟨rfl, rfl, rfl⟩ | ⟨rfl, rfl, rfl⟩ <;>
    simp only [executed, combined, if_true, sameAcc, sameOperand, sameFlags,
      Shift.midway_self acc] <;>
    intro x word <;> cases x <;> first | rfl | exact absurd word (by decide)

end Executed

section

variable (begins : r.Begins .execute) (acc : Word.Fits config.width r.acc)
  (operand : Word.Fits config.width r.operand)
include begins acc operand

/-- What an operation on accumulator and operand makes of the words. -/
theorem exists_along_executed (input : Nat → Int) (level : Nat → Bool) {operation : Operation}
    (selected : r.operation config = .ok operation)
    (moved : ∀ target, operation.moved target = [.acc, .operand]) {a flags : Int}
    (made : ∀ o : Registers, o.SameWords r →
      (o.executed config operation config.width).SameWords { r with acc := a, flags }) :
    ∃ e, r.along config input level (config.width + 1) = .ok e ∧
      e.SameWords { r with acc := a, flags } := by
  refine ⟨_, (along_executed begins.state selected level ?_ input (begins.timed config) acc).2, ?_⟩
  · rw [moved]
    simp [get, acc, operand]
  · intro x word
    rw [← made _ (get_opening_execute begins.state selected level config.width) x word]
    cases x <;> first | rfl | exact absurd word (by decide)

end

/-! ## Sums -/

/-- A record has become another one by a sum: its low bits are in the accumulator, and one flag says
whether it has come out of the words. No other flag and no other word has changed. -/
structure Sums (config : Config) (flag : Flag) (total : Int) (out : Bool) (r e : Registers) :
    Prop where
  acc : e.acc = keep config.width total
  out : Flag.isSet config.variant flag e.flags = out
  flags : ∀ k, Flag.bit? config.variant flag ≠ some k → test k e.flags = test k r.flags
  frame : e.SameWords { r with acc := e.acc, flags := e.flags }

theorem sums_of_put {flag : Flag} {j : Nat} (has : Flag.bit? config.variant flag = some j)
    {total : Int} {out : Bool} {e : Registers}
    (same : e.SameWords { r with
      acc := keep config.width total, flags := Flag.put config.variant flag out r.flags }) :
    Sums config flag total out r e := by
  have acc : e.acc = keep config.width total := same .acc (by decide)
  have flags : e.flags = Flag.put config.variant flag out r.flags := same .flags (by decide)
  constructor
  case acc => exact acc
  case out => rw [flags, Flag.isSet_put_self has]
  case flags =>
    intro k other
    rw [flags, Flag.test_put_of_ne other]
  case frame => rwa [acc, flags]

/-- Only the extended variant subtracts. -/
theorem extended_of_sub (h : r.operation config = .ok .sub) : config.variant = .extended := by
  have selected := selected_of_operation h
  cases variant : config.variant with
  | extended => rfl
  | base =>
    have absent : Operation.sub ∉ Operation.table .base := by decide
    rw [Registers.selected, variant, Operation.ofOpcode?] at selected
    split at selected
    · cases selected
    · cases found : (Operation.table .base)[r.opcode.toNat]? with
      | none => simp [found] at selected
      | some operation =>
        rw [found] at selected
        exact absurd (selected ▸ List.mem_of_getElem? found) absent

section

variable (begins : r.Begins .execute) (acc : Word.Fits config.width r.acc)
  (operand : Word.Fits config.width r.operand)
include begins acc operand

theorem sums_add (input : Nat → Int) (level : Nat → Bool)
    (selected : r.operation config = .ok .add) :
    ∃ e, r.along config input level (config.width + 1) = .ok e ∧
      Sums config .carry (r.acc + r.operand)
        (decide (weight config.width ≤ r.acc + r.operand)) r e := by
  have has : Flag.bit? config.variant .carry = some 0 := by cases config.variant <;> rfl
  obtain ⟨e, along, same⟩ := exists_along_executed begins acc operand input level
    selected (fun _ => rfl) fun _ words => executed_sum words acc operand (.inl ⟨rfl, rfl, rfl⟩)
  exact ⟨e, along, sums_of_put has same⟩

theorem sums_sub (input : Nat → Int) (level : Nat → Bool)
    (selected : r.operation config = .ok .sub) :
    ∃ e, r.along config input level (config.width + 1) = .ok e ∧
      Sums config .borrow (r.acc - r.operand) (decide (r.acc < r.operand)) r e := by
  have has : Flag.bit? config.variant .borrow = some 1 := by rw [extended_of_sub selected]; rfl
  obtain ⟨e, along, same⟩ := exists_along_executed begins acc operand input level
    selected (fun _ => rfl) fun _ words => executed_sum words acc operand (.inr ⟨rfl, rfl, rfl⟩)
  exact ⟨e, along, sums_of_put has same⟩

end

/-! ## Counting up -/

/-- A record has become another one while it was counting its program counter up, and the sum was on
the address line bit by bit. A sum that comes out of the words starts over; bits of the program
counter above the word are laid over it. -/
structure CountsUp (config : Config) (input : Nat → Int) (level : Nat → Bool) (r e : Registers) :
    Prop where
  quiet : r.drive config = .ok {}
  driven : ∀ k < config.width, ∃ s, r.along config input level (k + 1) = .ok s ∧
    s.drive config = .ok (.address (bit k (keep config.width (r.pc + 1))))
  pc : Word.Fits config.width r.pc → e.pc = keep config.width (r.pc + 1)
  above : ∀ j, test j e.pc =
    (test (config.width + j) r.pc || test j (keep config.width (r.pc + 1)))
  frame : e.SameWords { r with pc := e.pc }

/-- The record whose program counter is counted up, after `k` data cycles. -/
def counting (config : Config) (level : Nat → Bool) (r : Registers) (k : Nat) : Registers :=
  { r.latched config (raised level 0 (k + 1)) with
    choice := .fetch, carry := Adder.carryInto k r.pc 0 1
    pc := Shift.taken config.width r.pc (r.pc + 1) k }

theorem counting_latched (config : Config) (level : Nat → Bool) (r : Registers) (k : Nat) :
    (r.counting config level k).latched config (level (k + 1)) =
      { r.counting config level (k + 1) with
        carry := Adder.carryInto k r.pc 0 1
        pc := Shift.taken config.width r.pc (r.pc + 1) k } := by
  simp only [counting, latched, raised_succ level 0 (k + 1), Nat.zero_add,
    Bool.and_or_distrib_left, Bool.or_assoc]

section

variable (begins : r.Begins .advance)
include begins

theorem work_counting {k : Nat} (lt : k < config.width) (b : Int) :
    ((r.counting config level k).latched config (level (k + 1))).work config b
      (Timing.markers (k + 1 : Nat) config.width) = .ok (r.counting config level (k + 1)) := by
  have first := (markers_data k config).1
  have state : (r.counting config level (k + 1)).state = .advance := begins.state
  rw [counting_latched]
  simp only [work, state, Cycle.advance, first, Bool.false_eq_true, if_false, Shift.low_taken lt,
    Adder.add_zero_carryInto]
  rw [← state]
  rfl

theorem drive_counting {k : Nat} (lt : k < config.width) :
    ((r.counting config level k).timed config (k + 1)).drive config =
      .ok (.address (bit k (keep config.width (r.pc + 1)))) := by
  have state : ((r.counting config level k).timed config (k + 1)).state = .advance := begins.state
  have first : ((r.counting config level k).timed config (k + 1)).first = false := rfl
  have sum : (Adder.add (Bits.low (r.counting config level k).pc) 0
      (r.counting config level k).carry).1 = bit k (keep config.width (r.pc + 1)) := by
    rw [counting, Shift.low_taken lt, Adder.add_zero_carryInto]
    exact (Bits.bit_eq_of_test_eq (Bits.test_keep lt _)).symm
  rw [drive, Drive.data, state, first, ← sum]
  rfl

theorem along_counting (input : Nat → Int) (level : Nat → Bool) :
    (∀ k < config.width, r.along config input level (k + 1) =
      .ok ((r.counting config level k).timed config (k + 1))) ∧
    r.along config input level (config.width + 1) =
      .ok ((r.counting config level config.width).entering config) := by
  have native (s : Registers) (state : s.state = .advance) : s.Native config :=
    native_of_state .advance rfl state
  refine along_of_work (f := r.counting config level) (begins.timed config) ?native ?setUp
    (fun k lt => work_counting begins lt (input (k + 1))) ?follows
  case native => exact ⟨native r begins.state, fun k _ => native _ begins.state⟩
  case setUp =>
    have state : (r.latched config (level 0)).state = .advance := begins.state
    have first : (Timing.markers (0 : Nat) config.width).first = true := rfl
    have level : raised level 0 (0 + 1) = level 0 := by simp [raised]
    simp only [work, state, Cycle.advance, first, if_true, counting, level, Adder.carryInto_zero]
    rw [← state]
    rfl
  case follows =>
    rw [show (r.counting config level config.width).state = .advance from begins.state]
    exact ⟨by simp [counting, State.successors], fun _ => rfl,
      fun _ h => absurd h.1 (by decide)⟩

theorem exists_counts_up (input : Nat → Int) (level : Nat → Bool) :
    ∃ e, r.along config input level (config.width + 1) = .ok e ∧
      CountsUp config input level r e := by
  obtain ⟨inside, whole⟩ := along_counting begins input level
  refine ⟨_, whole, ?_⟩
  constructor
  case quiet =>
    rw [begins.timed config, drive_first, begins.state]
    rfl
  case driven => exact fun k lt => ⟨_, inside k lt, drive_counting begins lt⟩
  case pc => exact fun fits => Shift.taken_self fits (r.pc + 1)
  case above => exact fun j => Shift.test_taken_self config.width r.pc (r.pc + 1) j
  case frame =>
    intro x word
    cases x <;> first | rfl | exact absurd word (by decide)

end

/-- The serial adder adds, subtracts and counts whole words, from any record, on any input bits and
any levels of the interrupt line. -/
theorem sums_words (config : Config) (r : Registers) (input : Nat → Int) (level : Nat → Bool) :
    (r.Begins .execute → Word.Fits config.width r.acc → Word.Fits config.width r.operand →
      (r.operation config = .ok .add →
        ∃ e, r.along config input level (config.width + 1) = .ok e ∧
          Sums config .carry (r.acc + r.operand)
            (decide (weight config.width ≤ r.acc + r.operand)) r e) ∧
      (r.operation config = .ok .sub →
        ∃ e, r.along config input level (config.width + 1) = .ok e ∧
          Sums config .borrow (r.acc - r.operand) (decide (r.acc < r.operand)) r e)) ∧
    (r.Begins .advance →
      ∃ e, r.along config input level (config.width + 1) = .ok e ∧
        CountsUp config input level r e) :=
  ⟨fun begins acc operand =>
      ⟨sums_add begins acc operand input level, sums_sub begins acc operand input level⟩,
    fun begins => exists_counts_up begins input level⟩

/-- On eight bits, 200 and 100 make 44 and a carry, 5 less 7 makes 254 and a borrow, and 255 counts
up to 0. -/
theorem sums_words_bytes :
    let base : Config := { width := 8 }
    let extended : Config := { width := 8, variant := .extended }
    let line (k : Nat) : Int := k
    let irq (k : Nat) : Bool := k == 5
    let sum : Registers := { state := .execute, opcode := 3, acc := 200, operand := 100 }
    let difference : Registers := { state := .execute, opcode := 5, acc := 5, operand := 7 }
    let count : Registers := { state := .advance, pc := 255 }
    (∃ e, sum.along base line irq 9 = .ok e ∧ Sums base .carry 300 true sum e) ∧
      (∃ e, difference.along extended line irq 9 = .ok e ∧
        Sums extended .borrow (-2) true difference e) ∧
      ∃ e, count.along base line irq 9 = .ok e ∧ CountsUp base line irq count e ∧ e.pc = 0 := by
  intro base extended line irq sum difference count
  refine ⟨?_, ?_, ?_⟩
  · exact ((sums_words base sum line irq).1 ⟨rfl, rfl, rfl, rfl⟩ ⟨by decide, by decide⟩
      ⟨by decide, by decide⟩).1 rfl
  · exact ((sums_words extended difference line irq).1 ⟨rfl, rfl, rfl, rfl⟩ ⟨by decide, by decide⟩
      ⟨by decide, by decide⟩).2 rfl
  · obtain ⟨e, along, counts⟩ := (sums_words base count line irq).2 ⟨rfl, rfl, rfl, rfl⟩
    exact ⟨e, along, counts, (counts.pc ⟨by decide, by decide⟩).trans (by decide)⟩

/-- A program counter that is no word keeps the bits above the word: 257 on eight bits counts up to
3, with the 2 that was driven laid over the 1 that moved down. -/
theorem counting_overlaid : ¬∀ (config : Config) (r : Registers) (input : Nat → Int)
    (level : Nat → Bool), r.Begins .advance →
      ∃ e, r.along config input level (config.width + 1) = .ok e ∧
        e.pc = keep config.width (r.pc + 1) := by
  intro counts
  obtain ⟨e, along, pc⟩ := counts { width := 8 } { state := .advance, pc := 257 } (fun _ => 0)
    (fun _ => false) ⟨rfl, rfl, rfl, rfl⟩
  have counted : (Registers.along { width := 8 } (fun _ => 0) (fun _ => false) 9
      { state := .advance, pc := 257 }).map (·.pc) = .ok 3 := by decide +kernel
  rw [along, Except.map, pc] at counted
  exact absurd counted (by decide)

/-! ## Shifts -/

theorem exists_shifted (begins : r.Begins .execute) (acc : Word.Fits config.width r.acc)
    (operand : Word.Fits config.width r.operand) (input : Nat → Int) (level : Nat → Bool)
    {operation : Operation} (selected : r.operation config = .ok operation)
    (words : ∀ target, operation.moved target = [.acc, .operand]) {moved : Int} (shifts :
      operation = .lshift ∧ moved = Word.leftBy config.width (ones config.width r.operand)
          (Flag.isSet config.variant .rotate r.flags) r.acc ∨
        operation = .rshift ∧ moved = Word.rightBy config.width (ones config.width r.operand)
          (Flag.isSet config.variant .rotate r.flags) r.acc) :
    ∃ e, r.along config input level (config.width + 1) = .ok e ∧ e.acc = moved ∧
      e.SameWords { r with acc := e.acc } := by
  obtain ⟨e, along, same⟩ := exists_along_executed begins acc operand input level selected words
    fun _ loaded => executed_shift loaded operand shifts
  have arrived : e.acc = moved := same .acc (by decide)
  exact ⟨e, along, arrived, arrived ▸ same⟩

/-- A shift moves the accumulator once for every one in the operand, wherever the ones lie, and
changes no other word. -/
theorem shifts_words (config : Config) (r : Registers) (input : Nat → Int) (level : Nat → Bool)
    (begins : r.Begins .execute) (acc : Word.Fits config.width r.acc)
    (operand : Word.Fits config.width r.operand) :
    let count := ones config.width r.operand
    let around := Flag.isSet config.variant .rotate r.flags
    (r.operation config = .ok .lshift →
      ∃ e, r.along config input level (config.width + 1) = .ok e ∧
        e.SameWords { r with acc := e.acc } ∧
        (around = false → e.acc = keep config.width (r.acc * weight count)) ∧
        (around = true → Word.Rotated config.width count r.acc e.acc)) ∧
    (r.operation config = .ok .rshift →
      ∃ e, r.along config input level (config.width + 1) = .ok e ∧
        e.SameWords { r with acc := e.acc } ∧
        (around = false → e.acc = r.acc / weight count) ∧
        (around = true → Word.Rotated config.width count e.acc r.acc)) := by
  intro count around
  constructor
  · intro selected
    obtain ⟨e, along, (moved : e.acc = Word.leftBy config.width count around r.acc), frame⟩ :=
      exists_shifted begins acc operand input level selected (fun _ => rfl) (.inl ⟨rfl, rfl⟩)
    refine ⟨e, along, frame, fun straight => ?_, fun turned => ?_⟩
    · rw [moved, straight]
      rfl
    · rw [moved, turned]
      exact Word.rotated_leftBy config.width_pos acc count
  · intro selected
    obtain ⟨e, along, (moved : e.acc = Word.rightBy config.width count around r.acc), frame⟩ :=
      exists_shifted begins acc operand input level selected (fun _ => rfl) (.inr ⟨rfl, rfl⟩)
    refine ⟨e, along, frame, fun straight => ?_, fun turned => ?_⟩
    · rw [moved, straight, ← Bits.drop_eq_div]
      rfl
    · rw [moved, turned]
      exact Word.rotated_rightBy config.width_pos acc count

/-- Three ones in the operand move a byte three places. -/
theorem shifts_words_bytes :
    let config : Config := { width := 8 }
    let line (k : Nat) : Int := k
    let irq (k : Nat) : Bool := k == 5
    let left : Registers := { state := .execute, opcode := 4, acc := 150, operand := 161 }
    let right : Registers :=
      { state := .execute, opcode := 5, acc := 150, operand := 161, flags := 16 }
    (∃ e, left.along config line irq 9 = .ok e ∧ e.SameWords { left with acc := 176 }) ∧
      ∃ e, right.along config line irq 9 = .ok e ∧ e.SameWords { right with acc := e.acc } ∧
        Word.Rotated 8 3 e.acc 150 := by
  intro config line irq left right
  constructor
  · obtain ⟨e, along, same, straight, -⟩ := (shifts_words config left line irq
      ⟨rfl, rfl, rfl, rfl⟩ ⟨by decide, by decide⟩ ⟨by decide, by decide⟩).1 rfl
    have moved : e.acc = 176 := (straight rfl).trans (by decide)
    exact ⟨e, along, moved ▸ same⟩
  · obtain ⟨e, along, same, -, turned⟩ := (shifts_words config right line irq
      ⟨rfl, rfl, rfl, rfl⟩ ⟨by decide, by decide⟩ ⟨by decide, by decide⟩).2 rfl
    exact ⟨e, along, same, turned rfl⟩

end Registers

end SerialMachine
