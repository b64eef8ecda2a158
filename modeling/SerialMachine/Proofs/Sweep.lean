import SerialMachine.Proofs.Execution
import SerialMachine.Proofs.Transfers

/-!
# A state from end to end

A state is one cycle that sets up and one cycle for each bit. `Registers.setUp` is the record after
the first, `Registers.swept` the record after `k` of the others, when the word `w` is what arrives.
Main statements: every data cycle goes from `k` bits to `k + 1`, and what it drives is bit `k` of
the state's `Traffic`.
-/

namespace SerialMachine

open Bits (bit drop keep test weight)
open Shift (midway)

namespace Registers

/-- The operation that the opcode latch selects, if it selects one. -/
def selected (config : Config) (r : Registers) : Operation :=
  (Operation.ofOpcode? config.variant r.opcode).getD .unused

/-- The record after the first cycle of its state. -/
def setUp (config : Config) (r : Registers) : Registers :=
  match r.state with
  | .reset =>
    { r with
      choice := .fetch, opcode := 0, carry := 0, dispatch := false, indirected := false
      target := none, matching := false, irq := false }
  | .fetch =>
    if r.dispatch then
      { r with
        flags := Flag.put .extended .halt false (Flag.put .extended .interruptEnable false r.flags)
        irq := false, choice := .fetch }
    else
      { r with
        flags := Flag.counted config.variant config.width 0 r.acc r.flags
        indirected := false, choice := .execute
        carry := if config.extended then 1 else r.carry
        matching := config.extended || r.matching }
  | .indirect => { r with choice := .operand, indirected := true }
  | .operand => { r with choice := .execute }
  | .execute => Cycle.executeSetUp config (r.selected config) r
  | .store | .load => { r with choice := .advance }
  | .advance => { r with carry := 1, choice := .fetch }
  | .halt => { r with choice := .halt }

/-- The words of a fetch when `k` bits of the instruction word have arrived. -/
def fetchedWords (config : Config) (w : Int) (k : Nat) (r : Registers) : Registers :=
  let n := config.width
  { r with
    acc := midway n k r.acc r.acc
    flags := Flag.counted config.variant n k r.acc r.flags
    operand := Shift.shortened n k r.operand w
    opcode := if k ≤ n - 4 then r.opcode else midway 4 (k - (n - 4)) r.opcode (drop (n - 4) w) }

/-- The timer of a fetch when `k` of its bits have been counted up and compared. -/
def fetchedTimer (config : Config) (k : Nat) (r : Registers) : Registers :=
  let n := config.width
  let matching := keep k (r.timer + 1) == keep k r.compare
  { r with
    carry := Adder.carryInto k r.timer 0 1
    matching
    timer := midway n k r.timer (r.timer + 1)
    compare := midway n k r.compare r.compare
    irq := r.irq || (k == n && matching && Flag.isSet config.variant .timerEnable r.flags) }

/-- The record of a fetch after `k` data cycles. -/
def fetched (config : Config) (w : Int) (k : Nat) (r : Registers) : Registers :=
  let words := r.fetchedWords config w k
  let counted := if config.extended then words.fetchedTimer config k else words
  if k = config.width then Cycle.fetchChoice config (bit (k - 1) w) counted else counted

/-- The record after `k` data cycles of its state, in which the word `w` arrives. -/
def swept (config : Config) (w : Int) (k : Nat) (r : Registers) : Registers :=
  let n := config.width
  match r.state with
  | .reset =>
    { r with
      acc := midway n k r.acc 0, pc := midway n k r.pc 0, operand := midway n k r.operand 0
      flags := midway n k r.flags 0, shadow := midway n k r.shadow 0
      timer := midway n k r.timer 0, compare := midway n k r.compare 0 }
  | .fetch =>
    if r.dispatch then
      { r with
        pc := midway n k r.pc r.shadow, shadow := midway n k r.shadow r.pc, dispatch := k != n }
    else r.fetched config w k
  | .indirect => { r with operand := midway n k r.operand r.operand }
  | .operand => { r with operand := midway n k r.operand w }
  | .execute => r.executed config (r.selected config) k
  | .store => { r with acc := midway n k r.acc r.acc }
  | .load => { r with acc := midway n k r.acc w }
  | .advance =>
    { r with carry := Adder.carryInto k r.pc 0 1, pc := midway n k r.pc (r.pc + 1) }
  | .halt =>
    if k = n ∧ config.extended ∧ Flag.isSet config.variant .interruptEnable r.flags ∧ r.irq then
      { r with dispatch := true, choice := .fetch }
    else r

/-- What the data cycles of an operation do on the bus. -/
def executeTraffic (config : Config) (operation : Operation) (r : Registers) : Traffic :=
  match operation with
  | .load | .loadc | .store | .storec | .jump => .address r.operand
  | .jumpz => if r.jumpTaken config then .address r.operand else .quiet
  | .get | .set =>
    if r.target = some .io then .address r.operand
    else if r.target = some .pc then .address r.acc
    else .quiet
  | _ => .quiet

/-- What the data cycles of a state do on the bus. -/
def traffic (config : Config) (r : Registers) : Traffic :=
  match r.state with
  | .reset => .address 0
  | .fetch => if r.dispatch then .address r.shadow else .input
  | .indirect => .address r.operand
  | .operand | .load => .input
  | .execute => r.executeTraffic config (r.selected config)
  | .store => .output r.acc
  | .advance => .address (r.pc + 1)
  | .halt => .halted

/-- The record is what the first cycle of a state leaves behind. -/
structure Opened (config : Config) (r : Registers) : Prop where
  coherent : r.Coherent config True
  advance : r.state = .advance → r.carry = 1
  halt : r.state = .halt → r.choice = .halt
  execute : r.state = .execute → r.carry = firstCarry (r.selected config) ∧
    r.target = Instruction.target? config.variant config.width (r.selected config) r.operand ∧
    r.choice = Cycle.executeChoice config r (r.selected config)
  dispatch : r.state = .fetch → r.dispatch = true → r.choice = .fetch
  fetch : r.state = .fetch → r.dispatch = false →
    Flag.counted config.variant config.width 0 r.acc r.flags = r.flags
  timer : r.state = .fetch → r.dispatch = false → config.extended = true →
    r.carry = 1 ∧ r.matching = true

variable {config : Config} {r : Registers} {k : Nat} {w : Int}

theorem Coherent.operation {begun : Prop} (h : r.Coherent config begun) :
    r.operation config = .ok (r.selected config) := by
  obtain ⟨operation, ho⟩ := exists_operation config h.opcode
  unfold Registers.operation at ho ⊢
  unfold selected
  cases found : Operation.ofOpcode? config.variant r.opcode with
  | none => simp [found] at ho
  | some operation => rfl

/-- The state after the execution of an operation, operation by operation. -/
theorem executeChoice_eq (config : Config) (r : Registers) (operation : Operation) :
    Cycle.executeChoice config r operation =
      match operation with
      | .load | .loadc => .load
      | .store | .storec => .store
      | .jump => .fetch
      | .jumpz => if r.jumpTaken config then .fetch else .advance
      | .get =>
        if r.target = some .io then .load else if r.target = some .pc then .fetch else .advance
      | .set =>
        if r.target = some .io then .store else if r.target = some .pc then .fetch else .advance
      | _ => .advance := by
  cases operation <;>
    simp [Cycle.executeChoice, Operation.loads, Operation.stores, Operation.exchanges]

theorem operation_executed {begun : Prop} (h : r.Coherent config begun) (operation : Operation)
    (k : Nat) : (r.executed config operation k).operation config = .ok (r.selected config) := by
  obtain ⟨-, -, opcode, -⟩ := executed_latches config operation k r
  rw [Registers.operation, opcode]
  exact h.operation

/-! ## The first cycle -/

section

variable (state : r.state = .fetch) (plain : r.dispatch = false)
include state plain

theorem setUp_fetch : r.setUp config = Cycle.fetchSetUp config r := by
  simp only [setUp, state, plain, Bool.false_eq_true, if_false, fetchSetUp_eq]

theorem work_setUp_fetch (bit : Int) :
    r.work config bit (Timing.markers 0 config.width) = .ok (r.setUp config) := by
  have first : (Timing.markers 0 config.width).first = true := rfl
  rw [setUp_fetch state plain, work, state]
  simp only [Cycle.fetch, plain, Bool.false_eq_true, if_false, first, if_true]

theorem counted_setUp : Flag.counted config.variant config.width 0 (r.setUp config).acc
    (r.setUp config).flags = (r.setUp config).flags := by
  simp only [setUp, state, plain, Bool.false_eq_true, if_false]
  exact Flag.counted_counted ..

theorem timer_setUp (extended : config.extended = true) :
    (r.setUp config).carry = 1 ∧ (r.setUp config).matching = true := by
  simp only [setUp, state, plain, Bool.false_eq_true, if_false, extended]
  exact ⟨rfl, rfl⟩

theorem setUp_latched_fetch (irq : Bool) :
    (r.latched config irq).setUp config = (r.setUp config).latched config irq := by
  simp only [setUp, latched, state, plain, Bool.false_eq_true, if_false]

end

theorem work_setUp {begun : Prop} (h : r.Coherent config begun) (bit : Int) :
    r.work config bit (Timing.markers 0 config.width) = .ok (r.setUp config) := by
  have first : (Timing.markers 0 config.width).first = true := rfl
  cases hs : r.state with
  | reset => simp only [work, setUp, hs, Cycle.reset, first, if_true]
  | fetch =>
    cases hd : r.dispatch with
    | true => simp only [work, setUp, hs, Cycle.fetch, hd, if_true, Cycle.dispatch, first]
    | false => exact work_setUp_fetch hs hd bit
  | indirect => simp only [work, setUp, hs, Cycle.indirect, first, if_true]
  | operand => simp only [work, setUp, hs, Cycle.operand, first, if_true]
  | execute =>
    simp only [work, setUp, hs, Cycle.execute, h.operation, first, if_true]
    rfl
  | store => simp only [work, setUp, hs, Cycle.store, first, if_true]
  | load => simp only [work, setUp, hs, Cycle.load, first, if_true]
  | advance => simp only [work, setUp, hs, Cycle.advance, first, if_true]
  | halt =>
    have early : (Timing.markers 0 config.width).last = false := by
      have := config.width_pos
      simp [Timing.markers]
      omega
    simp only [work, setUp, hs, Cycle.halt, early, Bool.false_and, Bool.false_eq_true, if_false]

/-- The first cycle of a state moves no program counter and no operand. -/
theorem setUp_frame (config : Config) (r : Registers) :
    (r.setUp config).state = r.state ∧ (r.setUp config).pc = r.pc ∧
      (r.setUp config).operand = r.operand ∧
      (r.setUp config).dispatch = (r.dispatch && r.state != .reset) := by
  cases hs : r.state with
  | reset => simp [setUp, hs]
  | fetch => cases hd : r.dispatch <;> simp [setUp, hs, hd]
  | execute => simp [setUp, hs, Cycle.executeSetUp]
  | _ => simp [setUp, hs]

theorem opened_setUp (h : r.Coherent config False) : (r.setUp config).Opened config := by
  have first : (Timing.markers 0 config.width).first = true := rfl
  obtain ⟨worked, work, same, coherent, -⟩ :=
    (show r.Coherent config ((Timing.markers 0 config.width).first = false) by
      simpa [first] using h).work 0
  obtain rfl : r.setUp config = worked := Except.ok.inj ((work_setUp h 0).symm.trans work)
  obtain ⟨state, -, -, dispatch⟩ := setUp_frame config r
  have plain (hs : r.state = .fetch) (hd : (r.setUp config).dispatch = false) :
      r.dispatch = false := by
    simpa [dispatch, hs] using hd
  constructor
  case coherent => exact coherent
  case advance | halt =>
    intro hs
    rw [state] at hs
    simp only [setUp, hs]
  case execute =>
    intro hs
    rw [state] at hs
    simp only [setUp, hs, Cycle.executeSetUp]
    exact ⟨rfl, rfl, rfl⟩
  case dispatch =>
    intro hs hd
    rw [state] at hs
    have going : r.dispatch = true := by simpa [dispatch, hs] using hd
    simp only [setUp, hs, going, if_true]
  case fetch =>
    intro hs hd
    rw [state] at hs
    exact counted_setUp hs (plain hs hd)
  case timer =>
    intro hs hd extended
    rw [state] at hs
    exact timer_setUp hs (plain hs hd) extended

/-! ## A data cycle -/

theorem fetched_zero (counted : Flag.counted config.variant config.width 0 r.acc r.flags = r.flags)
    (timer : config.extended = true → r.carry = 1 ∧ r.matching = true) (w : Int) :
    r.fetched config w 0 = r := by
  have early : ¬0 = config.width := by
    have := config.width_pos
    omega
  have words : r.fetchedWords config w 0 = r := by
    simp only [fetchedWords, Shift.midway_zero, Shift.shortened_zero, counted, Nat.zero_le, if_true]
  rw [fetched, words, if_neg early]
  split
  · next extended =>
    obtain ⟨carry, matching⟩ := timer extended
    have never : (0 == config.width) = false := by simpa using early
    simp only [fetchedTimer, Adder.carryInto_zero, Bits.keep_zero, Shift.midway_zero, never,
      Bool.false_and, Bool.or_false, beq_self_eq_true, ← carry, ← matching]
  · rfl

theorem swept_zero (h : r.Opened config) (w : Int) : r.swept config w 0 = r := by
  have early : ¬0 = config.width := by
    have := config.width_pos
    omega
  unfold swept
  cases hs : r.state with
  | fetch =>
    cases hd : r.dispatch with
    | true =>
      have going : (0 != config.width) = true := by simpa using early
      simp only [Shift.midway_zero, going, if_true, ← hs, ← hd]
    | false => exact fetched_zero (h.fetch hs hd) (h.timer hs hd) w
  | execute => exact executed_zero (h.execute hs).1 h.coherent.words.acc
  | advance => simp only [Shift.midway_zero, Adder.carryInto_zero, ← hs, ← h.advance hs]
  | halt => simp only [early, false_and, if_false]
  | _ => simp only [Shift.midway_zero, ← hs]

theorem fetchBit_fetchFlags (config : Config) (b : Int) (m : Timing.Markers) (r : Registers) :
    Cycle.fetchBit config b m (Cycle.fetchFlags config r) =
      { r with
        acc := Shift.rotate config.width r.acc
        flags :=
          if test 0 r.acc then
            Flag.toggle config.variant .parity (Flag.put config.variant .zero false r.flags)
          else r.flags
        operand :=
          if m.lastFour then drop 1 r.operand else Shift.enter config.width r.operand b
        opcode := if m.lastFour then Shift.enter 4 r.opcode b else r.opcode } := by
  unfold Cycle.fetchBit
  cases m.lastFour <;> rfl

theorem fetchChoice_congr {b c : Int} (h : test 0 b = test 0 c) (r : Registers) :
    Cycle.fetchChoice config b r = Cycle.fetchChoice config c r := by
  rw [fetchChoice_eq, fetchChoice_eq, h]

section DataCycle

variable {m : Timing.Markers} (lt : k < config.width) (first : m.first = false)
  (last : m.last = decide (k + 1 = config.width))
  (lastFour : m.lastFour = decide (config.width - 4 ≤ k))

include lt lastFour in
/-- One more bit of the instruction word arrives, whatever the timer has come to. -/
theorem fetchBit_fetchedWords (words : r.Words config.width) (opcode : Word.Fits 4 r.opcode)
    {b : Int} (arrives : test 0 b = test k w) (carry timer compare : Int) (matching irq : Bool) :
    Cycle.fetchBit config b m (Cycle.fetchFlags config
        { r.fetchedWords config w k with carry, timer, compare, matching, irq }) =
      { r.fetchedWords config w (k + 1) with carry, timer, compare, matching, irq } := by
  have leaving : test 0 (midway config.width k r.acc r.acc) = test k r.acc :=
    Shift.test_midway (j := 0) lt r.acc r.acc
  have operand : (if m.lastFour then drop 1 (Shift.shortened config.width k r.operand w)
      else Shift.enter config.width (Shift.shortened config.width k r.operand w) b) =
      Shift.shortened config.width (k + 1) r.operand w := by
    rw [lastFour]
    by_cases le : config.width - 4 ≤ k
    · rw [if_pos (by simpa using le), Shift.drop_shortened le]
    · rw [if_neg (by simpa using le), Shift.enter_shortened (by omega) words.operand arrives]
  have nibble : (if m.lastFour then Shift.enter 4
        (if k ≤ config.width - 4 then r.opcode else
          midway 4 (k - (config.width - 4)) r.opcode (drop (config.width - 4) w)) b
      else if k ≤ config.width - 4 then r.opcode else
        midway 4 (k - (config.width - 4)) r.opcode (drop (config.width - 4) w)) =
      if k + 1 ≤ config.width - 4 then r.opcode else
        midway 4 (k + 1 - (config.width - 4)) r.opcode (drop (config.width - 4) w) := by
    rw [lastFour]
    by_cases le : config.width - 4 ≤ k
    · have place : k + 1 - (config.width - 4) = k - (config.width - 4) + 1 := by omega
      have latched : (if k ≤ config.width - 4 then r.opcode else
          midway 4 (k - (config.width - 4)) r.opcode (drop (config.width - 4) w)) =
          midway 4 (k - (config.width - 4)) r.opcode (drop (config.width - 4) w) := by
        split
        · rw [show k - (config.width - 4) = 0 by omega, Shift.midway_zero]
        · rfl
      have enters : test 0 b = test (k - (config.width - 4)) (drop (config.width - 4) w) := by
        rw [arrives, Bits.test_drop, Nat.add_sub_cancel' le]
      rw [if_pos (by simpa using le), latched, if_neg (show ¬k + 1 ≤ config.width - 4 by omega),
        place, Shift.enter_midway (by omega) opcode enters]
    · rw [if_neg (by simpa using le), if_pos (show k ≤ config.width - 4 by omega),
        if_pos (show k + 1 ≤ config.width - 4 by omega)]
  rw [fetchBit_fetchFlags]
  simp only [fetchedWords, leaving, Flag.counted_succ, operand, nibble,
    Shift.rotate_midway lt words.acc]

include lt last in
/-- One more bit of the timer is counted up and compared. -/
theorem fetchTimer_fetchedTimer (timer : Word.Fits config.width r.timer)
    (compare : Word.Fits config.width r.compare) :
    Cycle.fetchTimer config m (r.fetchedTimer config k) = r.fetchedTimer config (k + 1) := by
  have early : (k == config.width) = false := by simpa using lt.ne
  have due : m.last = (k + 1 == config.width) := by
    rw [last, Bool.eq_iff_iff]
    simp
  simp only [Cycle.fetchTimer, fetchedTimer, Shift.low_midway lt, Adder.add_zero_carryInto, early,
    due, Bool.false_and, Bool.or_false, Bits.keep_succ_beq, Shift.rotate_midway lt compare,
    Shift.enter_midway lt timer (Bits.test_zero_bit k _)]

include lt first last lastFour in
theorem fetch_fetched (words : r.Words config.width) (opcode : Word.Fits 4 r.opcode)
    (hd : r.dispatch = false) {b : Int} (arrives : test 0 b = test k w) :
    Cycle.fetch config b m (r.fetched config w k) = r.fetched config w (k + 1) := by
  have more : ¬k = config.width := lt.ne
  have early : (k == config.width) = false := by simpa using more
  have choice (s : Registers) : Cycle.fetchChoice config b s =
      Cycle.fetchChoice config (bit (k + 1 - 1) w) s := by
    rw [Nat.add_sub_cancel]
    exact fetchChoice_congr (arrives.trans (Bits.test_zero_bit k w).symm) s
  have bits := fetchBit_fetchedWords lt lastFour words opcode arrives
  have commit (s : Registers) : (if m.last then Cycle.fetchChoice config b s else s) =
      if k + 1 = config.width then Cycle.fetchChoice config (bit (k + 1 - 1) w) s else s := by
    simp only [last, decide_eq_true_eq, choice]
  rw [fetched, fetched, if_neg more]
  cases extended : config.extended with
  | true =>
    have counted : Cycle.fetchBit config b m
        (Cycle.fetchFlags config ((r.fetchedWords config w k).fetchedTimer config k)) =
        (r.fetchedWords config w (k + 1)).fetchedTimer config k := by
      simp only [fetchedTimer, early, Bool.false_and]
      exact bits ..
    have ticked := fetchTimer_fetchedTimer (r := r.fetchedWords config w (k + 1)) lt last
      words.timer words.compare
    have plain : ((r.fetchedWords config w k).fetchedTimer config k).dispatch = false := hd
    simp only [if_true, Cycle.fetch, plain, first, Bool.false_eq_true, if_false, extended, counted,
      ticked, commit]
  | false =>
    have counted : Cycle.fetchBit config b m (Cycle.fetchFlags config (r.fetchedWords config w k)) =
        r.fetchedWords config w (k + 1) := bits ..
    have plain : (r.fetchedWords config w k).dispatch = false := hd
    simp only [Cycle.fetch, plain, first, Bool.false_eq_true, if_false, extended, counted, commit]

include lt first last lastFour in
/-- A data cycle takes one more bit through the machine. -/
theorem work_swept (h : r.Opened config) {b : Int}
    (arrives : r.traffic config = .input → test 0 b = test k w) :
    (r.swept config w k).work config b m = .ok (r.swept config w (k + 1)) := by
  have words := h.coherent.words
  have more : ¬k = config.width := lt.ne
  unfold swept
  cases hs : r.state with
  | reset =>
    have zeroed {word : Int} (fits : Word.Fits config.width word) :
        Shift.enter config.width (midway config.width k word 0) 0 =
          midway config.width (k + 1) word 0 :=
      Shift.enter_midway lt fits (by rw [Bits.test_of_zero, Bits.test_of_zero])
    simp only [work, Cycle.reset, first, Bool.false_eq_true, if_false, zeroed words.acc,
      zeroed words.pc, zeroed words.operand, zeroed words.flags, zeroed words.shadow,
      zeroed words.timer, zeroed words.compare]
  | fetch =>
    cases hd : r.dispatch with
    | true =>
      have going : (!m.last) = (k + 1 != config.width) := by
        rw [last, Bool.eq_iff_iff]
        simp
      have dispatching : (k != config.width) = true := by simpa using more
      have exchanged {old new : Int} (fits : Word.Fits config.width old) :
          Shift.enter config.width (midway config.width k old new)
            (midway config.width k new old) = midway config.width (k + 1) old new :=
        Shift.enter_midway lt fits (Shift.test_midway (j := 0) lt new old)
      simp only [if_true, work, Cycle.fetch, dispatching, Cycle.dispatch, first,
        Bool.false_eq_true, if_false, exchanged words.pc, exchanged words.shadow, going]
    | false =>
      have arriving := arrives (by simp only [traffic, hs, hd, Bool.false_eq_true, if_false])
      have done := fetch_fetched lt first last lastFour words h.coherent.opcode hd arriving
      have state : (r.fetched config w k).state = .fetch := by
        rw [fetched, if_neg more]
        split <;> exact hs
      simp only [Bool.false_eq_true, if_false, work, state, done]
  | indirect =>
    simp only [work, Cycle.indirect, first, Bool.false_eq_true, if_false,
      Shift.rotate_midway lt words.operand]
  | operand =>
    have arriving := arrives (by simp only [traffic, hs])
    simp only [work, Cycle.operand, first, Bool.false_eq_true, if_false,
      Shift.enter_midway lt words.operand arriving]
  | execute =>
    obtain ⟨state, -⟩ := executed_latches config (r.selected config) k r
    have operation := operation_executed h.coherent (r.selected config) k
    have done := executeBit_executed (m := m) lt last lastFour
      (fun x hx => words.get (Operation.moved_subset _ r.target x hx))
      (h.coherent.aimed trivial hs _ h.coherent.operation)
    simp only [work, state, hs, Cycle.execute, operation, first]
    exact done
  | store =>
    simp only [work, Cycle.store, first, Bool.false_eq_true, if_false,
      Shift.rotate_midway lt words.acc]
  | load =>
    have arriving := arrives (by simp only [traffic, hs])
    simp only [work, Cycle.load, first, Bool.false_eq_true, if_false,
      Shift.enter_midway lt words.acc arriving]
  | advance =>
    simp only [work, Cycle.advance, first, Bool.false_eq_true, if_false, Shift.low_midway lt,
      Adder.add_zero_carryInto, Shift.enter_midway lt words.pc (Bits.test_zero_bit k _)]
  | halt =>
    have stays : { r with state := .halt, choice := .halt } = r :=
      congrArg₂ (fun state choice => { r with state, choice }) hs.symm (h.halt hs).symm
    simp only [more, false_and, if_false, work, hs, Cycle.halt, last, Bool.and_eq_true,
      decide_eq_true_eq, and_assoc]
    rw [stays]

end DataCycle

/-! ## The lines -/

theorem state_swept (lt : k < config.width) (w : Int) (r : Registers) :
    (r.swept config w k).state = r.state := by
  have more : ¬k = config.width := lt.ne
  unfold swept
  cases hs : r.state with
  | fetch =>
    cases r.dispatch with
    | true => rfl
    | false =>
      simp only [Bool.false_eq_true, if_false, fetched, if_neg more]
      split <;> exact hs
  | execute => exact (executed_latches config _ k r).1.trans hs
  | halt => simp only [more, false_and, if_false, hs]
  | _ => rfl

theorem execute_executed (lt : k < config.width) {operation : Operation}
    (target : r.target = Instruction.target? config.variant config.width operation r.operand) :
    Drive.execute config (r.executed config operation k) operation =
      (r.executeTraffic config operation).line k := by
  have leaving := Shift.low_midway lt
  obtain ⟨-, -, -, same, -⟩ := executed_latches config operation k r
  unfold Drive.execute
  rw [same]
  cases operation with
  | load | store | loadc | storec =>
    simp only [Operation.loads, Operation.stores, Bool.true_or, Bool.or_true, if_true, executed,
      leaving, executeTraffic, Traffic.line]
  | jump =>
    simp only [beq_self_eq_true, Bool.true_or, Bool.or_true, if_true, executed, executeTraffic,
      Traffic.line]
    split <;> rw [leaving]
  | jumpz =>
    have outside : r.target = none := target
    have taken : (r.executed config .jumpz k).jumpTaken config = r.jumpTaken config := by
      unfold executed
      simp only
      split <;> rfl
    have operand : Bits.low (r.executed config .jumpz k).operand = bit k r.operand := by
      unfold executed
      simp only
      split <;> rw [leaving]
    rw [taken, operand, outside, executeTraffic]
    cases r.jumpTaken config <;> rfl
  | get | set =>
    cases ht : r.target with
    | none => simp [Operation.loads, Operation.stores, executeTraffic, ht, Traffic.line]
    | some t =>
      cases t <;> simp [Operation.loads, Operation.stores, Operation.exchanges, executeTraffic,
        Traffic.line, executed, ht, Target.register?, exchanged, get, leaving]
  | shadow =>
    have inside : r.target ≠ some .io := by
      rw [target, Instruction.target?]
      split <;> simp
    simp [inside, Operation.loads, Operation.stores, Operation.exchanges, executeTraffic,
      Traffic.line]
  | _ =>
    have free : r.target = none := target
    simp only [free, Operation.loads, Operation.stores, Operation.exchanges, Bool.false_and,
      Bool.false_eq_true, if_false, Bool.or_self]
    rfl

theorem drive_first (config : Config) (r : Registers) :
    (r.timed config 0).drive config = .ok { stop := r.state == .halt } := by
  rw [drive, show (r.timed config 0).state = r.state from rfl]
  cases r.state == .halt <;> rfl

/-- The lines of a data cycle are bit `k` of the state's traffic. -/
theorem drive_swept (lt : k < config.width) (h : r.Opened config) (w : Int) :
    ((r.swept config w k).timed config (k + 1)).drive config =
      .ok ((r.traffic config).line k) := by
  have leaving := Shift.low_midway lt
  have more : ¬k = config.width := lt.ne
  have state := state_swept lt w r
  have data : ((r.swept config w k).timed config (k + 1)).drive config =
      if r.state == .halt then .ok { stop := true }
      else Drive.data config (r.swept config w k) := by
    rw [← state]
    rfl
  rw [data]
  unfold Drive.data traffic
  rw [state]
  cases hs : r.state with
  | reset => exact congrArg (fun b => Except.ok (Signals.address b)) (Bits.bit_of_zero k).symm
  | fetch =>
    simp only [swept, hs]
    cases hd : r.dispatch with
    | true =>
      have going : (k != config.width) = true := by simpa using more
      simp only [if_true, going, leaving]
      rfl
    | false =>
      have plain : (r.fetched config w k).dispatch = false := by
        rw [fetched, if_neg more]
        split <;> exact hd
      simp only [Bool.false_eq_true, if_false, plain]
      rfl
  | indirect | store =>
    simp only [swept, hs, leaving]
    rfl
  | advance =>
    simp only [swept, hs, leaving, Adder.add_zero_carryInto]
    rfl
  | execute =>
    simp only [swept, hs, operation_executed h.coherent (r.selected config) k]
    exact congrArg Except.ok (execute_executed lt (h.execute hs).2.1)
  | halt => rfl
  | operand | load => rfl

/-- Only the accumulator is ever written. -/
theorem traffic_eq_output {word : Int} (h : r.traffic config = .output word) : word = r.acc := by
  unfold traffic at h
  cases hs : r.state with
  | fetch =>
    simp only [hs] at h
    split at h <;> simp at h
  | execute =>
    simp only [hs, executeTraffic] at h
    split at h
    all_goals first | simp at h | split_ifs at h
  | store =>
    simp only [hs, Traffic.output.injEq] at h
    exact h.symm
  | _ => simp [hs] at h

/-! ## Whole clock cycles -/

theorem markers_data (k : Nat) (config : Config) :
    (Timing.markers (k + 1 : Nat) config.width).first = false ∧
      (Timing.markers (k + 1 : Nat) config.width).last = decide (k + 1 = config.width) ∧
      (Timing.markers (k + 1 : Nat) config.width).lastFour = decide (config.width - 4 ≤ k) := by
  have := config.four_lt_width
  rw [markers_cast]
  refine ⟨rfl, rfl, ?_⟩
  simp only [decide_eq_decide]
  omega

theorem keeps_swept (lt : k < config.width) (h : r.Opened config)
    (coherent : (r.swept config w k).Coherent config True) :
    Keeps config (Timing.markers (k + 1 : Nat) config.width) (r.swept config w k)
      (r.swept config w (k + 1)) := by
  obtain ⟨first, last, lastFour⟩ := markers_data k config
  have begun : (r.swept config w k).Coherent config
      ((Timing.markers (k + 1 : Nat) config.width).first = false) := by
    simpa only [first] using coherent
  obtain ⟨worked, work, keeps⟩ := begun.work (bit k w)
  have swept := work_swept lt first last lastFour h fun _ => Bits.test_zero_bit k w
  rwa [← Except.ok.inj (swept.symm.trans work)] at keeps

theorem coherent_swept (h : r.Opened config) (w : Int) (le : k ≤ config.width) :
    (r.swept config w k).Coherent config True := by
  induction k with
  | zero => rw [swept_zero h]; exact h.coherent
  | succ k ih => exact (keeps_swept le h (ih (Nat.le_of_succ_le le))).2.1

/-- At its end a state has chosen one that may follow. -/
theorem follows_swept (h : r.Opened config) (w : Int) :
    State.Follows config (r.swept config w config.width).state
      (r.swept config w config.width).choice := by
  obtain ⟨k, eq⟩ := Nat.exists_eq_add_one.2 config.width_pos
  have lt : k < config.width := by omega
  have keeps := keeps_swept lt h (coherent_swept h w lt.le)
  rw [eq, keeps.1]
  exact keeps.2.2 ((markers_data k config).2.1.trans (decide_eq_true eq.symm))

theorem Opened.latched (h : r.Opened config) (irq : Bool) : (r.latched config irq).Opened config :=
  { h with coherent := h.coherent.latched irq }

theorem executed_latched (operation : Operation) (k : Nat) (irq : Bool) (r : Registers) :
    (r.latched config irq).executed config operation k =
      (r.executed config operation k).latched config irq := by
  cases operation with
  | and | jump | jumpz =>
    simp only [executed, apply_ite (Registers.latched config irq)]
    rfl
  | get | set | shadow =>
    unfold executed
    rw [show (r.latched config irq).target = r.target from rfl]
    cases r.target.bind Target.register? with
    | none => rfl
    | some register => cases register <;> rfl
  | _ => rfl

theorem fetched_latched (lt : k < config.width) (w : Int) (irq : Bool) (r : Registers) :
    (r.latched config irq).fetched config w k = (r.fetched config w k).latched config irq := by
  have more : ¬k = config.width := lt.ne
  have early : (k == config.width) = false := by simpa using more
  simp only [fetched, if_neg more, fetchedTimer, early, Bool.false_and, Bool.or_false,
    apply_ite (Registers.latched config irq)]
  rfl

theorem swept_latched (lt : k < config.width) (w : Int) (irq : Bool) (r : Registers) :
    (r.latched config irq).swept config w k = (r.swept config w k).latched config irq := by
  have more : ¬k = config.width := lt.ne
  unfold swept
  rw [show (r.latched config irq).state = r.state from rfl]
  cases r.state with
  | fetch =>
    simp only [fetched_latched lt, apply_ite (Registers.latched config irq)]
    rfl
  | execute => exact executed_latched (r.selected config) k irq r
  | halt => simp only [more, false_and, if_false]
  | _ => rfl

/-- The first cycle of a state. -/
theorem transition_first (h : r.Coherent config False) (bit : Int) (irq : Bool) :
    (r.timed config 0).transition config bit irq =
      .ok (((r.latched config irq).setUp config).timed config 1) :=
  transition_of_lt config.width_pos (fun e => (h.native e).1) (work_setUp (h.latched irq) bit)

section

variable (h : r.Opened config) {b : Int}
  (arrives : r.traffic config = .input → test 0 b = test k w) (irq : Bool)
include h arrives

theorem work_latched_swept (lt : k < config.width) :
    ((r.swept config w k).latched config irq).work config b
        (Timing.markers (k + 1 : Nat) config.width) =
      .ok ((r.latched config irq).swept config w (k + 1)) := by
  obtain ⟨first, last, lastFour⟩ := markers_data k config
  rw [← swept_latched lt]
  exact work_swept lt first last lastFour (h.latched irq) arrives

/-- A data cycle that another one follows. -/
theorem transition_data (lt : k + 1 < config.width) :
    ((r.swept config w k).timed config (k + 1)).transition config b irq =
      .ok (((r.latched config irq).swept config w (k + 1)).timed config (k + 2)) :=
  transition_of_lt lt (fun e => ((coherent_swept h w (by omega)).native e).1)
    (work_latched_swept h arrives irq (by omega))

/-- The last cycle of a state. -/
theorem transition_last (eq : k + 1 = config.width) :
    ((r.swept config w k).timed config (k + 1)).transition config b irq =
      .ok (((r.latched config irq).swept config w (k + 1)).entering config) := by
  have lt : k < config.width := by omega
  have work := work_latched_swept h arrives irq lt
  have follows := follows_swept (h.latched irq) w
  rw [eq] at work ⊢
  exact transition_of_follows (fun e => ((coherent_swept h w lt.le).native e).1) work follows

end

end Registers

end SerialMachine
