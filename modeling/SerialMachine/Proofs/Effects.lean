import SerialMachine.Proofs.Stage
import SerialMachine.Proofs.WordMachine

/-!
# States on whole words

`Registers.passed` is the record that a state hands to the next one. Here it is written out state by
state, and compared with what the word machine does in one go. Main statement: what an operation
leaves when its execute state is over, finished by the states that follow, is its whole effect.
-/

namespace SerialMachine

open Bits (bit drop keep test weight)
open Shift (midway)

/-- What is left of an operation with the operand `x` when its execute state has chosen the state
after. -/
def WordMachine.finish (config : Config) (choice : State) (x : Int) (m : WordMachine) :
    WordMachine :=
  match choice with
  | .load => (m.load x).advance config
  | .store => (m.write x m.acc).advance config
  | .advance => m.advance config
  | _ => m

namespace Registers

/-- What programs see of a record. -/
def view (r : Registers) (bus : Bus) (reports : List Event) : WordMachine :=
  { acc := r.acc, pc := r.pc, flags := r.flags, shadow := r.shadow, timer := r.timer
    compare := r.compare, bus, reports }

variable {config : Config} {r : Registers} {level : Nat → Bool} {w : Int}

/-! ## States that move one word -/

theorem passed_load (hs : r.state = .load) (words : r.Words config.width)
    (fits : Word.Fits config.width w) :
    r.passed config level w =
      ({ r with state := .advance, choice := .advance, acc := w }.latched config
        (raised level 0 (config.width + 1))).timed config 0 := by
  have acc := Shift.midway_eq_new words.acc fits
  simp only [passed, opening, setUp, latched, hs, swept, acc, entering, timed, raised_first,
    Bool.and_or_distrib_left, Bool.or_assoc]

theorem passed_store (hs : r.state = .store) (words : r.Words config.width) :
    r.passed config level w =
      ({ r with state := .advance, choice := .advance }.latched config
        (raised level 0 (config.width + 1))).timed config 0 := by
  have acc := Shift.midway_eq_new words.acc words.acc
  simp only [passed, opening, setUp, latched, hs, swept, acc, entering, timed, raised_first,
    Bool.and_or_distrib_left, Bool.or_assoc]

theorem passed_indirect (hs : r.state = .indirect) (words : r.Words config.width) :
    r.passed config level w =
      ({ r with state := .operand, choice := .operand, indirected := true }.latched config
        (raised level 0 (config.width + 1))).timed config 0 := by
  have operand := Shift.midway_eq_new words.operand words.operand
  simp only [passed, opening, setUp, latched, hs, swept, operand, entering, timed, raised_first,
    Bool.and_or_distrib_left, Bool.or_assoc]

theorem passed_operand (hs : r.state = .operand) (words : r.Words config.width)
    (fits : Word.Fits config.width w) :
    r.passed config level w =
      ({ r with state := .execute, choice := .execute, operand := w }.latched config
        (raised level 0 (config.width + 1))).timed config 0 := by
  have operand := Shift.midway_eq_new words.operand fits
  simp only [passed, opening, setUp, latched, hs, swept, operand, entering, timed, raised_first,
    Bool.and_or_distrib_left, Bool.or_assoc]

theorem passed_advance (hs : r.state = .advance) (words : r.Words config.width) :
    r.passed config level w =
      ({ r with
          state := .fetch, choice := .fetch, carry := Adder.carryInto config.width r.pc 0 1
          pc := keep config.width (r.pc + 1) }.latched config
        (raised level 0 (config.width + 1))).timed config 0 := by
  have pc := Shift.midway_self words.pc (r.pc + 1)
  simp only [passed, opening, setUp, latched, hs, swept, pc, entering, timed, raised_first,
    Bool.and_or_distrib_left, Bool.or_assoc]

theorem passed_reset (level : Nat → Bool) (w : Int) (hs : r.state = .reset)
    (words : r.Words config.width) :
    r.passed config level w =
      (({ state := .fetch } : Registers).latched config
        (raised level 1 config.width)).timed config 0 := by
  have zero := Bits.fits_zero config.width
  have acc := Shift.midway_eq_new words.acc zero
  have pc := Shift.midway_eq_new words.pc zero
  have operand := Shift.midway_eq_new words.operand zero
  have flags := Shift.midway_eq_new words.flags zero
  have shadow := Shift.midway_eq_new words.shadow zero
  have timer := Shift.midway_eq_new words.timer zero
  have compare := Shift.midway_eq_new words.compare zero
  simp only [passed, opening, setUp, latched, hs, swept, acc, pc, operand, flags, shadow, timer,
    compare, entering, timed]

theorem passed_dispatch (level : Nat → Bool) (w : Int) (hs : r.state = .fetch)
    (hd : r.dispatch = true) (words : r.Words config.width) :
    r.passed config level w =
      ({ r with
          state := .fetch, choice := .fetch, pc := r.shadow, shadow := r.pc
          flags :=
            Flag.put .extended .halt false (Flag.put .extended .interruptEnable false r.flags)
          irq := false, dispatch := false }.latched config
        (raised level 1 config.width)).timed config 0 := by
  have pc := Shift.midway_eq_new words.pc words.shadow
  have shadow := Shift.midway_eq_new words.shadow words.pc
  have past : (config.width != config.width) = false := bne_self_eq_false config.width
  simp only [passed, opening, setUp, latched, hs, hd, if_true, swept, pc, shadow, past, entering,
    timed]

/-! ## The execute state -/

theorem passed_execute (hs : r.state = .execute) :
    r.passed config level w =
      ((((r.setUp config).executed config (r.selected config) config.width).latched config
        (raised level 0 (config.width + 1))).entering config) := by
  have same : ((r.latched config (level 0)).setUp config) =
      (r.setUp config).latched config (level 0) := by
    rw [setUp, setUp, show (r.latched config (level 0)).state = r.state from rfl, hs]
    rfl
  have selected : ((r.setUp config).latched config (raised level 0 (config.width + 1))).selected
      config = r.selected config := by
    rw [setUp, hs]
    rfl
  have state : ((r.setUp config).latched config (raised level 0 (config.width + 1))).state =
      .execute := (setUp_frame config r).1.trans hs
  rw [passed, opening, same, latched_latched, ← raised_first, swept]
  simp only [state, selected, executed_latched]

theorem exchanged_self {register : Register} (acc : Word.Fits config.width r.acc)
    (other : Word.Fits config.width (r.get register)) :
    r.exchanged config.width config.width register =
      { r.set register r.acc with acc := r.get register } := by
  have arriving := Shift.midway_eq_new acc other
  have leaving := Shift.midway_eq_new other acc
  rw [exchanged, arriving, leaving]

/-- An exchange with a register is complete, but for the program counter. -/
theorem view_exchanged (words : r.Words config.width) {target : Target} {register : Register}
    (behind : target.register? = some register) (bus : Bus) (reports : List Event) (x : Int) :
    ((r.exchanged config.width config.width register).view bus reports).finish config
        (if target = .pc then .fetch else .advance) x =
      (r.view bus reports).exchange config target := by
  cases target <;> cases behind <;>
    rw [exchanged_self words.acc (words.get (by decide))] <;> rfl

/-- What the execute state leaves of an operation, and what the states after it make of that, is the
whole effect of the operation. -/
theorem finish_executed {operation : Operation} (words : r.Words config.width)
    (target : r.target =
      Instruction.target? config.variant config.width operation r.operand)
    (choice : r.choice = Cycle.executeChoice config r operation)
    (zero : Flag.isSet config.variant .zero r.flags = (r.acc == 0)) (bus : Bus)
    (reports : List Event) :
    ((r.executed config operation config.width).view bus reports).finish config r.choice r.operand =
      (r.view bus reports).execute config operation r.operand := by
  have becomes {result : Int} (fits : Word.Fits config.width result) :
      midway config.width config.width r.acc result = result := Shift.midway_eq_new words.acc fits
  have total (result : Int) :
      midway config.width config.width r.acc result = keep config.width result :=
    Shift.midway_self words.acc result
  have jumped : midway config.width config.width r.pc r.operand = r.operand :=
    Shift.midway_eq_new words.pc words.operand
  have exchange (t : Target) {register : Register} (behind : t.register? = some register) :=
    view_exchanged words behind bus reports r.operand
  rw [choice, executeChoice_eq]
  cases operation with
  | or =>
    simp only [executed, combined, becomes (Bits.fits_or words.acc words.operand)]
    rfl
  | xor =>
    simp only [executed, combined, becomes (Bits.fits_xor words.acc words.operand)]
    rfl
  | and =>
    simp only [executed, combined, becomes (Bits.fits_and words.acc words.operand)]
    split
    · rfl
    · split <;> rfl
  | invert =>
    have flipped : keep config.width (Bits.complement r.acc) = Word.mask config.width - r.acc :=
      Bits.keep_complement words.acc
    simp only [executed, combined, total, flipped]
    rfl
  | add | sub =>
    simp only [executed, combined, total, if_true]
    rfl
  | literal =>
    simp only [executed, combined, becomes words.operand]
    rfl
  | lshift | rshift | unused => rfl
  | load | loadc | store | storec => rfl
  | jump =>
    have goes : r.choice = .fetch := choice
    simp only [executed, goes, if_true, jumped]
    rfl
  | jumpz =>
    have condition : r.jumpTaken config = ((r.acc == 0) != config.jumpzOnNonzero) := by
      rw [jumpTaken, zero]
    rw [executeChoice_eq] at choice
    simp only [condition] at choice ⊢
    simp only [executed, choice, jumped]
    by_cases taken : ((r.acc == 0) != config.jumpzOnNonzero) = true
    · simp [taken, view, WordMachine.finish, WordMachine.execute]
    · simp [taken, view, WordMachine.finish, WordMachine.execute]
  | get | set =>
    simp only [WordMachine.execute, show (r.view bus reports).acc = r.acc from rfl]
    rw [← target]
    cases ht : r.target with
    | none =>
      simp only [executed, ht]
      rfl
    | some t =>
      simp only [executed, ht, Option.bind_some]
      cases t with
      | pc => exact exchange .pc rfl
      | flags => exact exchange .flags rfl
      | compare => exact exchange .compare rfl
      | timer => exact exchange .timer rfl
      | shadow => exact exchange .shadow rfl
      | io => rfl
  | shadow =>
    have inside : r.target = some .timer ∨ r.target = some .shadow := by
      rw [target, Instruction.target?]
      cases test 0 r.operand <;> simp
    simp only [WordMachine.execute]
    rw [← target]
    rcases inside with ht | ht <;> simp only [executed, ht, Option.bind_some]
    · exact exchange .timer rfl
    · exact exchange .shadow rfl

/-- What the execute state hands on, and what is left of the operation then. -/
theorem finish_passed (level : Nat → Bool) (w : Int) (coherent : r.Coherent config False)
    (hs : r.state = .execute) (zero : Flag.isSet config.variant .zero r.flags = (r.acc == 0))
    (bus : Bus) (reports : List Event) :
    (r.passed config level w).state ∈ State.execute.successors ∧
      (r.passed config level w).dispatch = r.dispatch ∧
      (r.passed config level w).irq =
        (r.irq || (config.extended && raised level 0 (config.width + 1))) ∧
      ((r.passed config level w).state = .load ∨ (r.passed config level w).state = .store →
        (r.passed config level w).operand = r.operand) ∧
      ((r.passed config level w).view bus reports).finish config (r.passed config level w).state
          r.operand =
        (r.view bus reports).execute config (r.selected config) r.operand := by
  have setUp : r.setUp config = Cycle.executeSetUp config (r.selected config) r := by
    rw [Registers.setUp, hs]
  have opened := opened_setUp coherent
  rw [passed_execute hs]
  rw [setUp] at opened ⊢
  have words := opened.coherent.words
  have state : (Cycle.executeSetUp config (r.selected config) r).state = .execute := hs
  obtain ⟨-, target, choice⟩ := opened.execute state
  obtain ⟨-, kept, -, -, still, -, irq⟩ := executed_latches config (r.selected config)
    config.width (Cycle.executeSetUp config (r.selected config) r)
  have follows := (opened.coherent.settled trivial (by simp [state]) (by simp [state])).1
  rw [state, ← kept] at follows
  refine ⟨follows, still, congrArg (· || _) irq, fun moves => ?_, ?_⟩
  · have chosen := kept.trans choice
    exact (executed_moves words (moves.imp chosen.symm.trans chosen.symm.trans)).1
  · have finish := finish_executed words target choice zero bus reports
    rw [← kept] at finish
    exact finish

/-! ## The fetch state -/

/-- The record of a fetch when the whole instruction word has arrived and no next state is chosen
yet. -/
def arrived (config : Config) (w : Int) (r : Registers) : Registers :=
  let n := config.width
  let words :=
    { r with
      flags := Flag.counted config.variant n n r.acc r.flags, operand := keep (n - 4) w
      opcode := keep 4 (drop (n - 4) w), indirected := false, choice := .execute }
  if config.extended then
    { words with
      carry := Adder.carryInto n r.timer 0 1
      matching := keep n (r.timer + 1) == r.compare
      timer := keep n (r.timer + 1)
      irq := r.irq ||
        (keep n (r.timer + 1) == r.compare &&
          Flag.isSet config.variant .timerEnable words.flags) }
  else words

/-- The opcode latch has taken the last four bits. -/
theorem arrived_opcode (fits : Word.Fits config.width w) (r : Registers) :
    (r.arrived config w).opcode = (config.decode w).opcode := by
  obtain ⟨highest, nibble⟩ := config.opcode_decode fits
  have latch : (r.arrived config w).opcode = keep 4 (drop (config.width - 4) w) := by
    rw [arrived]
    cases config.extended <;> rfl
  rw [latch, ← highest, Bits.keep_eq_self (Bits.fits_natCast nibble)]

/-- The latches have split the instruction word. -/
theorem arrived_decode (fits : Word.Fits config.width w) (r : Registers) :
    (r.arrived config w).operand = (config.decode w).operand ∧
      (r.arrived config w).selected config = (config.decode w).operation ∧
      test (config.width - 1) w = !decide ((config.decode w).opcode < 8) := by
  have four_lt := config.four_lt_width
  obtain ⟨highest, nibble⟩ := config.opcode_decode fits
  have eight : Bits.weight 3 = 8 := rfl
  refine ⟨?_, ?_, ?_⟩
  · rw [arrived]
    cases config.extended <;> rfl
  · rw [selected, arrived_opcode fits, Operation.ofOpcode?, if_neg (by omega), Int.toNat_natCast]
    exact (List.getD_eq_getElem?_getD ..).symm
  · rw [show config.width - 1 = config.width - 4 + 3 by omega, ← Bits.test_drop, ← highest,
      Bits.test_eq_decide, eight, ← decide_not, decide_eq_decide]
    omega

theorem arrived_latches (words : r.Words config.width) (w : Int) :
    (r.arrived config w).dispatch = r.dispatch ∧
      Flag.isSet config.variant .zero (r.arrived config w).flags =
        ((r.arrived config w).acc == 0) ∧
      (r.arrived config w).irq = (r.irq || (config.extended &&
        (Flag.isSet config.variant .timerEnable (r.arrived config w).flags &&
          (r.arrived config w).timer == (r.arrived config w).compare))) := by
  have described : Flag.isSet config.variant .zero
      (Flag.counted config.variant config.width config.width r.acc r.flags) = (r.acc == 0) := by
    rw [Flag.isSet_counted_zero, Bits.ones_beq_zero words.acc]
  rw [arrived]
  cases config.extended with
  | true => exact ⟨rfl, described, by simp only [if_true, Bool.true_and, Bool.and_comm]⟩
  | false => exact ⟨rfl, described, (Bool.or_false _).symm⟩

theorem fetched_width (words : r.Words config.width) (nibble : Word.Fits 4 r.opcode)
    (hs : r.state = .fetch) (hd : r.dispatch = false) :
    (r.setUp config).fetched config w config.width =
      Cycle.fetchChoice config (bit (config.width - 1) w) (r.arrived config w) := by
  have four_lt := config.four_lt_width
  have acc := Shift.midway_eq_new words.acc words.acc
  have compare := Shift.midway_eq_new words.compare words.compare
  have timer := Shift.midway_self words.timer (r.timer + 1)
  have operand := Shift.shortened_self four_lt words.operand w
  have opcode : midway 4 (config.width - (config.width - 4)) r.opcode (drop (config.width - 4) w) =
      keep 4 (drop (config.width - 4) w) := by
    rw [show config.width - (config.width - 4) = 4 by omega]
    exact Shift.midway_self nibble _
  have more : ¬config.width ≤ config.width - 4 := by omega
  have kept := Bits.keep_eq_self words.compare
  rw [fetched, if_pos rfl]
  cases extended : config.extended with
  | true =>
    simp only [setUp, hs, hd, extended, Bool.false_eq_true, if_false, if_true, fetchedWords,
      fetchedTimer, acc, compare, timer, operand, opcode, if_neg more, kept,
      Flag.counted_counted, arrived, beq_self_eq_true, Bool.true_and]
  | false =>
    simp only [setUp, hs, hd, extended, Bool.false_eq_true, if_false, fetchedWords, acc, operand,
      opcode, if_neg more, Flag.counted_counted, arrived, Bool.false_or]

theorem passed_fetch (words : r.Words config.width) (nibble : Word.Fits 4 r.opcode)
    (hs : r.state = .fetch) (hd : r.dispatch = false) :
    r.passed config level w =
      (Cycle.fetchChoice config (bit (config.width - 1) w)
        ((r.latched config (raised level 0 (config.width + 1))).arrived config w)).entering
          config := by
  have same := @setUp_latched_fetch config r hs hd
  obtain ⟨state, -, -, dispatch⟩ := setUp_frame config
    (r.latched config (raised level 0 (config.width + 1)))
  have plain : ((r.latched config (raised level 0 (config.width + 1))).setUp config).dispatch =
      false := by
    rw [dispatch, show (r.latched config _).dispatch = r.dispatch from rfl, hd, Bool.false_and]
  rw [passed, opening, same, latched_latched, ← raised_first, ← same, swept, state.trans hs, plain]
  exact congrArg _ (fetched_width { words with } nibble hs hd)

theorem view_arrived (words : r.Words config.width) (bus : Bus) (reports : List Event) :
    (r.arrived config w).view bus reports = (r.view bus reports).refresh config := by
  have zero := Bits.ones_beq_zero words.acc
  rw [arrived, WordMachine.refresh]
  cases extended : config.extended with
  | true => simp only [if_true, view, Flag.counted, zero]
  | false => simp only [Bool.false_eq_true, if_false, view, Flag.counted, zero]

/-- The choice of the next state is nothing that programs see. -/
theorem view_fetchChoice (b : Int) (r : Registers) (bus : Bus) (reports : List Event) :
    ((Cycle.fetchChoice config b r).entering config).view bus reports = r.view bus reports := by
  rw [fetchChoice_eq]
  rfl

end Registers

end SerialMachine
