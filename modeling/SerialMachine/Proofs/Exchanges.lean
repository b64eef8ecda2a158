import SerialMachine.Proofs.Operations

/-!
# Words joined and words exchanged

Two kinds of operations need nothing but the bits that meet in the accumulator: the bitwise ones,
which join each bit with the operand's bit at its place, and the exchanges, in which accumulator and
register move into each other. Main statements: from any record in which these are words, an
operation of the first kind leaves the joined word, and one of the second kind leaves the two words
in each other's places and goes on at the old accumulator when the register is the program counter.
-/

namespace SerialMachine

open Bits (bit keep test)
open Shift (midway)

/-- The operations that set each bit of the accumulator from the two bits at its place. -/
def Operation.bitwise : List Operation :=
  [or, and, xor, invert, literal]

/-- The bit that a bitwise operation makes of a bit of the accumulator and one of the operand. -/
def Operation.joinedBit (a x : Bool) : Operation → Bool
  | or => a || x
  | and => a && x
  | xor => a ^^ x
  | invert => !a
  | literal => x
  | _ => a

/-- The word of `n` bits that a bitwise operation makes of accumulator and operand. -/
def Operation.joinedWord (n : Nat) (a x : Int) : Operation → Int
  | or => Bits.or a x
  | and => Bits.and a x
  | xor => Bits.xor a x
  | invert => Word.mask n - a
  | literal => x
  | _ => a

/-- Every bit of the joined word is the joined bit. -/
theorem Operation.test_joinedWord {n : Nat} {a x : Int} (acc : Word.Fits n a)
    (operand : Word.Fits n x) (operation : Operation) {j : Nat} (lt : j < n) :
    test j (operation.joinedWord n a x) = operation.joinedBit (test j a) (test j x) := by
  cases operation with
  | or => exact Bits.test_or acc operand j
  | and => exact Bits.test_and j a x
  | xor => exact Bits.test_xor acc operand j
  | invert =>
    rw [joinedWord, ← Bits.keep_complement acc, Bits.test_keep lt]
    exact Bits.test_complement j a
  | _ => rfl

theorem Operation.fits_joinedWord {n : Nat} {a x : Int} (acc : Word.Fits n a)
    (operand : Word.Fits n x) (operation : Operation) :
    Word.Fits n (operation.joinedWord n a x) := by
  cases operation with
  | or => exact Bits.fits_or acc operand
  | and => exact Bits.fits_and acc operand
  | xor => exact Bits.fits_xor acc operand
  | invert =>
    rw [joinedWord, ← Bits.keep_complement acc]
    exact Bits.fits_keep n _
  | literal => exact operand
  | _ => exact acc

namespace Registers

variable {config : Config} {r : Registers} {input : Nat → Int} {level : Nat → Bool}
  {operation : Operation}

/-! ## Words joined bit by bit -/

/-- What a bitwise operation leaves in the operand latch: the operand, except that a conjunction of
the base variant does not put back what has been consumed in the last four cycles, nor anything of
an operand that was fetched indirectly. -/
def joinedOperand (config : Config) (operation : Operation) (r : Registers) : Int :=
  if operation = .and ∧ config.variant = .base then
    if r.indirected then 0 else keep (config.width - 4) r.operand
  else r.operand

/-- A record has become another one by a bitwise operation, and the program counter is to be counted
up next. -/
structure Joins (config : Config) (operation : Operation) (r e : Registers) : Prop where
  acc : e.acc = operation.joinedWord config.width r.acc r.operand
  bits : ∀ j < config.width,
    test j e.acc = operation.joinedBit (test j r.acc) (test j r.operand)
  operand : e.operand = r.joinedOperand config operation
  frame : e.SameWords { r with acc := e.acc, operand := e.operand }
  follows : e.Begins .advance

theorem moved_of_bitwise (bitwise : operation ∈ Operation.bitwise) (target : Option Target) :
    operation.moved target = [.acc, .operand] := by
  revert bitwise
  cases operation <;> first | exact fun _ => rfl | exact fun h => absurd h (by decide)

theorem executeChoice_of_bitwise (bitwise : operation ∈ Operation.bitwise) (o : Registers) :
    Cycle.executeChoice config o operation = .advance := by
  rw [executeChoice_eq]
  revert bitwise
  cases operation <;> first | exact fun _ => rfl | exact fun h => absurd h (by decide)

/-- The record when all bits have been joined. -/
theorem executed_joined (bitwise : operation ∈ Operation.bitwise)
    (acc : Word.Fits config.width r.acc) (operand : Word.Fits config.width r.operand) :
    r.executed config operation config.width =
      { r with
        acc := operation.joinedWord config.width r.acc r.operand
        operand := r.joinedOperand config operation } := by
  have arrives := Shift.midway_eq_new acc (operation.fits_joinedWord acc operand)
  have turned := Shift.midway_eq_new operand operand
  cases operation with
  | or | xor | literal =>
    rw [Operation.joinedWord] at arrives
    simp only [executed, combined, arrives, turned]
    rfl
  | invert =>
    have flipped : midway config.width config.width r.acc (Bits.complement r.acc) =
        Word.mask config.width - r.acc :=
      (Shift.midway_self acc _).trans (Bits.keep_complement acc)
    simp only [executed, combined, flipped, turned]
    rfl
  | and =>
    have shortened := Shift.shortened_self config.four_lt_width operand r.operand
    have consumed := Bits.fits_iff_drop_eq_zero.1 operand
    rw [Operation.joinedWord] at arrives
    cases variant : config.variant with
    | extended =>
      have wired := (Config.extended_eq_true_iff config).2 variant
      simp [executed, wired, combined, arrives, turned, joinedOperand, variant,
        Operation.joinedWord]
    | base =>
      have basic := (Config.extended_eq_false_iff config).2 variant
      cases indirected : r.indirected <;>
        simp [executed, basic, indirected, combined, arrives, shortened, consumed, joinedOperand,
          variant, Operation.joinedWord]
  | _ => exact absurd bitwise (by decide)

/-- A bitwise operation joins accumulator and operand over all their bits, from any record in which
these are words, and changes no other word. -/
theorem joins_words (config : Config) (r : Registers) (input : Nat → Int) (level : Nat → Bool)
    (begins : r.Begins .execute) (acc : Word.Fits config.width r.acc)
    (operand : Word.Fits config.width r.operand) {operation : Operation}
    (bitwise : operation ∈ Operation.bitwise) (selected : r.operation config = .ok operation) :
    ∃ e, r.along config input level (config.width + 1) = .ok e ∧
      Joins config operation r e := by
  have fits : ∀ x ∈ operation.moved (Instruction.target? config.variant config.width operation
      r.operand), Word.Fits config.width (r.get x) := by
    rw [moved_of_bitwise bitwise]
    simp [get, acc, operand]
  have whole := (along_executed begins.state selected level fits input (begins.timed config) acc).2
  have words := get_opening_execute begins.state selected level config.width
  obtain ⟨-, -, -, -, choice⟩ := latches_opening_execute begins.state selected level config.width
  have indirected : (r.opening config level config.width).indirected = r.indirected := by
    rw [opening_execute begins.state selected]
    rfl
  generalize r.opening config level config.width = o at whole words choice indirected
  have sameAcc : o.acc = r.acc := words .acc (by decide)
  have sameOperand : o.operand = r.operand := words .operand (by decide)
  rw [executed_joined bitwise (sameAcc ▸ acc) (sameOperand ▸ operand), sameAcc, sameOperand]
    at whole
  refine ⟨_, whole, ?_⟩
  constructor
  case acc => rfl
  case bits => exact fun j lt => Operation.test_joinedWord acc operand operation lt
  case operand =>
    show o.joinedOperand config operation = _
    rw [joinedOperand, joinedOperand, indirected, sameOperand]
  case frame =>
    intro x word
    have same := words x word
    cases x <;> first | rfl | exact absurd word (by decide) | exact same
  case follows => exact begins_entering (choice.trans (executeChoice_of_bitwise bitwise o))

/-- In the base variant, 204 and 170 make 136; of the operand its low four bits are left, or nothing
of it when it was fetched indirectly. -/
theorem joins_words_bytes :
    let config : Config := { width := 8 }
    let line (k : Nat) : Int := k
    let irq (k : Nat) : Bool := k == 5
    let direct : Registers := { state := .execute, opcode := 1, acc := 204, operand := 170 }
    let fetched : Registers := { direct with indirected := true }
    (∃ e, direct.along config line irq 9 = .ok e ∧ Joins config .and direct e ∧
        e.acc = 136 ∧ e.operand = 10) ∧
      ∃ e, fetched.along config line irq 9 = .ok e ∧ Joins config .and fetched e ∧
        e.acc = 136 ∧ e.operand = 0 := by
  intro config line irq direct fetched
  constructor
  · obtain ⟨e, along, joins⟩ := @joins_words config direct line irq ⟨rfl, rfl, rfl, rfl⟩
      ⟨by decide, by decide⟩ ⟨by decide, by decide⟩ .and (by decide) rfl
    exact ⟨e, along, joins, joins.acc.trans (by decide), joins.operand.trans (by decide)⟩
  · obtain ⟨e, along, joins⟩ := @joins_words config fetched line irq ⟨rfl, rfl, rfl, rfl⟩
      ⟨by decide, by decide⟩ ⟨by decide, by decide⟩ .and (by decide) rfl
    exact ⟨e, along, joins, joins.acc.trans (by decide), joins.operand.trans (by decide)⟩

/-! ## Words exchanged -/

/-- A record has become another one by an exchange of the accumulator with a register. An exchange
with the program counter drives the old accumulator as an address, lowest bit first, and a fetch
follows; any other one drives nothing, and the program counter is to be counted up next. -/
structure Exchanges (config : Config) (input : Nat → Int) (level : Nat → Bool)
    (register : Register) (r e : Registers) : Prop where
  arrives : e.acc = r.get register
  leaves : e.get register = r.acc
  frame : ∀ x ∈ .opcode :: Register.words, x ≠ .acc → x ≠ register → e.get x = r.get x
  quiet : r.drive config = .ok {}
  driven : ∀ k < config.width, ∃ s, r.along config input level (k + 1) = .ok s ∧
    s.drive config = .ok (if register = .pc then .address (bit k r.acc) else {})
  follows : e.Begins (if register = .pc then .fetch else .advance)

theorem moved_of_aims (aims : operation.aims = true) {target : Target} {register : Register}
    (behind : target.register? = some register) :
    operation.moved (some target) = [.acc, register] := by
  cases operation <;> simp only [Operation.aims, Bool.false_eq_true] at aims <;>
    simp only [Operation.moved, Option.bind_some, behind]

theorem executed_of_aims (aims : operation.aims = true) {target : Target} {register : Register}
    (held : r.target = some target) (behind : target.register? = some register) (k : Nat) :
    r.executed config operation k = r.exchanged config.width k register := by
  cases operation <;> simp only [Operation.aims, Bool.false_eq_true] at aims <;>
    simp only [executed, held, Option.bind_some, behind]

/-- The state after an exchange, and what its data cycles drive. -/
theorem heads_of_aims (aims : operation.aims = true) {target : Target} {register : Register}
    (named : Instruction.target? config.variant config.width operation r.operand = some target)
    (held : r.target = some target) (behind : target.register? = some register) :
    Cycle.executeChoice config r operation = (if register = .pc then .fetch else .advance) ∧
      r.executeTraffic config operation = if register = .pc then .address r.acc else .quiet := by
  rw [executeChoice_eq]
  cases operation with
  | get | set =>
    simp only [executeTraffic, held]
    cases target <;> cases behind <;> exact ⟨rfl, rfl⟩
  | shadow =>
    -- The program counter is exchanged by the other two operations only.
    have apart : register ≠ .pc := by
      rw [Instruction.target?] at named
      split at named <;> cases named <;> cases behind <;> decide
    rw [if_neg apart, if_neg apart]
    exact ⟨rfl, rfl⟩
  | _ => simp [Operation.aims] at aims

theorem drive_executed {k : Nat} (lt : k < config.width) (state : r.state = .execute)
    (selected : r.operation config = .ok operation)
    (target : r.target = Instruction.target? config.variant config.width operation r.operand) :
    ((r.executed config operation k).timed config (k + 1)).drive config =
      .ok ((r.executeTraffic config operation).line k) := by
  obtain ⟨sameState, -, opcode, -⟩ := executed_latches config operation k r
  have executing : ((r.executed config operation k).timed config (k + 1)).state = .execute :=
    sameState.trans state
  have first : ((r.executed config operation k).timed config (k + 1)).first = false := rfl
  have holds : ((r.executed config operation k).timed config (k + 1)).operation config =
      .ok operation := by
    rw [operation_timed, Registers.operation, opcode]
    exact selected
  rw [drive, Drive.data, executing, first, holds]
  exact congrArg Except.ok (execute_executed lt target)

theorem get_entering_exchange {x register : Register} (acc : x ≠ .acc) (apart : x ≠ register)
    (cycle : x ≠ .cycle) (a b : Int) :
    ({ r.set register a with acc := b }.entering config).get x = r.get x := by
  have same : ({ r.set register a with acc := b }.entering config).get x =
      (r.set register a).get x := by
    cases x <;> first | rfl | exact absurd rfl acc | exact absurd rfl cycle
  rw [same, get_set_of_ne r apart.symm a]

theorem choice_exchange_self (register : Register) (a b : Int) :
    { r.set register a with acc := b }.choice = r.choice := by
  cases register <;> rfl

section

variable (hs : r.state = .execute) (aims : operation.aims = true)
  (selected : r.operation config = .ok operation) {target : Target} {register : Register}
  (named : Instruction.target? config.variant config.width operation r.operand = some target)
  (behind : target.register? = some register) (level : Nat → Bool) (k : Nat)
include hs aims selected named behind

/-- The first cycle of an exchange settles where it leads. -/
theorem heads_opening : (r.opening config level k).target = some target ∧
    (r.opening config level k).choice = (if register = .pc then .fetch else .advance) ∧
    (r.opening config level k).executeTraffic config operation =
      if register = .pc then .address r.acc else .quiet := by
  obtain ⟨-, -, -, aimed, choice⟩ := latches_opening_execute hs selected level k
  have operand : (r.opening config level k).operand = r.operand :=
    get_opening_execute hs selected level k .operand (by decide)
  have acc : (r.opening config level k).acc = r.acc :=
    get_opening_execute hs selected level k .acc (by decide)
  obtain ⟨leads, drives⟩ := heads_of_aims aims (operand ▸ named) (aimed.trans named) behind
  exact ⟨aimed.trans named, choice.trans leads, acc ▸ drives⟩

theorem drive_exchanging (lt : k < config.width) :
    (((r.opening config level k).executed config operation k).timed config (k + 1)).drive config =
      .ok (if register = .pc then .address (bit k r.acc) else {}) := by
  obtain ⟨state, held, -, aimed, -⟩ := latches_opening_execute hs selected level k
  have operand : (r.opening config level k).operand = r.operand :=
    get_opening_execute hs selected level k .operand (by decide)
  rw [drive_executed lt state held (operand ▸ aimed),
    (heads_opening hs aims selected named behind level k).2.2]
  split <;> rfl

theorem executed_exchange (acc : Word.Fits config.width r.acc)
    (other : Word.Fits config.width (r.get register)) :
    (r.opening config level config.width).executed config operation config.width =
      { (r.opening config level config.width).set register r.acc with acc := r.get register } := by
  have word : register ∈ Register.words := by cases target <;> cases behind <;> decide
  have sameAcc : (r.opening config level config.width).acc = r.acc :=
    get_opening_execute hs selected level config.width .acc (by decide)
  have same := get_opening_execute hs selected level config.width register word
  rw [executed_of_aims aims (heads_opening hs aims selected named behind level _).1 behind,
    exchanged_self (sameAcc ▸ acc) (same ▸ other), sameAcc, same]

end

/-- An exchange moves the accumulator and the register that the operand names into each other over
all their bits, from any record in which these are words, and changes nothing else. -/
theorem exchanges_words (config : Config) (r : Registers) (input : Nat → Int) (level : Nat → Bool)
    (begins : r.Begins .execute) {operation : Operation} (aims : operation.aims = true)
    (selected : r.operation config = .ok operation) {target : Target} {register : Register}
    (named : Instruction.target? config.variant config.width operation r.operand = some target)
    (behind : target.register? = some register) (acc : Word.Fits config.width r.acc)
    (other : Word.Fits config.width (r.get register)) :
    ∃ e, r.along config input level (config.width + 1) = .ok e ∧
      Exchanges config input level register r e := by
  have state := begins.state
  have fits : ∀ x ∈ operation.moved (Instruction.target? config.variant config.width operation
      r.operand), Word.Fits config.width (r.get x) := by
    rw [named, moved_of_aims aims behind]
    simpa [get] using And.intro acc other
  obtain ⟨inside, whole⟩ :=
    along_executed state selected level fits input (begins.timed config) acc
  rw [executed_exchange state aims selected named behind level acc other] at whole
  refine ⟨_, whole, ?_⟩
  constructor
  case arrives => rfl
  case leaves => cases target <;> cases behind <;> rfl
  case frame =>
    intro x member apart apart'
    rw [get_entering_exchange apart apart' (by rintro rfl; exact absurd member (by decide))]
    rcases List.mem_cons.1 member with rfl | word
    · rw [opening_execute state selected]
      rfl
    · exact get_opening_execute state selected level config.width x word
  case quiet =>
    rw [begins.timed config, drive_first, state]
    rfl
  case driven =>
    exact fun k lt => ⟨_, inside k lt, drive_exchanging state aims selected named behind level k lt⟩
  case follows =>
    exact begins_entering ((choice_exchange_self ..).trans
      (heads_opening state aims selected named behind level _).2.1)

/-- On eight bits, a `GET` of the program counter jumps to the old accumulator, and `SHADOW 1` gives
the timer for it. -/
theorem exchanges_words_bytes :
    let base : Config := { width := 8 }
    let extended : Config := { width := 8, variant := .extended }
    let line (k : Nat) : Int := k
    let irq (k : Nat) : Bool := k == 5
    let jump : Registers := { state := .execute, opcode := 15, acc := 165, pc := 18 }
    let swap : Registers :=
      { state := .execute, opcode := 11, operand := 1, acc := 165, timer := 255 }
    (∃ e, jump.along base line irq 9 = .ok e ∧ Exchanges base line irq .pc jump e ∧
        e.Begins .fetch ∧ e.acc = 18 ∧ e.pc = 165) ∧
      ∃ e, swap.along extended line irq 9 = .ok e ∧ Exchanges extended line irq .timer swap e ∧
        e.Begins .advance ∧ e.acc = 255 ∧ e.timer = 165 := by
  intro base extended line irq jump swap
  constructor
  · obtain ⟨e, along, swapped⟩ := @exchanges_words base jump line irq ⟨rfl, rfl, rfl, rfl⟩
      .get rfl rfl .pc .pc rfl rfl ⟨by decide, by decide⟩
      ⟨by decide, by decide⟩
    exact ⟨e, along, swapped, swapped.follows, swapped.arrives, swapped.leaves⟩
  · obtain ⟨e, along, swapped⟩ := @exchanges_words extended swap line irq ⟨rfl, rfl, rfl, rfl⟩
      .shadow rfl rfl .timer .timer rfl rfl ⟨by decide, by decide⟩
      ⟨by decide, by decide⟩
    exact ⟨e, along, swapped, swapped.follows, swapped.arrives, swapped.leaves⟩

end Registers

end SerialMachine
