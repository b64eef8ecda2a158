import SerialMachine.Host
import SerialMachine.Instruction
import SerialMachine.Shift

/-!
# Word operations at any width

The word operations for a width given as an integer. Each looks at bits a fixed distance below the
top of the word; where the width leaves no such bit, the operation is refused. So it is where the
word would be too long for the host.
-/

namespace SerialMachine.AnyWidth

/-- The width as a number of bits, when it is at least `least`. -/
def atLeast (least : Nat) (width : Int) : Except InvalidValue Nat :=
  if (least : Int) ≤ width then .ok width.toNat else .error .negativeShift

variable {host : Host} {least n : Nat} {width : Int}

/-- The width as a number of bits, when it is at least `least` and the host can hold a number with a
one that many places below it. -/
def roomy (host : Host) (least : Nat) (width : Int) : Except InvalidValue Nat :=
  (host.roomProblem? (width - least)).elim (atLeast least width) .error

theorem roomy_eq_ok_iff : roomy host least width = .ok n ↔
    (least : Int) ≤ width ∧ width - least < host.bits ∧ width.toNat = n := by
  unfold roomy atLeast
  cases problem : host.roomProblem? (width - least) with
  | none =>
    have small := Host.roomProblem?_eq_none_iff.1 problem
    by_cases enough : (least : Int) ≤ width <;> simp [small, enough]
  | some cause =>
    have large := Int.not_lt.2 (Host.le_of_roomProblem? problem)
    simp [large]

theorem roomy_zero_eq_ok_iff (natural : 0 ≤ width) :
    roomy host 0 width = .ok n ↔ width < host.bits ∧ width.toNat = n := by
  rw [roomy_eq_ok_iff, Int.natCast_zero, Int.sub_zero, and_iff_right natural]

/-- A width that is large enough is refused only for want of room. -/
theorem overtaxesHost_of_roomy (enough : (least : Int) ≤ width) {cause : InvalidValue}
    (refused : roomy host least width = .error cause) :
    host.bits ≤ width - least ∧ cause.overtaxesHost = true := by
  unfold roomy atLeast at refused
  cases problem : host.roomProblem? (width - least) with
  | none => simp [problem, enough] at refused
  | some found =>
    simp only [problem, Option.elim_some, Except.error.injEq] at refused
    exact ⟨Host.le_of_roomProblem? problem,
      refused ▸ Host.overtaxesHost_of_roomProblem? problem⟩

theorem overtaxesHost_of_roomy_zero (natural : 0 ≤ width) {cause : InvalidValue}
    (refused : roomy host 0 width = .error cause) :
    host.bits ≤ width ∧ cause.overtaxesHost = true := by
  have large := overtaxesHost_of_roomy natural refused
  rwa [Int.natCast_zero, Int.sub_zero] at large

/-- The largest word. -/
def mask (host : Host) (width : Int) : Except InvalidValue Int :=
  Word.mask <$> roomy host 0 width

/-- The largest operand. -/
def operandMask (host : Host) (width : Int) : Except InvalidValue Int :=
  Word.operandMask <$> roomy host 4 width

/-- The number that has only the bit that selects the peripherals. -/
def selectBit (host : Host) (width : Int) : Except InvalidValue Int :=
  (fun n => Bits.weight (Word.selectPlace n)) <$> roomy host 5 width

/-- `Shift.enter` at any width; a zero needs no room. -/
def enter (host : Host) (width value bit : Int) : Except InvalidValue Int :=
  (Shift.enter · value bit) <$> if Bits.test 0 bit then roomy host 1 width else atLeast 1 width

/-- `Shift.rotate` at any width. -/
def rotate (host : Host) (width value : Int) : Except InvalidValue Int :=
  enter host width value value

/-- `Shift.left` at any width. -/
def left (host : Host) (width value : Int) (around : Bool) : Except InvalidValue Int := do
  let _ ← atLeast 1 width
  (Shift.left · value around) <$> roomy host 0 width

/-- `Shift.right` at any width; without `around` the width does not matter. -/
def right (host : Host) (width value : Int) (around : Bool) : Except InvalidValue Int :=
  if around then rotate host width value else .ok (Bits.drop 1 value)

/-- The refusal of an operand that does not fit, or of its report when the report cannot be
written. -/
def refuseOperand {α : Type} (operand bits : Int) : Except InvalidValue α := do
  let _ ← InvalidValue.decimal bits
  throw (.wideOperand operand bits)

/-- `Instruction.encode` at any width; a missing operation is reported first, then a negative
operand, then a width without room for an opcode. -/
def encode (host : Host) (variant : Variant) (width : Int) (operation : Operation) (operand : Int) :
    Except InvalidValue Int :=
  match Operation.opcode? variant operation with
  | none => .error (.foreignOperation operation variant)
  | some _ =>
    if operand < 0 then refuseOperand operand (width - 4)
    else do Instruction.encode variant (← roomy host 4 width) operation operand

/-- `Instruction.decode` at any width; the word is cut to the width first. -/
def decode (host : Host) (variant : Variant) (width word : Int) :
    Except InvalidValue Instruction := do
  let _ ← roomy host 0 width
  (Instruction.decode variant · word) <$> atLeast 4 width

/-- `Instruction.target?` at any width, which matters for the two exchange operations only. -/
def target? (host : Host) (variant : Variant) (width : Int) (operation : Operation)
    (operand : Int) : Except InvalidValue (Option Target) :=
  if operation.exchanges then
    (Instruction.target? variant · operation operand) <$> roomy host 5 width
  else
    .ok (Instruction.target? variant 0 operation operand)

end SerialMachine.AnyWidth
