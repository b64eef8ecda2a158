import SerialMachine.Machine
import SerialMachine.Text.Quoted

/-!
# Register conditions

A condition compares a register or a flag of the processor with a value. The name of its subject is
taken in any letter case; a flag is named `flag_` and its short name. Whether a variant has the flag
is examined separately, so a condition may name a flag that the processor lacks.
-/

namespace SerialMachine

/-- A comparison. -/
inductive Comparison
  | equal | notEqual | less | lessOrEqual | greater | greaterOrEqual
  /-- Some bit is set in both. -/
  | commonBit
  deriving DecidableEq, Repr, Inhabited

namespace Comparison

/-- The symbol of a comparison. -/
def name : Comparison → String
  | equal => "=="
  | notEqual => "!="
  | less => "<"
  | lessOrEqual => "<="
  | greater => ">"
  | greaterOrEqual => ">="
  | commonBit => "&"

/-- Every comparison. -/
def all : List Comparison :=
  [equal, notEqual, less, lessOrEqual, greater, greaterOrEqual, commonBit]

/-- The comparison with a symbol. -/
def ofName? (text : String) : Option Comparison :=
  all.find? (·.name == text)

/-- Whether the comparison holds. -/
def holds : Comparison → Int → Int → Bool
  | equal, x, y => x == y
  | notEqual, x, y => x != y
  | less, x, y => x < y
  | lessOrEqual, x, y => x ≤ y
  | greater, x, y => x > y
  | greaterOrEqual, x, y => x ≥ y
  | commonBit, x, y => Bits.and x y != 0

end Comparison

/-- A value that something is compared with; a truth value counts as one or zero. -/
inductive Comparand
  | number (value : Int)
  | truth (value : Bool)
  deriving DecidableEq, Repr

namespace Comparand

/-- The number that is compared. -/
def toInt : Comparand → Int
  | number value => value
  | truth value => if value then 1 else 0

/-- The text of the value. -/
def text : Comparand → String
  | number value => Text.decimal value
  | truth value => Text.truth value

/-- The text of the value in a description, refused for a number with too many digits. -/
def described : Comparand → Except InvalidValue String
  | number value => InvalidValue.decimal value
  | truth value => .ok (Text.truth value)

end Comparand

/-- What a condition looks at. -/
inductive Subject
  | register (register : Register)
  /-- The flag whose name follows `flag_`, in small letters. -/
  | flag (name : String)
  deriving DecidableEq, Repr

namespace Subject

/-- The mark that a flag's name follows. -/
def flagMark : List Char := ['f', 'l', 'a', 'g', '_']

/-- The name of a subject, in small letters. -/
def name : Subject → String
  | register r => r.name
  | flag name => String.ofList flagMark ++ name

/-- The subject that a text names. -/
def ofName (text : String) : Except InvalidValue Subject :=
  let wanted := Text.lower text.toList
  match Register.ofWordName? (String.ofList wanted) with
  | some r => .ok (register r)
  | none =>
    if flagMark.isPrefixOf wanted then .ok (flag (String.ofList (wanted.drop flagMark.length)))
    else .error (.unknownRegister text)

/-- Refuses a flag that the variant lacks. -/
def validate (variant : Variant) : Subject → Except InvalidValue Unit
  | register _ => .ok ()
  | flag name =>
    match Flag.ofName? variant (Text.upperString name) with
    | some _ => .ok ()
    | none => .error (.unknownFlag (Subject.flag name).name variant)

/-- The value of a subject. -/
def read (p : Processor) : Subject → Except Absent Int
  | register r => .ok (p.registers.get r)
  | flag name => (fun on => if on then 1 else 0) <$> p.flag name

end Subject

/-- A condition on the processor, examined at each instruction fetch. -/
structure Condition where
  subject : Subject
  comparison : Comparison
  value : Comparand
  description : String
  deriving DecidableEq, Repr

namespace Condition

/-- The description of a condition: the text given for it, or else its parts as given. -/
def describe (register comparison : String) (value : Comparand) (description : String) :
    Except InvalidValue String :=
  if description == "" then (fun text => s!"{register} {comparison} {text}") <$> value.described
  else .ok description

/-- The condition with the given parts. It is described first, then the register is examined, then
the comparison. -/
def make (register comparison : String) (value : Comparand) (description : String) :
    Except InvalidValue Condition := do
  let description ← describe register comparison value description
  let subject ← Subject.ofName register
  match Comparison.ofName? comparison with
  | none => throw (.unknownComparison comparison)
  | some comparison => return { subject, comparison, value, description }

/-- Refuses a condition on a flag that the variant lacks. -/
def validate (variant : Variant) (c : Condition) : Except InvalidValue Unit :=
  c.subject.validate variant

/-- The condition with the given parts, refused when it names a flag that the given variant
lacks. -/
def makeFor (variant : Option Variant) (register comparison : String) (value : Comparand)
    (description : String) : Except InvalidValue Condition := do
  let c ← make register comparison value description
  if let some variant := variant then c.validate variant
  return c

/-- Whether the condition holds; an error when the processor lacks the flag that it names. -/
def check (c : Condition) (p : Processor) : Except Absent Bool := do
  let actual ← c.subject.read p
  return c.comparison.holds actual c.value.toInt

/-- The condition as it is written down. -/
def repr (c : Condition) : String :=
  "RegisterCondition(" ++ Text.quoted c.subject.name ++ ", " ++ Text.quoted c.comparison.name ++
    ", " ++ c.value.text ++ ")"

end Condition

end SerialMachine
