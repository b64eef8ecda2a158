import SerialMachine.Registers

/-!
# Faults

A violation is a condition that a correct machine never meets. The fault that reports it carries the
register record and the number of the clock cycle at which it was met. A look-up that finds nothing
is a different matter: it is no fault of the machine, and stops the request that met it.
-/

namespace SerialMachine

/-- The kinds of violations. -/
inductive ViolationKind
  | general
  /-- The sequencer or the state graph is in an impossible configuration. -/
  | structural
  /-- The bus is used outside its protocol. -/
  | protocol
  deriving DecidableEq, Repr, Inhabited

/-- A condition that a correct machine never meets. -/
inductive Violation
  /-- The cycle number is outside the state. -/
  | cycleOutOfRange (cycle width : Int)
  /-- The marker of the first cycle disagrees with the cycle. -/
  | wrongFirst (first : Bool) (cycle : Int)
  /-- The marker of the last four cycles disagrees with the cycle. -/
  | wrongLastFour (lastFour : Bool) (cycle : Int)
  /-- The state does not exist in the extended variant. -/
  | foreignState (state : State)
  /-- The state graph has no such edge. -/
  | illegalSuccessor (state next : State)
  /-- The next state does not exist in the extended variant. -/
  | foreignSuccessor (state next : State)
  /-- The base variant serves no interrupts. -/
  | dispatchInBase
  /-- Several strobes are asserted in one cycle. -/
  | strobesTogether (strobes : List String)
  /-- The input line is driven while nothing is being read. -/
  | strayInput
  /-- A violation met outside the machine, with its own text. -/
  | reported (kind : ViolationKind) (text : String)
  deriving DecidableEq, Repr

namespace Violation

/-- The kind of a violation. -/
def kind : Violation → ViolationKind
  | strobesTogether _ | strayInput => .protocol
  | reported kind _ => kind
  | _ => .structural

/-- The numbers that the text that reports a violation holds in base ten. -/
def numbers : Violation → List Int
  | cycleOutOfRange cycle width => [cycle, width]
  | wrongFirst _ cycle | wrongLastFour _ cycle => [cycle]
  | _ => []

/-- The text that reports a violation. -/
def message : Violation → String
  | cycleOutOfRange cycle width => s!"cycle counter {cycle} outside 0..{width}"
  | wrongFirst first cycle => s!"first={Text.truth first} but cycle counter is {cycle}"
  | wrongLastFour lastFour cycle => s!"last4={Text.truth lastFour} but cycle counter is {cycle}"
  | foreignState state => s!"{state.name} does not exist in the extended variant"
  | illegalSuccessor state next => s!"illegal transition {state.name} -> {next.name}"
  | foreignSuccessor state next =>
    s!"illegal transition {state.name} -> {next.name} in the extended variant"
  | dispatchInBase => "interrupt dispatch in the base variant"
  | strobesTogether strobes =>
    "bus protocol violation: " ++ " and ".intercalate strobes ++ " asserted together"
  | strayInput => "input line driven outside an ie window"
  | reported _ text => text

end Violation

/-- A violation with the circumstances in which it was met, as far as they are known. -/
structure Fault where
  violation : Violation
  /-- The register record at the time. -/
  snapshot : Option Registers := none
  /-- The number of clock cycles before. -/
  cycle : Option Int := none
  deriving DecidableEq, Repr

namespace Fault

/-- The fault that reports a violation, refused when its text would hold too long a numeral. -/
def make (violation : Violation) (snapshot : Option Registers) (cycle : Option Int) :
    Except InvalidValue Fault := do
  InvalidValue.checkNumerals (cycle.toList ++ violation.numbers ++ (snapshot.map (·.cycle)).toList)
  return { violation, snapshot, cycle }

theorem eq_of_make {violation : Violation} {snapshot : Option Registers} {cycle : Option Int}
    {fault : Fault} (made : make violation snapshot cycle = .ok fault) :
    fault = { violation, snapshot, cycle } := by
  unfold make at made
  cases checked : InvalidValue.checkNumerals
      (cycle.toList ++ violation.numbers ++ (snapshot.map (·.cycle)).toList) with
  | error cause =>
    rw [checked] at made
    cases made
  | ok =>
    rw [checked] at made
    exact (Except.ok.inj made).symm

/-- The fault that reports a violation met with the given registers at the given clock cycle. -/
def withContext (violation : Violation) (snapshot : Registers) (cycle : Int) :
    Except InvalidValue Fault :=
  make violation (some snapshot) (some cycle)

/-- The text of a fault: the clock cycle and the violation, then the registers on a second line. -/
def text (fault : Fault) : String :=
  let head :=
    match fault.cycle with
    | some cycle => s!"cycle {cycle}: {fault.violation.message}"
    | none => fault.violation.message
  match fault.snapshot with
  | some registers => head ++ "\n    " ++ registers.describe
  | none => head

end Fault

/-- Something looked up that is not there. -/
inductive Absent
  /-- No operation has the opcode. -/
  | operation (opcode : Int)
  /-- An exchange goes on without a target. -/
  | target
  /-- The variant has no flag of the name. -/
  | flag (name : String)
  deriving DecidableEq, Repr

/-- The key that was looked up. -/
def Absent.key : Absent → String
  | operation opcode => toString opcode
  | target => "None"
  | flag name => name

/-- What keeps a cycle from being completed. -/
inductive Obstacle
  | violation (violation : Violation)
  | absent (absent : Absent)
  /-- A violation cannot be reported. -/
  | invalid (cause : InvalidValue)
  deriving DecidableEq, Repr

/-- A violation as an obstacle, unless its report would hold too long a numeral. -/
def Violation.obstacle (violation : Violation) : Obstacle :=
  match InvalidValue.checkNumerals violation.numbers with
  | .ok () => .violation violation
  | .error cause => .invalid cause

namespace Violation

variable {violation : Violation}

theorem obstacle_eq_violation
    (short : ∀ number ∈ violation.numbers, Text.writeDecimal? number ≠ none) :
    violation.obstacle = .violation violation := by
  rw [obstacle, InvalidValue.checkNumerals_eq_ok_iff.2 short]

theorem obstacle_eq_invalid
    (long : ∃ number ∈ violation.numbers, Text.writeDecimal? number = none) :
    violation.obstacle = .invalid .longNumeral := by
  rw [obstacle, InvalidValue.checkNumerals_eq_error_iff.2 ⟨long, rfl⟩]

end Violation

end SerialMachine
