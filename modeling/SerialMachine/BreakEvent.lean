import SerialMachine.Text.Hexadecimal

/-!
# Break events

Why a run stopped, with the address, the word and the number of cycles that belong to it.
-/

namespace SerialMachine

/-- Why a run stopped. -/
inductive BreakReason
  | none | breakpoint | memoryRead | memoryWrite | condition | step | userInterrupt | maxCycles
  | halted | fault
  deriving DecidableEq, Repr, Inhabited

namespace BreakReason

/-- The name of a reason. -/
def name : BreakReason → String
  | none => "NONE"
  | breakpoint => "PC_BREAKPOINT"
  | memoryRead => "MEMORY_READ"
  | memoryWrite => "MEMORY_WRITE"
  | condition => "REGISTER_CONDITION"
  | step => "STEP"
  | userInterrupt => "USER_INTERRUPT"
  | maxCycles => "MAX_CYCLES"
  | halted => "HALTED"
  | fault => "FAULT"

/-- Every reason. -/
def all : List BreakReason :=
  [none, breakpoint, memoryRead, memoryWrite, condition, step, userInterrupt, maxCycles, halted,
    fault]

/-- The reason with a name. -/
def ofName? (text : String) : Option BreakReason :=
  all.find? (·.name == text)

end BreakReason

/-- An event that stopped a run. -/
structure BreakEvent where
  reason : BreakReason
  /-- The program counter or bus address involved. -/
  address : Option Int := none
  /-- The word that was moved. -/
  value : Option Int := none
  /-- The cycles of the run. -/
  cycles : Int := 0
  message : String := ""
  deriving DecidableEq, Repr, Inhabited

namespace BreakEvent

/-- The text of a transfer; none when its address or its word is missing. -/
def transferText? (verb link : String) (e : BreakEvent) : Option String := do
  let value ← e.value
  let address ← e.address
  return verb ++ " $" ++ Text.hex 4 value ++ " " ++ link ++ " $" ++ Text.hex 4 address

/-- The text of an event: its message or else one made from its parts; none when a part is
missing. -/
def text? (e : BreakEvent) : Option String :=
  if e.message != "" then some e.message
  else
    match e.reason with
    | .breakpoint =>
      match e.address with
      | some address => some ("Breakpoint at $" ++ Text.hex 4 address)
      | none => some "Breakpoint"
    | .memoryRead => e.transferText? "Read" "from"
    | .memoryWrite => e.transferText? "Write" "to"
    | .condition => some "Register condition met"
    | .step => some "Single step"
    | .maxCycles => some "Maximum cycles reached"
    | .halted => some "CPU halted"
    | .fault => some "Simulation fault"
    | .none | .userInterrupt => some "Unknown"

end BreakEvent

end SerialMachine
