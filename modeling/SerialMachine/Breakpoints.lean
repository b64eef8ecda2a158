import SerialMachine.AddressSet
import SerialMachine.BreakEvent
import SerialMachine.Condition

/-!
# Breakpoints

Breakpoints on fetch addresses, watchpoints on word transfers, numbered register conditions and two
one-shot requests. A check that asks for a stop records the event. A removed condition leaves its
number free for the next one added; the numbers of the others do not change.
-/

namespace SerialMachine

/-- The breakpoints of a debugger and the event it recorded last. -/
structure Breakpoints where
  /-- The variant whose flags conditions may name; without it every flag name is accepted. -/
  variant : Option Variant := none
  addresses : AddressSet := {}
  reads : AddressSet := {}
  writes : AddressSet := {}
  /-- The conditions by number; the free numbers hold none. -/
  conditions : List (Option Condition) := []
  lastEvent : Option BreakEvent := none
  /-- Stop at the next fetch, once. -/
  stepMode : Bool := false
  /-- Stop at the next fetch at the user's request, once. -/
  breakRequested : Bool := false
  deriving DecidableEq, Inhabited

namespace Breakpoints

/-! ## Breakpoints and watchpoints -/

/-- Stops fetches at an address. -/
def addBreakpoint (b : Breakpoints) (address : Int) : Breakpoints :=
  { b with addresses := b.addresses.insert address }

/-- No longer stops fetches at an address. -/
def removeBreakpoint (b : Breakpoints) (address : Int) : Breakpoints :=
  { b with addresses := b.addresses.erase address }

/-- Stops after reads from an address. -/
def addReadWatchpoint (b : Breakpoints) (address : Int) : Breakpoints :=
  { b with reads := b.reads.insert address }

/-- Stops after writes to an address. -/
def addWriteWatchpoint (b : Breakpoints) (address : Int) : Breakpoints :=
  { b with writes := b.writes.insert address }

/-- Stops after transfers of the chosen directions. -/
def addWatchpoint (b : Breakpoints) (address : Int) (onRead onWrite : Bool) : Breakpoints :=
  let b := if onRead then b.addReadWatchpoint address else b
  if onWrite then b.addWriteWatchpoint address else b

/-- No longer stops after transfers at an address. -/
def removeWatchpoint (b : Breakpoints) (address : Int) : Breakpoints :=
  { b with reads := b.reads.erase address, writes := b.writes.erase address }

/-- Forgets the breakpoints. -/
def clearBreakpoints (b : Breakpoints) : Breakpoints :=
  { b with addresses := {} }

/-- Forgets the watchpoints. -/
def clearWatchpoints (b : Breakpoints) : Breakpoints :=
  { b with reads := {}, writes := {} }

/-- The number of watchpoints, one for each direction. -/
def watchpointCount (b : Breakpoints) : Nat :=
  b.reads.size + b.writes.size

/-! ## Conditions -/

/-- The lowest free number. -/
def freeNumber (b : Breakpoints) : Nat :=
  b.conditions.findIdx (·.isNone)

/-- Conditions with one more at the first free number. -/
def fill (condition : Condition) : List (Option Condition) → List (Option Condition)
  | [] => [some condition]
  | none :: rest => some condition :: rest
  | some other :: rest => some other :: fill condition rest

/-- Adds a condition and gives its number; refused when it names a flag that the variant lacks. -/
def addCondition (b : Breakpoints) (condition : Condition) :
    Except InvalidValue (Nat × Breakpoints) := do
  if let some variant := b.variant then condition.validate variant
  return (b.freeNumber, { b with conditions := fill condition b.conditions })

/-- Removes the condition with a number, if there is one. -/
def removeCondition (b : Breakpoints) (number : Int) : Breakpoints :=
  if number < 0 then b else { b with conditions := b.conditions.set number.toNat none }

/-- Forgets the conditions. -/
def clearConditions (b : Breakpoints) : Breakpoints :=
  { b with conditions := [] }

/-- The conditions with their numbers, the lowest first. -/
def numbered (b : Breakpoints) : List (Nat × Condition) :=
  b.conditions.zipIdx.filterMap fun (condition?, number) => condition?.map (number, ·)

/-! ## Requests and recorded events -/

/-- Asks for a stop at the next fetch. -/
def requestBreak (b : Breakpoints) : Breakpoints :=
  { b with breakRequested := true }

/-- Takes the request for a stop back. -/
def clearBreakRequest (b : Breakpoints) : Breakpoints :=
  { b with breakRequested := false }

/-- Records an event. -/
def record (b : Breakpoints) (event : BreakEvent) : Breakpoints :=
  { b with lastEvent := some event }

/-- Forgets everything but the variant. -/
def clearAll (b : Breakpoints) : Breakpoints :=
  { variant := b.variant }

/-! ## Checks

A check answers whether the run may go on. -/

/-- The lowest numbered condition that holds. -/
def firstHolding (p : Processor) : List (Option Condition) → Except Absent (Option Condition)
  | [] => .ok none
  | none :: rest => firstHolding p rest
  | some condition :: rest => do
    if ← condition.check p then return some condition
    firstHolding p rest

/-- The check at an instruction fetch. A user's request comes first, then the single step, the
breakpoints, and the conditions in the order of their numbers. -/
def checkFetch (b : Breakpoints) (p : Processor) (pc : Int) : Breakpoints × Except Absent Bool :=
  let stop (reason : BreakReason) (message : String) (b : Breakpoints) :=
    (b.record { reason, address := some pc, message }, Except.ok false)
  if b.breakRequested then
    stop .userInterrupt "User interrupt" { b with breakRequested := false }
  else if b.stepMode then
    stop .step ("Step at $" ++ Text.hex 4 pc) { b with stepMode := false }
  else if b.addresses.contains pc then
    stop .breakpoint ("Breakpoint at $" ++ Text.hex 4 pc) b
  else
    match firstHolding p b.conditions with
    | .error absent => (b, .error absent)
    | .ok (some condition) => stop .condition ("Condition: " ++ condition.description) b
    | .ok none => (b, .ok true)

/-- The check after a read. -/
def checkRead (b : Breakpoints) (address value : Int) : Breakpoints × Bool :=
  if b.reads.contains address then
    let message := "Read $" ++ Text.hex 4 value ++ " from $" ++ Text.hex 4 address
    (b.record { reason := .memoryRead, address := some address, value := some value, message },
      false)
  else
    (b, true)

/-- The check after a write. -/
def checkWrite (b : Breakpoints) (address value : Int) : Breakpoints × Bool :=
  if b.writes.contains address then
    let message := "Write $" ++ Text.hex 4 value ++ " to $" ++ Text.hex 4 address
    (b.record { reason := .memoryWrite, address := some address, value := some value, message },
      false)
  else
    (b, true)

end Breakpoints

end SerialMachine
