import SerialMachine.Bus
import SerialMachine.Refusal
import SerialMachine.Room

/-!
# The processor on its bus

One clock cycle drives the lines, lets the bus answer and takes up the next register record. A
violation on the way stops the processor until it is reset, with its registers and its count of
cycles as they were.
-/

namespace SerialMachine

/-- The outcome of a clock cycle. -/
inductive Status
  | normal
  /-- The machine stands in a halt. -/
  | halted
  /-- The processor has met a fault. -/
  | faulted
  deriving DecidableEq, Repr, Inhabited

/-- The name of an outcome. -/
def Status.name : Status → String
  | normal => "NORMAL"
  | halted => "HALTED"
  | faulted => "FAULTED"

/-- A processor. -/
structure Processor where
  config : Config
  registers : Registers := {}
  /-- The clock cycles since the last reset. -/
  cycles : Nat := 0
  /-- The fault that stopped the processor. -/
  fault : Option Fault := none
  /-- The lines driven in the last completed cycle. -/
  signals : Signals := {}
  /-- The level of the interrupt line. -/
  irq : Bool := false
  deriving DecidableEq, Repr, Inhabited

namespace Processor

/-- Whether the machine stands in a halt. -/
def halted (p : Processor) : Bool :=
  p.registers.state == .halt

/-- Whether an instruction fetch is about to begin. -/
def atFetch (p : Processor) : Bool :=
  p.registers.state == .fetch && p.registers.first && !p.registers.dispatch

/-- Whether the flag with a name, in any letter case, is set. -/
def flag (p : Processor) (name : String) : Except Absent Bool :=
  let wanted := Text.upperString name
  match Flag.ofName? p.config.variant wanted with
  | some flag => .ok (Flag.isSet p.config.variant flag p.registers.flags)
  | none => .error (.flag wanted)

/-- The processor with registers overwritten by the lowest bits of the given values. -/
def setRegisters (p : Processor) (values : List (Register × Int)) : Processor :=
  { p with
    registers := values.foldl
      (fun r entry => r.set entry.1 (Bits.keep p.config.width entry.2)) p.registers }

/-- `setRegisters` on a host, which refuses a width that it has no room for. -/
def overwrite (p : Processor) (values : List (Register × Int)) : Except InvalidValue Processor := do
  let _ ← AnyWidth.roomy p.config.host 0 p.config.width
  return p.setRegisters values

/-- The processor stopped by a violation, unless the violation cannot be reported. -/
def fail (p : Processor) (violation : Violation) : Except InvalidValue Processor := do
  return { p with fault := some (← Fault.withContext violation p.registers p.cycles) }

/-- The processor with the next register record taken up. -/
def commit (p : Processor) (signals : Signals) (next : Registers) : Processor :=
  { p with registers := next, cycles := p.cycles + 1, signals }

/-- What is reported when a state begins, by a processor that has just entered it. -/
def entered (p : Processor) (previous : State) : List Event :=
  if !p.registers.first then []
  else if p.registers.state == .halt then
    if previous == .halt then [] else [.halted p.registers.pc p.cycles]
  else if p.registers.state == .fetch then
    if p.registers.dispatch then [.dispatchStarted p.registers.pc]
    else [.fetchStarted p.registers]
  else []

end Processor

/-- A processor and the bus it is attached to. -/
structure Machine (β : Type) where
  processor : Processor
  bus : β

/-- The outcome of one step: the state after it, what happened, and its status, unless the step was
refused. -/
structure Step (σ : Type) where
  state : σ
  events : List Event
  status : Except Refusal Status

namespace Machine

variable {β : Type} [SerialBus β]

/-- The step that leaves the processor as it was, for a cause beyond the machine. -/
def refused (processor : Processor) (bus : β) (events : List Event) (refusal : Refusal) :
    Step (Machine β) :=
  { state := { processor, bus }, events, status := .error refusal }

/-- The step of a machine that a violation stops, unless the violation cannot be reported. -/
def failed (processor : Processor) (bus : β) (events : List Event) (violation : Violation) :
    Step (Machine β) :=
  match processor.fail violation with
  | .error cause => refused processor bus events (.invalid cause)
  | .ok processor =>
    { state := { processor, bus }
      events := events ++ [.faulted ((processor.fault.map Fault.text).getD "")]
      status := .ok .faulted }

/-- The step in which the bus has answered the given lines with an input bit. -/
def answered (processor : Processor) (bus : β) (events : List Event) (signals : Signals)
    (bit : Int) : Step (Machine β) :=
  if bit ≠ 0 ∧ signals.ie = false then
    failed processor bus events .strayInput
  else
    match processor.registers.transition processor.config bit processor.irq with
    | .error (.violation violation) => failed processor bus events violation
    | .error (.absent absent) => refused processor bus events (.absent absent)
    | .error (.invalid cause) => refused processor bus events (.invalid cause)
    | .ok next =>
      let after := processor.commit signals next
      { state := { processor := after, bus }
        events := events ++ after.entered processor.registers.state
        status := .ok (if after.halted then .halted else .normal) }

/-- One clock cycle. -/
def step (m : Machine β) : Step (Machine β) :=
  let p := m.processor
  if p.fault.isSome then
    { state := m, events := [], status := .ok .faulted }
  else
    match p.registers.drive p.config with
    | .error absent => refused p m.bus [] (.absent absent)
    | .ok signals =>
      match signals.check with
      | .error violation => failed p m.bus [] violation
      | .ok () =>
        let turn := SerialBus.cycle m.bus signals
        match turn.reply with
        | .error violation => failed p turn.bus turn.events violation
        | .ok bit => answered p turn.bus turn.events signals bit

/-- The step that ends when the processor has no room for the next cycle, which the bus has then
been through; none when there is room, or when the step ends otherwise. -/
def crampedStep? (m : Machine β) : Option (Step (Machine β)) := do
  let p := m.processor
  if p.config.roomy || p.fault.isSome then none
  let .ok signals := p.registers.drive p.config | none
  let .ok () := signals.check | none
  let turn := SerialBus.cycle m.bus signals
  let .ok bit := turn.reply | none
  if bit ≠ 0 ∧ signals.ie = false then none
  let cause ← p.registers.roomProblem? p.config bit
  return refused p turn.bus turn.events (.invalid cause)

theorem crampedStep?_eq_none {m : Machine β} (h : m.processor.config.roomy = true) :
    m.crampedStep? = none := by
  simp [crampedStep?, h]

/-- The machine as it is when the power comes on; the interrupt line keeps its level. -/
def reset (m : Machine β) : Machine β × List Event :=
  let config := m.processor.config
  ({ processor := { config, irq := m.processor.irq }, bus := SerialBus.reset m.bus },
    [.reset config.width config.variant])

end Machine

end SerialMachine
