import SerialMachine.Cycle.Execute
import SerialMachine.Cycle.Fetch
import SerialMachine.Cycle.Transfer

/-!
# The next register record

One clock cycle as a function of the register record, the input bit and the interrupt line. Records
with inconsistent markers are refused, and so is a next state that the state graph does not allow.
-/

namespace SerialMachine.Registers

/-- The work of the record's state in one cycle. -/
def work (config : Config) (bit : Int) (m : Timing.Markers) (r : Registers) :
    Except Absent Registers :=
  match r.state with
  | .reset => .ok (Cycle.reset config m r)
  | .fetch => .ok (Cycle.fetch config bit m r)
  | .indirect => .ok (Cycle.indirect config m r)
  | .operand => .ok (Cycle.operand config bit m r)
  | .execute => Cycle.execute config m r
  | .store => .ok (Cycle.store config m r)
  | .load => .ok (Cycle.load config bit m r)
  | .advance => .ok (Cycle.advance config m r)
  | .halt => .ok (Cycle.halt config m r)

/-- The record on the first cycle of its chosen state. -/
def commit (config : Config) (r : Registers) : Except Violation Registers :=
  if !r.state.successors.contains r.choice then
    .error (.illegalSuccessor r.state r.choice)
  else if r.choice.baseOnly && config.extended then
    .error (.foreignSuccessor r.state r.choice)
  else if r.state == .fetch && r.choice == .fetch && !config.extended then
    .error .dispatchInBase
  else
    .ok { r with state := r.choice, cycle := 0, first := true, lastFour := false }

/-- The record on the next cycle of the same state. -/
def proceed (config : Config) (r : Registers) : Registers :=
  let cycle := Timing.next r.cycle config.width
  { r with cycle, first := false, lastFour := (Timing.markers cycle config.width).lastFour }

/-- Refuses a record that no cycle can begin with. -/
def checkStart (config : Config) (r : Registers) : Except Obstacle Unit := do
  Timing.check r.cycle r.first r.lastFour config.width
  if r.state.baseOnly && config.extended then throw (.violation (.foreignState r.state))

/-- The register record after one clock cycle. -/
def transition (config : Config) (r : Registers) (bit : Int) (irq : Bool) :
    Except Obstacle Registers := do
  r.checkStart config
  let m := Timing.markers r.cycle config.width
  let latched := { r with irq := r.irq || (config.extended && irq) }
  let worked ← (latched.work config bit m).mapError Obstacle.absent
  if m.last then (worked.commit config).mapError Obstacle.violation
  else return worked.proceed config

end SerialMachine.Registers
