import SerialMachine.Drive
import SerialMachine.Shift
import SerialMachine.Timing

/-!
# A cycle of the execute state

The first cycle settles what the instruction exchanges and which state follows. Each data cycle then
brings one bit of accumulator and operand together.
-/

namespace SerialMachine.Cycle

open Timing (Markers)

/-- The state that follows the execution of an operation. -/
def executeChoice (config : Config) (r : Registers) (operation : Operation) : State :=
  if operation.loads || (operation == .get && r.target == some .io) then .load
  else if operation.stores || (operation == .set && r.target == some .io) then .store
  else if operation == .jump then .fetch
  else if operation == .jumpz then if r.jumpTaken config then .fetch else .advance
  else if operation.exchanges && r.target == some .pc then .fetch
  else .advance

/-- The first cycle. -/
def executeSetUp (config : Config) (operation : Operation) (r : Registers) : Registers :=
  let target := Instruction.target? config.variant config.width operation r.operand
  let r := { r with target, carry := if operation = Operation.sub then 1 else 0 }
  { r with choice := executeChoice config r operation }

/-- One bit of the accumulator and of a register change places. -/
def exchange (n : Nat) (register : Register) (r : Registers) : Registers :=
  let other := r.get register
  let acc := r.acc
  { r.set register (Shift.enter n other acc) with acc := Shift.enter n acc other }

/-- The operand moves one place around. -/
def turn (n : Nat) (r : Registers) : Registers :=
  { r with operand := Shift.rotate n r.operand }

/-- A data cycle of an operation that sets the accumulator bit and turns the operand. -/
def combine (n : Nat) (bit : Int) (r : Registers) : Registers :=
  { r with acc := Shift.enter n r.acc bit, operand := Shift.rotate n r.operand }

/-- A data cycle of an operation. -/
def executeBit (config : Config) (operation : Operation) (m : Markers) (r : Registers) :
    Except Absent Registers :=
  let n := config.width
  let variant := config.variant
  let a := Bits.low r.acc
  let x := Bits.low r.operand
  let around := Flag.isSet variant .rotate r.flags
  match operation with
  | .or => .ok (combine n (Bits.or a x) r)
  | .and =>
    let done := { r with acc := Shift.enter n r.acc (Bits.and a x) }
    if !config.extended && (m.lastFour || r.indirected) then
      .ok { done with operand := Bits.drop 1 r.operand }
    else
      .ok { done with operand := Shift.rotate n r.operand }
  | .xor => .ok (combine n (Bits.xor a x) r)
  | .invert => .ok (combine n (Bits.xor a 1) r)
  | .add =>
    let (total, carry) := Adder.add a x r.carry
    let flags := if m.last then Flag.put variant .carry (carry != 0) r.flags else r.flags
    .ok (combine n total { r with carry, flags })
  | .sub =>
    let (total, carry) := Adder.add a (Bits.xor x 1) r.carry
    let flags := if m.last then Flag.put variant .borrow (carry == 0) r.flags else r.flags
    .ok (combine n total { r with carry, flags })
  | .lshift => .ok (turn n (if x == 1 then { r with acc := Shift.left n r.acc around } else r))
  | .rshift => .ok (turn n (if x == 1 then { r with acc := Shift.right n r.acc around } else r))
  | .literal => .ok (combine n x r)
  | .jump | .jumpz =>
    .ok (turn n (if r.choice == .fetch then { r with pc := Shift.enter n r.pc x } else r))
  | .get | .set | .shadow =>
    match r.target with
    | none => .error .target
    | some target =>
      match target.register? with
      | none => .ok (turn n r)
      | some register => .ok (exchange n register r)
  | .load | .store | .loadc | .storec => .ok (turn n r)
  | .unused => .ok r

/-- A cycle of the execute state. -/
def execute (config : Config) (m : Markers) (r : Registers) : Except Absent Registers := do
  let operation ← r.operation config
  if m.first then return executeSetUp config operation r
  executeBit config operation m r

end SerialMachine.Cycle
