import SerialMachine.Adder
import SerialMachine.Config
import SerialMachine.Signals

/-!
# The lines driven in a cycle

The lines depend on the register record alone, never on the input bit of the same cycle. The address
of a word transfer is driven in the state before it, lowest bit first: the new program counter ahead
of a fetch, the operand ahead of a load or store.
-/

namespace SerialMachine

namespace Registers

/-- The operation that the opcode latch selects. -/
def operation (config : Config) (r : Registers) : Except Absent Operation :=
  match Operation.ofOpcode? config.variant r.opcode with
  | some operation => .ok operation
  | none => .error (.operation r.opcode)

/-- Whether the conditional jump is taken. -/
def jumpTaken (config : Config) (r : Registers) : Bool :=
  Flag.isSet config.variant .zero r.flags != config.jumpzOnNonzero

end Registers

namespace Drive

/-- The lines in a data cycle of the execute state. -/
def execute (config : Config) (r : Registers) (operation : Operation) : Signals :=
  if operation.loads || operation.stores || operation == .jump || r.target == some .io ||
      (operation == .jumpz && r.jumpTaken config) then
    .address (Bits.low r.operand)
  else if operation.exchanges && r.target == some .pc then
    .address (Bits.low r.acc)
  else
    {}

/-- The lines in a data cycle. -/
def data (config : Config) (r : Registers) : Except Absent Signals :=
  match r.state with
  | .reset => .ok (.address 0)
  | .fetch => .ok (if r.dispatch then .address (Bits.low r.shadow) else .input)
  | .indirect => .ok (.address (Bits.low r.operand))
  | .operand | .load => .ok .input
  | .store => .ok (.output (Bits.low r.acc))
  | .advance => .ok (.address (Adder.add (Bits.low r.pc) 0 r.carry).1)
  | .execute => execute config r <$> r.operation config
  | .halt => .ok {}

end Drive

/-- The lines that the processor drives: none in the first cycle of a state, and in a halt nothing
but `stop`. -/
def Registers.drive (config : Config) (r : Registers) : Except Absent Signals :=
  if r.state == .halt then .ok { stop := true }
  else if r.first then .ok {}
  else Drive.data config r

end SerialMachine
