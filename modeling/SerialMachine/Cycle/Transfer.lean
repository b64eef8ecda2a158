import SerialMachine.Config
import SerialMachine.Adder
import SerialMachine.Registers
import SerialMachine.Shift
import SerialMachine.Timing

/-!
# Cycles of the remaining states

Each of these states moves one word by one bit a cycle: zeros into every register, the operand out
as an address and in again, the accumulator in or out, the program counter through the adder.
-/

namespace SerialMachine.Cycle

open Timing (Markers)

/-- A cycle of the reset state: latches are cleared at once, words one bit at a time. -/
def reset (config : Config) (m : Markers) (r : Registers) : Registers :=
  if m.first then
    { r with
      choice := .fetch, opcode := 0, carry := 0, dispatch := false, indirected := false
      target := none, matching := false, irq := false }
  else
    let zeroIn := fun value => Shift.enter config.width value 0
    { r with
      acc := zeroIn r.acc, pc := zeroIn r.pc, operand := zeroIn r.operand, flags := zeroIn r.flags
      shadow := zeroIn r.shadow, timer := zeroIn r.timer, compare := zeroIn r.compare }

/-- A cycle of the state that drives the operand as an address. -/
def indirect (config : Config) (m : Markers) (r : Registers) : Registers :=
  if m.first then { r with choice := .operand, indirected := true }
  else { r with operand := Shift.rotate config.width r.operand }

/-- A cycle of the state that reads the operand. -/
def operand (config : Config) (bit : Int) (m : Markers) (r : Registers) : Registers :=
  if m.first then { r with choice := .execute }
  else { r with operand := Shift.enter config.width r.operand bit }

/-- A cycle of the state that reads the accumulator. -/
def load (config : Config) (bit : Int) (m : Markers) (r : Registers) : Registers :=
  if m.first then { r with choice := .advance }
  else { r with acc := Shift.enter config.width r.acc bit }

/-- A cycle of the state that writes the accumulator. -/
def store (config : Config) (m : Markers) (r : Registers) : Registers :=
  if m.first then { r with choice := .advance }
  else { r with acc := Shift.rotate config.width r.acc }

/-- A cycle of the state that increases the program counter. -/
def advance (config : Config) (m : Markers) (r : Registers) : Registers :=
  if m.first then { r with carry := 1, choice := .fetch }
  else
    let (total, carry) := Adder.add (Bits.low r.pc) 0 r.carry
    { r with carry, pc := Shift.enter config.width r.pc total }

/-- A cycle of a halt, which only an enabled interrupt ends. -/
def halt (config : Config) (m : Markers) (r : Registers) : Registers :=
  if m.last && config.extended && Flag.isSet config.variant .interruptEnable r.flags && r.irq then
    { r with dispatch := true, choice := .fetch }
  else
    { r with choice := .halt }

end SerialMachine.Cycle
