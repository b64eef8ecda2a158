import SerialMachine.Drive
import SerialMachine.Shift
import SerialMachine.Timing

/-!
# A cycle of the fetch state

The instruction word arrives bit by bit into the operand latch and, for its last four bits, the
opcode latch. Meanwhile the accumulator goes once around for its flags, and in the extended variant
the timer counts and is compared. An interrupt turns the fetch into a dispatch, which exchanges the
program counter with the shadow register.
-/

namespace SerialMachine.Cycle

open Timing (Markers)

/-- The first cycle: the flags of the accumulator start over. -/
def fetchSetUp (config : Config) (r : Registers) : Registers :=
  let variant := config.variant
  let flags := Flag.put variant .zero true r.flags
  let flags := Flag.put variant .parity false flags
  let flags := Flag.put variant .negative (Bits.test (config.width - 1) r.acc) flags
  let r := { r with flags, indirected := false, choice := .execute }
  if config.extended then { r with carry := 1, matching := true } else r

/-- The accumulator moves one place around, and its bit is counted into the flags. -/
def fetchFlags (config : Config) (r : Registers) : Registers :=
  let variant := config.variant
  let flags :=
    if Bits.test 0 r.acc then Flag.toggle variant .parity (Flag.put variant .zero false r.flags)
    else r.flags
  { r with flags, acc := Shift.rotate config.width r.acc }

/-- The arriving bit enters the operand latch, or in the last four cycles the opcode latch. -/
def fetchBit (config : Config) (bit : Int) (m : Markers) (r : Registers) : Registers :=
  if m.lastFour then
    let opcode := Bits.drop 1 r.opcode
    { r with
      operand := Bits.drop 1 r.operand
      opcode := if Bits.test 0 bit then Bits.set 3 opcode else opcode }
  else
    { r with operand := Shift.enter config.width r.operand bit }

/-- The timer counts up by one bit and is compared with the compare register; a match of all bits
requests an interrupt when the timer is enabled. -/
def fetchTimer (config : Config) (m : Markers) (r : Registers) : Registers :=
  let (total, carry) := Adder.add (Bits.low r.timer) 0 r.carry
  let matching := r.matching && total == Bits.low r.compare
  { r with
    carry, matching
    timer := Shift.enter config.width r.timer total
    compare := Shift.rotate config.width r.compare
    irq := r.irq || (m.last && matching && Flag.isSet config.variant .timerEnable r.flags) }

/-- The state after the fetch, in order of precedence; an interrupt starts the dispatch. -/
def fetchChoice (config : Config) (bit : Int) (r : Registers) : Registers :=
  let isSet flag := Flag.isSet config.variant flag r.flags
  if isSet .halt then { r with choice := .halt }
  else if isSet .reset then { r with choice := .reset }
  else if config.extended then
    if isSet .interruptEnable && r.irq then { r with choice := .fetch, dispatch := true }
    else { r with choice := .execute }
  else if isSet .indirect && !Bits.test 0 bit then { r with choice := .indirect }
  else { r with choice := .execute }

/-- A cycle of a fetch that serves an interrupt. -/
def dispatch (config : Config) (m : Markers) (r : Registers) : Registers :=
  if m.first then
    let flags := Flag.put .extended .interruptEnable false r.flags
    { r with flags := Flag.put .extended .halt false flags, irq := false, choice := .fetch }
  else
    { r with
      pc := Shift.enter config.width r.pc r.shadow
      shadow := Shift.enter config.width r.shadow r.pc
      dispatch := !m.last }

/-- A cycle of the fetch state, with the arriving bit. -/
def fetch (config : Config) (bit : Int) (m : Markers) (r : Registers) : Registers :=
  if r.dispatch then
    dispatch config m r
  else if m.first then
    fetchSetUp config r
  else
    let r := fetchBit config bit m (fetchFlags config r)
    let r := if config.extended then fetchTimer config m r else r
    if m.last then fetchChoice config bit r else r

end SerialMachine.Cycle
