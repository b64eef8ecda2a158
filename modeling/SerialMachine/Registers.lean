import SerialMachine.Instruction
import SerialMachine.State
import SerialMachine.Text.Hexadecimal

/-!
# The register record

Everything the processor remembers between two clock cycles. Numbers are stored as they are given;
that they stay within the word is a property of runs, not of the type.
-/

namespace SerialMachine

/-- The register record of one cycle. -/
structure Registers where
  state : State := .reset
  /-- The state that follows, taken up on the last cycle of the current one. -/
  choice : State := .fetch
  /-- The cycle within the state, from zero to the word width. -/
  cycle : Int := 0
  /-- The marker of cycle zero. -/
  first : Bool := true
  /-- The marker of the last four cycles. -/
  lastFour : Bool := false
  /-- The accumulator. -/
  acc : Int := 0
  /-- The program counter. -/
  pc : Int := 0
  /-- The operand latch. -/
  operand : Int := 0
  flags : Int := 0
  /-- The opcode nibble of the instruction. -/
  opcode : Int := 0
  /-- The carry latch of the adder. -/
  carry : Int := 0
  shadow : Int := 0
  /-- The timer, which counts fetches. -/
  timer : Int := 0
  /-- The value that the timer is compared with. -/
  compare : Int := 0
  /-- The fetch in progress serves an interrupt. -/
  dispatch : Bool := false
  /-- The operand was fetched indirectly. -/
  indirected : Bool := false
  /-- What the instruction exchanges with the accumulator. -/
  target : Option Target := none
  /-- The bits of timer and compare register agreed so far. -/
  matching : Bool := false
  /-- The interrupt latch. -/
  irq : Bool := false
  deriving DecidableEq, Repr, Inhabited

/-- A numeric field of the register record. -/
inductive Register
  | acc | pc | operand | flags | shadow | timer | compare | opcode | carry | cycle
  deriving DecidableEq, Repr, Inhabited

namespace Register

/-- The seven registers that hold a word. -/
def words : List Register := [acc, pc, operand, flags, shadow, timer, compare]

/-- The short name of a register. -/
def name : Register → String
  | acc => "acc"
  | pc => "pc"
  | operand => "op"
  | flags => "flags"
  | shadow => "shadow"
  | timer => "tcount"
  | compare => "compare"
  | opcode => "cmd"
  | carry => "c"
  | cycle => "counter"

/-- The word register with a short name. -/
def ofWordName? (text : String) : Option Register :=
  words.find? (·.name == text)

/-- The numeric register with a short name. -/
def ofName? (text : String) : Option Register :=
  (words ++ [opcode, carry, cycle]).find? (·.name == text)

end Register

/-- The register behind a target; a peripheral is none. -/
def Target.register? : Target → Option Register
  | .pc => some .pc
  | .flags => some .flags
  | .compare => some .compare
  | .timer => some .timer
  | .shadow => some .shadow
  | .io => none

namespace Registers

/-- The contents of a register. -/
def get (r : Registers) : Register → Int
  | .acc => r.acc
  | .pc => r.pc
  | .operand => r.operand
  | .flags => r.flags
  | .shadow => r.shadow
  | .timer => r.timer
  | .compare => r.compare
  | .opcode => r.opcode
  | .carry => r.carry
  | .cycle => r.cycle

/-- The record with a register overwritten. -/
def set (r : Registers) (register : Register) (value : Int) : Registers :=
  match register with
  | .acc => { r with acc := value }
  | .pc => { r with pc := value }
  | .operand => { r with operand := value }
  | .flags => { r with flags := value }
  | .shadow => { r with shadow := value }
  | .timer => { r with timer := value }
  | .compare => { r with compare := value }
  | .opcode => { r with opcode := value }
  | .carry => { r with carry := value }
  | .cycle => { r with cycle := value }

/-- One line with the state and the registers that both variants have. -/
def describe (r : Registers) : String :=
  s!"state={r.state.name} counter={r.cycle} acc=${Text.hex 4 r.acc} pc=${Text.hex 4 r.pc} " ++
    s!"op=${Text.hex 4 r.operand} flags=${Text.hex 4 r.flags} cmd=${Text.hex 0 r.opcode}"

@[simp] theorem get_set (r : Registers) (register : Register) (value : Int) :
    (r.set register value).get register = value := by
  cases register <;> rfl

theorem get_set_of_ne (r : Registers) {a b : Register} (h : a ≠ b) (value : Int) :
    (r.set a value).get b = r.get b := by
  cases a <;> cases b <;> first | rfl | exact absurd rfl h

end Registers

end SerialMachine
