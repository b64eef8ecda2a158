import SerialMachine.Proofs.Flags
import SerialMachine.Proofs.Timed
import SerialMachine.Proofs.Transfers

/-!
# Instructions word by word

What programs see of a machine, and what one instruction does to it when whole words are read,
combined and written at once. Each variant has its own step from one instruction to the next.
-/

namespace SerialMachine

open Bits (keep test weight)

/-- The words and the devices that programs see. -/
structure WordMachine where
  acc : Int
  pc : Int
  flags : Int
  shadow : Int
  timer : Int
  compare : Int
  /-- The devices, behind a bus at rest. -/
  bus : Bus
  /-- What the bus has reported so far, every word transfer included. -/
  reports : List Event

/-- The instruction that a word holds. -/
def Config.decode (config : Config) (word : Int) : Instruction :=
  Instruction.decode config.variant config.width word

/-- The opcode of a word is its highest nibble. -/
theorem Instruction.opcode_decode (variant : Variant) {n : Nat} (wide : 4 ≤ n) {word : Int}
    (fits : Word.Fits n word) :
    ((decode variant n word).opcode : Int) = Bits.drop (n - 4) word ∧
      (decode variant n word).opcode < 2 ^ 4 := by
  have nibble : Word.Fits 4 (Bits.drop (n - 4) word) := by
    apply Bits.fits_drop
    rwa [show 4 + (n - 4) = n by omega]
  obtain ⟨k, lt, opcode⟩ := Bits.exists_natCast_of_fits nibble
  rw [decode, Bits.keep_eq_self fits, opcode]
  exact ⟨rfl, lt⟩

theorem Config.opcode_decode (config : Config) {word : Int} (fits : Word.Fits config.width word) :
    ((config.decode word).opcode : Int) = Bits.drop (config.width - 4) word ∧
      (config.decode word).opcode < 2 ^ 4 :=
  Instruction.opcode_decode config.variant config.four_lt_width.le fits

namespace WordMachine

/-- Reads a word over the bus. -/
def read (m : WordMachine) (address : Int) : Int × WordMachine :=
  let (value, bus, events) := m.bus.readWord address
  (value, { m with bus, reports := m.reports ++ events })

/-- Writes a word over the bus. -/
def write (m : WordMachine) (address value : Int) : WordMachine :=
  let (bus, events) := m.bus.writeWord address value
  { m with bus, reports := m.reports ++ events }

/-- Whether a flag is set. -/
def isSet (config : Config) (flag : Flag) (m : WordMachine) : Bool :=
  Flag.isSet config.variant flag m.flags

/-- Whether the timer requests an interrupt. -/
def due (config : Config) (m : WordMachine) : Bool :=
  m.isSet config .timerEnable && m.timer == m.compare

/-- What a fetch brings up to date: the flags that describe the accumulator and, in the extended
variant, the timer, which counts fetches. -/
def refresh (config : Config) (m : WordMachine) : WordMachine :=
  { m with
    flags :=
      Flag.put config.variant .zero (m.acc == 0)
        (Flag.put config.variant .parity (Bits.ones config.width m.acc % 2 == 1)
          (Flag.put config.variant .negative (test (config.width - 1) m.acc) m.flags))
    timer := if config.extended then keep config.width (m.timer + 1) else m.timer }

/-- The word at the program counter, and the machine when it has been fetched. -/
def fetch (config : Config) (m : WordMachine) : Int × WordMachine :=
  let (word, m) := m.read m.pc
  (word, m.refresh config)

/-- The machine with the program counter at the next instruction. -/
def advance (config : Config) (m : WordMachine) : WordMachine :=
  { m with pc := keep config.width (m.pc + 1) }

/-- The machine with the word at an address in the accumulator. -/
def load (m : WordMachine) (address : Int) : WordMachine :=
  let (value, m) := m.read address
  { m with acc := value }

/-- An exchange of the accumulator with a register, up to the next instruction. An exchange with the
program counter is a jump. -/
def exchange (config : Config) (m : WordMachine) : Target → WordMachine
  | .pc => { m with acc := m.pc, pc := m.acc }
  | .flags => { m with acc := m.flags, flags := m.acc }.advance config
  | .compare => { m with acc := m.compare, compare := m.acc }.advance config
  | .timer => { m with acc := m.timer, timer := m.acc }.advance config
  | .shadow => { m with acc := m.shadow, shadow := m.acc }.advance config
  | .io => m.advance config

/-- The effect of an operation with the operand `x`, up to the next instruction. -/
def execute (config : Config) (operation : Operation) (x : Int) (m : WordMachine) : WordMachine :=
  let n := config.width
  let variant := config.variant
  let around := m.isSet config .rotate
  match operation with
  | .or => { m with acc := Bits.or m.acc x }.advance config
  | .and => { m with acc := Bits.and m.acc x }.advance config
  | .xor => { m with acc := Bits.xor m.acc x }.advance config
  | .invert => { m with acc := Word.mask n - m.acc }.advance config
  | .add =>
    { m with
      acc := keep n (m.acc + x)
      flags := Flag.put variant .carry (decide (weight n ≤ m.acc + x)) m.flags }.advance config
  | .sub =>
    { m with
      acc := keep n (m.acc - x)
      flags := Flag.put variant .borrow (decide (m.acc < x)) m.flags }.advance config
  | .lshift => { m with acc := Word.leftBy n (Bits.ones n x) around m.acc }.advance config
  | .rshift => { m with acc := Word.rightBy n (Bits.ones n x) around m.acc }.advance config
  | .load | .loadc => (m.load x).advance config
  | .store | .storec => (m.write x m.acc).advance config
  | .literal => { m with acc := x }.advance config
  | .unused => m.advance config
  | .jump => { m with pc := x }
  | .jumpz =>
    if (m.acc == 0) != config.jumpzOnNonzero then { m with pc := x } else m.advance config
  | .get | .set | .shadow =>
    match Instruction.target? variant n operation x with
    | some .io =>
      if operation = .get then (m.load x).advance config else (m.write x m.acc).advance config
    | some target => m.exchange config target
    | none => m.advance config

/-- Every register zero. -/
def restart (m : WordMachine) : WordMachine :=
  { m with acc := 0, pc := 0, flags := 0, shadow := 0, timer := 0, compare := 0 }

/-- The machine at the handler of an interrupt. -/
def dispatch (m : WordMachine) : WordMachine :=
  { m with
    pc := m.shadow, shadow := m.pc
    flags := Flag.put .extended .halt false (Flag.put .extended .interruptEnable false m.flags) }

/-- What one step comes to. -/
structure Outcome where
  machine : WordMachine
  /-- The interrupt latch. -/
  pending : Bool
  /-- The machine has come to a halt. -/
  halted : Bool

/-- One step of the base variant. -/
def baseStep (config : Config) (m : WordMachine) : Outcome :=
  let (word, m) := m.fetch config
  let instruction := config.decode word
  if m.isSet config .halt then
    { machine := m, pending := false, halted := true }
  else if m.isSet config .reset then
    { machine := m.restart, pending := false, halted := false }
  else if m.isSet config .indirect && decide (instruction.opcode < 8) then
    let (operand, m) := m.read instruction.operand
    { machine := m.execute config instruction.operation operand, pending := false, halted := false }
  else
    { machine := m.execute config instruction.operation instruction.operand
      pending := false, halted := false }

/-- One step of the extended variant that takes some number of cycles, with the interrupt line at
`level k` in cycle `k` and the interrupt latch as given. A restart and a dispatch clear the latch in
the first cycle of their state, which is the last state of the step. -/
def extendedStep (config : Config) (level : Nat → Bool) (cycles : Nat) (m : WordMachine)
    (pending : Bool) : Outcome :=
  let n := config.width
  let (word, m) := m.fetch config
  let instruction := config.decode word
  let due := m.due config
  if m.isSet config .halt then
    { machine := m, pending := pending || due || raised level 0 cycles, halted := true }
  else if m.isSet config .reset then
    { machine := m.restart, pending := raised level (cycles - n) n, halted := false }
  else if m.isSet config .interruptEnable && (pending || due || raised level 0 (n + 1)) then
    { machine := m.dispatch, pending := raised level (cycles - n) n, halted := false }
  else
    { machine := m.execute config instruction.operation instruction.operand
      pending := pending || due || raised level 0 cycles, halted := false }

end WordMachine

end SerialMachine
