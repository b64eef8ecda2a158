import SerialMachine.AnyWidth
import SerialMachine.Event
import SerialMachine.Word

/-!
# Peripherals

A serial line that sends and receives bytes, a row of lamps and a row of switches. Received bytes
wait in a queue until the program reads them, each one once. A block may be asked for with a
negative width; its lamps can then be read but not set.
-/

namespace SerialMachine

/-- The peripheral block. -/
structure Peripherals where
  /-- The number of bits in a word, as it was asked for. -/
  width : Int
  /-- The bytes transmitted so far. -/
  output : Array UInt8 := #[]
  lamps : Int := 0
  switches : Int := 0
  /-- The bytes received and not read yet. -/
  waiting : List UInt8 := []
  deriving DecidableEq, Repr, Inhabited

/-- One peripheral, which is one register of the block. -/
inductive Peripheral
  | line
  | lamps
  | switches
  deriving DecidableEq, Repr

namespace Peripheral

/-- The peripheral at an offset. -/
def ofOffset? (offset : Int) : Option Peripheral :=
  if offset = 0 then some line
  else if offset = 1 then some lamps
  else if offset = 2 then some switches
  else none

/-- The name of a peripheral. -/
def name : Peripheral → String
  | line => "UART"
  | lamps => "LEDS"
  | switches => "SWITCHES"

end Peripheral

namespace Peripherals

/-- What the serial line reads as when no byte waits. -/
def nothingReceived : Int := 0x100

/-- Receives bytes. -/
def feed (p : Peripherals) (bytes : List UInt8) : Peripherals :=
  { p with waiting := p.waiting ++ bytes }

/-- Reads the register at an offset; a waiting byte is used up. -/
def read (p : Peripherals) (offset : Int) : Int × Peripherals × List Event :=
  match Peripheral.ofOffset? offset with
  | some .line =>
    match p.waiting with
    | byte :: rest => (byte.toNat, { p with waiting := rest }, [])
    | [] => (nothingReceived, p, [])
  | some .lamps => (p.lamps, p, [])
  | some .switches => (p.switches, p, [])
  | none => (0, p, [.unmappedPeripheralRead offset])

/-- The lowest eight bits of a value. -/
def lowByte (value : Int) : UInt8 :=
  UInt8.ofNat (Bits.keep 8 value).toNat

/-- Refuses to set lamps that cannot be cut to the width. -/
def checkWrite (host : Host) (p : Peripherals) (offset : Int) : Except InvalidValue Unit := do
  if Peripheral.ofOffset? offset = some .lamps then
    let _ ← AnyWidth.roomy host 0 p.width

/-- Writes the register at an offset, if the write is not refused. -/
def write (p : Peripherals) (offset value : Int) : Peripherals × List Event :=
  match Peripheral.ofOffset? offset with
  | some .line =>
    ({ p with output := p.output.push (lowByte value) }, [.transmitted (lowByte value)])
  | some .lamps => ({ p with lamps := Bits.keep p.width.toNat value }, [])
  | some .switches => (p, [.switchWrite])
  | none => (p, [.unmappedPeripheralWrite offset])

/-- Clears the lamps and both directions of the serial line; the switches stay. -/
def reset (p : Peripherals) : Peripherals :=
  { p with output := #[], lamps := 0, waiting := [] }

theorem checkWrite_eq_ok {host : Host} {p : Peripherals} (h : 0 ≤ p.width)
    (small : p.width < host.bits) (offset : Int) : p.checkWrite host offset = .ok () := by
  unfold checkWrite
  rw [(AnyWidth.roomy_zero_eq_ok_iff h).2 ⟨small, rfl⟩]
  split <;> rfl

end Peripherals

end SerialMachine
