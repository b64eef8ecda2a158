import SerialMachine.Memory
import SerialMachine.Peripherals
import SerialMachine.Signals

/-!
# The serial bus

The bus turns the processor's one bit a cycle into word transfers with the memory and the
peripherals. A transfer drives the address, lowest bit first, and then reads or writes as many bits;
cycles without a strobe pause it. The bits above the select bit are not decoded.
-/

namespace SerialMachine

/-- The transfer that a bus is in the middle of. -/
inductive Phase
  | idle | address | read | write
  deriving DecidableEq, Repr, Inhabited

/-- The name of a phase. -/
def Phase.name : Phase → String
  | idle => "IDLE"
  | address => "ADDRESS"
  | read => "READ"
  | write => "WRITE"

/-- A bus with the devices behind it. -/
structure Bus where
  /-- The number of bits in a word. -/
  width : Nat
  memory : Memory
  /-- The peripherals; without them their addresses are unmapped. -/
  peripherals : Option Peripherals
  /-- The address as shifted in so far. -/
  address : Int := 0
  phase : Phase := .idle
  /-- The number of bits moved in the current phase. -/
  count : Nat := 0
  /-- The word that is being read. -/
  readLatch : Int := 0
  /-- The word that is being written, as far as it has arrived. -/
  writeBuffer : Int := 0
  deriving DecidableEq

/-- The outcome of one bus cycle: the bus after it, what happened, and the input bit, unless the
cycle was a violation. -/
structure BusCycle (β : Type) where
  bus : β
  events : List Event
  reply : Except Violation Int

/-- A bus that a processor can be attached to. -/
class SerialBus (β : Type) where
  /-- One clock cycle with the given lines. -/
  cycle : β → Signals → BusCycle β
  /-- The bus with every transfer abandoned. -/
  reset : β → β

namespace Bus

/-- A bus at rest, refused for a width without a select bit. -/
def make (host : Host) (width : Int) (memory : Memory) (peripherals : Option Peripherals) :
    Except InvalidValue Bus := do
  return { width := ← AnyWidth.roomy host 5 width, memory, peripherals }

/-- The bits of an address that are decoded. -/
def decoded (bus : Bus) (address : Int) : Int :=
  Bits.keep (bus.width - 4) address

/-- Whether an address belongs to the peripherals. -/
def selects (bus : Bus) (address : Int) : Bool :=
  Bits.test (Word.selectPlace bus.width) address

/-- The register of the peripherals that an address means. -/
def offset (bus : Bus) (address : Int) : Int :=
  Bits.keep (Word.selectPlace bus.width) address

/-- Reads a word from the device that an address belongs to. -/
def read (bus : Bus) (address : Int) : Int × Bus × List Event :=
  if bus.selects address then
    match bus.peripherals with
    | none => (0, bus, [.unmappedSpaceRead (bus.decoded address)])
    | some p =>
      let (value, p, events) := p.read (bus.offset address)
      (Bits.keep bus.width value, { bus with peripherals := some p }, events)
  else
    let (value, events) := bus.memory.read (bus.decoded address)
    (Bits.keep bus.width value, bus, events)

/-- Refuses a write that the addressed device refuses. -/
def checkWrite (host : Host) (bus : Bus) (address : Int) : Except InvalidValue Unit :=
  match bus.peripherals with
  | some p => if bus.selects address then p.checkWrite host (bus.offset address) else .ok ()
  | none => .ok ()

theorem checkWrite_eq_ok {host : Host} {bus : Bus}
    (h : ∀ p ∈ bus.peripherals, 0 ≤ p.width ∧ p.width < host.bits) (address : Int) :
    bus.checkWrite host address = .ok () := by
  unfold checkWrite
  split
  · next p e =>
    split
    · exact Peripherals.checkWrite_eq_ok (h p e).1 (h p e).2 _
    · rfl
  · rfl

/-- Writes a word to the device that an address belongs to, if the write is not refused. -/
def write (bus : Bus) (address value : Int) : Bus × List Event :=
  let value := Bits.keep bus.width value
  if bus.selects address then
    match bus.peripherals with
    | none => (bus, [.unmappedSpaceWrite (bus.decoded address)])
    | some p =>
      let (p, events) := p.write (bus.offset address) value
      ({ bus with peripherals := some p }, events)
  else
    let (memory, events) := bus.memory.write (bus.decoded address) value
    ({ bus with memory }, events)

/-- The bus with every transfer abandoned; the devices are left alone. -/
def reset (bus : Bus) : Bus :=
  { bus with address := 0, phase := .idle, count := 0, readLatch := 0, writeBuffer := 0 }

/-- An address bit arrives. -/
def shiftAddress (bus : Bus) (bit : Int) : Bus :=
  { bus with
    phase := .address
    count := (if bus.phase = .address then bus.count else 0) + 1
    address := Shift.enter bus.width bus.address bit }

/-- The bus with the addressed word latched, if the cycle is the first of a read. -/
def beginRead (bus : Bus) : Bus × List Event :=
  if bus.phase = .read then
    (bus, [])
  else
    let (value, bus, events) := bus.read bus.address
    ({ bus with phase := .read, count := 0, readLatch := value }, events)

/-- A bit of the addressed word leaves. -/
def shiftRead (bus : Bus) : BusCycle Bus :=
  let (bus, events) := bus.beginRead
  let bit := Bits.low (Bits.drop bus.count bus.readLatch)
  let bus := { bus with count := bus.count + 1 }
  if bus.count = bus.width then
    { bus := { bus with phase := .idle }
      events := events ++ [.wordRead (bus.decoded bus.address) bus.readLatch]
      reply := .ok bit }
  else
    { bus, events, reply := .ok bit }

/-- The bus with an empty buffer, if the cycle is the first of a write. -/
def beginWrite (bus : Bus) : Bus :=
  if bus.phase = .write then bus else { bus with phase := .write, count := 0, writeBuffer := 0 }

/-- The bus with one more bit of the word to be written in its buffer. -/
def takeBit (bus : Bus) (bit : Int) : Bus :=
  let bus := bus.beginWrite
  let buffer :=
    if Bits.test 0 bit then Bits.set bus.count bus.writeBuffer else bus.writeBuffer
  { bus with writeBuffer := buffer, count := bus.count + 1 }

theorem peripherals_takeBit (bus : Bus) (bit : Int) :
    (bus.takeBit bit).peripherals = bus.peripherals := by
  unfold takeBit beginWrite
  split <;> rfl

/-- A bit of the word to be written arrives; the last one carries it out. -/
def shiftWrite (bus : Bus) (bit : Int) : BusCycle Bus :=
  let bus := bus.takeBit bit
  if bus.count = bus.width then
    let (bus, events) := bus.write bus.address bus.writeBuffer
    { bus := { bus with phase := .idle }
      events := events ++ [.wordWritten (bus.decoded bus.address) bus.writeBuffer]
      reply := .ok 0 }
  else
    { bus, events := [], reply := .ok 0 }

/-- One clock cycle with the given lines. -/
def cycle (bus : Bus) (signals : Signals) : BusCycle Bus :=
  match signals.check with
  | .error violation => { bus, events := [], reply := .error violation }
  | .ok () =>
    if signals.ae then { bus := bus.shiftAddress signals.a, events := [], reply := .ok 0 }
    else if signals.ie then bus.shiftRead
    else if signals.oe then bus.shiftWrite signals.o
    else { bus, events := [], reply := .ok 0 }

instance : SerialBus Bus where
  cycle := cycle
  reset := reset

end Bus

end SerialMachine
