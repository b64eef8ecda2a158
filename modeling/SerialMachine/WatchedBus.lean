import SerialMachine.Bus

/-!
# A bus with stop addresses

A bare bus under simple observers: lists of addresses at which a completed read or write asks for a
stop, and a record of the transfers seen. A write that its device refuses is left with its last bit
taken, and nobody is told of it.
-/

namespace SerialMachine

/-- A completed word transfer. -/
structure Transfer where
  writing : Bool
  address : Int
  value : Int
  deriving DecidableEq, Repr

/-- The transfer that an event reports. -/
def Event.transfer? : Event → Option Transfer
  | .wordRead address value => some { writing := false, address, value }
  | .wordWritten address value => some { writing := true, address, value }
  | _ => none

/-- The bus with a whole word in its buffer that the addressed device refuses, and the cause; none
unless the lines deliver the last bit of such a word. -/
def Bus.refusal? (host : Host) (bus : Bus) (signals : Signals) : Option (Bus × InvalidValue) :=
  let taken := bus.takeBit signals.o
  if signals.oe ∧ signals.enables = 1 ∧ taken.count = bus.width then
    match taken.checkWrite host taken.address with
    | .ok () => none
    | .error cause => some (taken, cause)
  else
    none

/-- Peripherals of an ordinary width refuse nothing. -/
theorem Bus.refusal?_eq_none {host : Host} {bus : Bus}
    (h : ∀ p ∈ bus.peripherals, 0 ≤ p.width ∧ p.width < host.bits)
    (signals : Signals) : bus.refusal? host signals = none := by
  have accepted : ∀ address, (bus.takeBit signals.o).checkWrite host address = .ok () :=
    fun address => Bus.checkWrite_eq_ok (bus.peripherals_takeBit signals.o ▸ h) address
  simp [refusal?, accepted]

/-- A bus with observers of completed reads and writes, each with the addresses at which it asks for
a stop. -/
structure WatchedBus where
  bus : Bus
  host : Host := default
  stopReads : Option (List Int) := none
  stopWrites : Option (List Int) := none
  stopRequested : Bool := false
  /-- The transfers that the observers were told of, the first one first. -/
  told : List Transfer := []

namespace WatchedBus

/-- The observer of a transfer is told of it. -/
def observe (w : WatchedBus) (event : Event) : WatchedBus :=
  match event.transfer? with
  | none => w
  | some transfer =>
    match if transfer.writing then w.stopWrites else w.stopReads with
    | none => w
    | some addresses =>
      { w with
        told := w.told ++ [transfer]
        stopRequested := w.stopRequested || addresses.contains transfer.address }

/-- Why a cycle gives no bit. -/
inductive Interruption
  | violation (violation : Violation)
  /-- The addressed device refuses the word. -/
  | refused (cause : InvalidValue)
  deriving DecidableEq, Repr

/-- The outcome of one or more cycles: the bus after them, what happened, and what came in, unless a
cycle was interrupted, which ends them. -/
structure Burst (α : Type) where
  bus : WatchedBus
  events : List Event
  reply : Except Interruption α

/-- One clock cycle under observation. -/
def cycle (w : WatchedBus) (signals : Signals) : Burst Int :=
  match w.bus.refusal? w.host signals with
  | some (bus, cause) => { bus := { w with bus }, events := [], reply := .error (.refused cause) }
  | none =>
    let turn := w.bus.cycle signals
    { bus := turn.events.foldl observe { w with bus := turn.bus }
      events := turn.events
      reply := turn.reply.mapError .violation }

/-- Clock cycles with the given lines, up to the first interruption. -/
def burst (w : WatchedBus) : List Signals → Burst (List Int)
  | [] => { bus := w, events := [], reply := .ok [] }
  | signals :: rest =>
    let turn := w.cycle signals
    match turn.reply with
    | .error cause => { turn with reply := .error cause }
    | .ok bit =>
      let more := burst turn.bus rest
      { more with events := turn.events ++ more.events, reply := more.reply.map (bit :: ·) }

/-- The cycles that drive the lowest `n` bits of an address. -/
def sendAddress (address : Int) (n : Nat) : List Signals :=
  (List.range n).map fun k => .address (Bits.low (Bits.drop k address))

/-- The cycles that drive the lowest `n` bits of a word. -/
def sendWord (value : Int) (n : Nat) : List Signals :=
  (List.range n).map fun k => .output (Bits.low (Bits.drop k value))

/-- The cycles that ask for `n` bits. -/
def receive (n : Nat) : List Signals :=
  List.replicate n .input

/-- The bus reset, with no stop asked for. -/
def reset (w : WatchedBus) : WatchedBus :=
  { w with bus := w.bus.reset, stopRequested := false }

end WatchedBus

end SerialMachine
