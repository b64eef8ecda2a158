import SerialMachine.Proofs.Accesses

/-!
# What transfers leave behind

The bit count and the two word buffers of a bus survive the transfer that they served, whether it
ran to its end or was cut short, and are cleared when the next one begins. `Bus.tidy` clears them at
once. Main statement: buses that are alike when tidied answer alike and stay so, whatever is done
with both; so nothing that a transfer has left behind is ever seen.
-/

namespace SerialMachine

open Bits (test)

namespace Bus

/-- The bus without what is left of transfers that are over. -/
def tidy (bus : Bus) : Bus :=
  { bus with
    phase := if bus.phase = .address then .idle else bus.phase
    count := if bus.phase = .read ∨ bus.phase = .write then bus.count else 0
    readLatch := if bus.phase = .read then bus.readLatch else 0
    writeBuffer := if bus.phase = .write then bus.writeBuffer else 0 }

variable {bus other : Bus}

theorem tidy_tidy (bus : Bus) : bus.tidy.tidy = bus.tidy := by
  cases phase : bus.phase <;> simp [tidy, phase]

/-- Between transfers nothing is left but the address and the devices. -/
theorem tidy_of_rests (rests : bus.Rests) :
    bus.tidy = { bus.reset with address := bus.address } := by
  obtain ⟨read, write⟩ := rests
  cases phase : bus.phase with
  | idle | address => simp [tidy, reset, phase]
  | read => exact absurd phase read
  | write => exact absurd phase write

/-- The devices do not see what transfers have left behind. -/
theorem read_tidy (bus : Bus) (address : Int) :
    bus.tidy.read address =
      ((bus.read address).1, (bus.read address).2.1.tidy, (bus.read address).2.2) := by
  have selects : bus.tidy.selects address = bus.selects address := rfl
  have peripherals : bus.tidy.peripherals = bus.peripherals := rfl
  unfold read
  rw [selects]
  split
  · rw [peripherals]
    split <;> rfl
  · rfl

theorem write_tidy (bus : Bus) (address value : Int) :
    bus.tidy.write address value =
      ((bus.write address value).1.tidy, (bus.write address value).2) := by
  have selects : bus.tidy.selects address = bus.selects address := rfl
  have peripherals : bus.tidy.peripherals = bus.peripherals := rfl
  unfold write
  simp only [selects]
  split
  · rw [peripherals]
    split <;> rfl
  · rfl

/-! ## One cycle -/

/-- Two outcomes of a cycle that differ in what transfers have left behind at most. -/
structure SameTurn (x y : BusCycle Bus) : Prop where
  bus : x.bus.tidy = y.bus.tidy
  events : x.events = y.events
  reply : x.reply = y.reply

theorem tidy_shiftAddress (bus : Bus) (bit : Int) :
    (bus.tidy.shiftAddress bit).tidy = (bus.shiftAddress bit).tidy := by
  simp [tidy, shiftAddress]

/-- A read begins alike wherever the devices and the address are the same. -/
theorem beginRead_of_reset_eq (devices : bus.reset = other.reset)
    (address : bus.address = other.address) (begins : bus.phase ≠ .read)
    (begins' : other.phase ≠ .read) :
    bus.beginRead = ({ other.beginRead.1 with writeBuffer := bus.writeBuffer }, other.beginRead.2) ∧
      other.beginRead.1.phase = .read := by
  obtain ⟨peripherals, read⟩ := bus.exists_read_eq other.address
  obtain ⟨peripherals', read'⟩ := other.exists_read_eq other.address
  have alike := (read_reset bus other.address).symm.trans
    (devices ▸ read_reset other other.address)
  rw [read, read'] at alike
  simp only [reset, Prod.mk.injEq, mk.injEq, and_true] at alike
  obtain ⟨value, ⟨width, memory, rfl⟩, events⟩ := alike
  simp only [beginRead, if_neg begins, if_neg begins', address, read, read', value, events, width,
    memory, and_self]

theorem beginRead_tidy (bus : Bus) :
    ∃ left, bus.tidy.beginRead =
        ({ bus.beginRead.1 with writeBuffer := left }, bus.beginRead.2) ∧
      bus.beginRead.1.phase = .read := by
  by_cases reading : bus.phase = .read
  · rw [beginRead, beginRead, if_pos reading, if_pos (by simp [tidy, reading])]
    exact ⟨0, by simp [tidy, reading], reading⟩
  · have fresh : bus.tidy.phase ≠ .read := by
      cases phase : bus.phase <;> simp_all [tidy]
    exact ⟨_, beginRead_of_reset_eq rfl rfl fresh reading⟩

/-- Reads that begin alike go alike. -/
theorem sameTurn_of_beginRead {left : Int}
    (begun : bus.beginRead = ({ other.beginRead.1 with writeBuffer := left }, other.beginRead.2))
    (phase : other.beginRead.1.phase = .read) : SameTurn bus.shiftRead other.shiftRead := by
  unfold shiftRead
  simp only [begun]
  split
  · exact ⟨by simp [tidy], rfl, rfl⟩
  · exact ⟨by simp [tidy, phase], rfl, rfl⟩

theorem sameTurn_shiftRead (bus : Bus) : SameTurn bus.tidy.shiftRead bus.shiftRead := by
  obtain ⟨_, begun, phase⟩ := bus.beginRead_tidy
  exact sameTurn_of_beginRead begun phase

theorem takeBit_tidy (bus : Bus) (bit : Int) :
    ∃ left, bus.tidy.takeBit bit = { bus.takeBit bit with readLatch := left } ∧
      (bus.takeBit bit).phase = .write := by
  unfold takeBit beginWrite
  by_cases writing : bus.phase = .write
  · rw [if_pos writing, if_pos (by simp [tidy, writing])]
    exact ⟨0, by simp [tidy, writing], writing⟩
  · have fresh : ¬bus.tidy.phase = .write := by
      cases phase : bus.phase <;> simp_all [tidy]
    rw [if_neg writing, if_neg fresh]
    exact ⟨_, rfl, rfl⟩

theorem sameTurn_shiftWrite (bus : Bus) (bit : Int) :
    SameTurn (bus.tidy.shiftWrite bit) (bus.shiftWrite bit) := by
  obtain ⟨left, taken, phase⟩ := bus.takeBit_tidy bit
  unfold shiftWrite
  simp only [taken]
  split
  · have same : ({ bus.takeBit bit with readLatch := left } : Bus).reset =
        (bus.takeBit bit).reset := rfl
    obtain ⟨devices, events⟩ := write_eq_of_reset_eq same (bus.takeBit bit).address
      (bus.takeBit bit).writeBuffer
    obtain ⟨_, _, written⟩ := (bus.takeBit bit).exists_write_eq (bus.takeBit bit).address
      (bus.takeBit bit).writeBuffer
    obtain ⟨_, _, written'⟩ := exists_write_eq { bus.takeBit bit with readLatch := left }
      (bus.takeBit bit).address (bus.takeBit bit).writeBuffer
    rw [written, written'] at devices
    simp only [written, written', events]
    refine ⟨?_, rfl, rfl⟩
    simpa [tidy, reset] using devices
  · exact ⟨by simp [tidy, phase], rfl, rfl⟩

theorem sameTurn_tidy_cycle (bus : Bus) (signals : Signals) :
    SameTurn (bus.tidy.cycle signals) (bus.cycle signals) := by
  unfold cycle
  split
  · exact ⟨bus.tidy_tidy, rfl, rfl⟩
  · split_ifs
    · exact ⟨bus.tidy_shiftAddress signals.a, rfl, rfl⟩
    · exact bus.sameTurn_shiftRead
    · exact bus.sameTurn_shiftWrite signals.o
    · exact ⟨bus.tidy_tidy, rfl, rfl⟩

/-- What transfers have left behind is not seen in a cycle. -/
theorem sameTurn_cycle (alike : bus.tidy = other.tidy) (signals : Signals) :
    SameTurn (bus.cycle signals) (other.cycle signals) := by
  have left := bus.sameTurn_tidy_cycle signals
  have right := other.sameTurn_tidy_cycle signals
  rw [alike] at left
  exact ⟨left.bus.symm.trans right.bus, left.events.symm.trans right.events,
    left.reply.symm.trans right.reply⟩

/-! ## Histories -/

theorem tidy_tidy_act (bus : Bus) (action : BusAction) :
    (bus.tidy.act action).tidy = (bus.act action).tidy := by
  cases action with
  | cycle signals => exact (bus.sameTurn_tidy_cycle signals).bus
  | reset => rfl
  | readWord address => simp only [act, read_tidy, tidy_tidy]
  | writeWord address value => simp only [act, write_tidy, tidy_tidy]
  | feed | setSwitches | resetPeripherals =>
    have mapped (f : Peripherals → Peripherals) :
        bus.tidy.mapPeripherals f = (bus.mapPeripherals f).tidy := rfl
    simp only [act, mapped, tidy_tidy]
  | loadWords words start =>
    have memory : bus.tidy.memory = bus.memory := rfl
    simp only [act, memory]
    split
    · next loaded _ => exact tidy_tidy { bus with memory := loaded }
    · exact bus.tidy_tidy
  | clearMemory => exact tidy_tidy { bus with memory := bus.memory.clear }

theorem tidy_act (alike : bus.tidy = other.tidy) (action : BusAction) :
    (bus.act action).tidy = (other.act action).tidy := by
  rw [← tidy_tidy_act, alike, tidy_tidy_act]

/-- Nor is it seen later, whatever is done with the bus. -/
theorem tidy_after (alike : bus.tidy = other.tidy) (history : List BusAction) :
    (bus.after history).tidy = (other.after history).tidy := by
  induction history generalizing bus other with
  | nil => exact alike
  | cons action rest ih => exact ih (tidy_act alike action)

/-- Two buses stand at the same address, have the same devices and answer the next cycle alike. -/
structure SameFace (bus other : Bus) : Prop where
  memory : bus.memory = other.memory
  peripherals : bus.peripherals = other.peripherals
  address : bus.address = other.address
  events : ∀ signals, (bus.cycle signals).events = (other.cycle signals).events
  reply : ∀ signals, (bus.cycle signals).reply = (other.cycle signals).reply

/-- Nobody can tell two buses apart, whatever is done with both. -/
def Indistinct (bus other : Bus) : Prop :=
  ∀ later : List BusAction, SameFace (bus.after later) (other.after later)

theorem indistinct_of_tidy_eq (alike : bus.tidy = other.tidy) : Indistinct bus other := by
  intro later
  have same := tidy_after alike later
  exact ⟨congrArg (·.memory) same, congrArg (·.peripherals) same, congrArg (·.address) same,
    fun signals => (sameTurn_cycle same signals).events,
    fun signals => (sameTurn_cycle same signals).reply⟩

end Bus

end SerialMachine
