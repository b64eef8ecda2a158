import SerialMachine.Bus
import SerialMachine.Proofs.Serial

/-!
# Words on the bus

As many cycles as a word has bits move one word over the bus: an address into the address register,
a word in from the addressed device, or a word out to it. `Bus.Carries` is the bus `k` cycles into
such a burst. Main statement: each cycle moves one more bit, and the devices are touched by the
first cycle of a read and the last of a write only.
-/

namespace SerialMachine

open Bits (bit drop keep test weight)
open Shift (midway)

/-- What is done on the bus in as many cycles as a word has bits. -/
inductive Traffic
  | quiet
  /-- Nothing but `stop` is driven. -/
  | halted
  /-- A word is driven as an address. -/
  | address (word : Int)
  /-- A word is read. -/
  | input
  /-- A word is written. -/
  | output (word : Int)
  deriving DecidableEq

/-- The lines in cycle `k`. -/
def Traffic.line (k : Nat) : Traffic → Signals
  | quiet => {}
  | halted => { stop := true }
  | address word => .address (bit k word)
  | input => .input
  | output word => .output (bit k word)

theorem Traffic.enables_line_le (traffic : Traffic) (k : Nat) :
    (traffic.line k).enables ≤ 1 := by
  cases traffic <;>
    simp [line, Signals.address, Signals.input, Signals.output, Signals.enables]

/-- Whether a strobe is asserted, which it then is in every cycle. -/
def Traffic.strobes : Traffic → Bool
  | quiet | halted => false
  | _ => true

/-- The address register after some traffic, which found the address `old`. -/
def Traffic.leaves (n : Nat) (old : Int) : Traffic → Int
  | address word => keep n word
  | _ => old

theorem Traffic.fits_leaves {n : Nat} {old : Int} (h : Word.Fits n old) (traffic : Traffic) :
    Word.Fits n (traffic.leaves n old) := by
  cases traffic with
  | address word => exact Bits.fits_keep n word
  | _ => exact h

namespace Bus

/-- No word transfer is half done. -/
def Rests (bus : Bus) : Prop :=
  bus.phase ≠ .read ∧ bus.phase ≠ .write

/-- The bus after `k` cycles of some traffic, which found the address `old`. A word that is being
read is `w`. -/
def Carries (bus : Bus) (traffic : Traffic) (old w : Int) (k : Nat) : Prop :=
  match traffic with
  | .quiet | .halted => bus.address = old ∧ bus.Rests
  | .address word => bus.address = midway bus.width k old word ∧ bus.Rests
  | .input =>
    bus.address = old ∧
      if 0 < k ∧ k < bus.width then bus.phase = .read ∧ bus.count = k ∧ bus.readLatch = w
      else bus.Rests
  | .output word =>
    bus.address = old ∧
      if 0 < k ∧ k < bus.width then
        bus.phase = .write ∧ bus.count = k ∧ bus.writeBuffer = keep k word
      else bus.Rests

/-- The word that is being read, once cycle `k` has latched it. -/
def latched (bus : Bus) (old w : Int) (k : Nat) : Int :=
  if k = 0 then (bus.read old).1 else w

/-- The devices after cycle `k` of some traffic. -/
def touched (bus : Bus) (traffic : Traffic) (old : Int) (k : Nat) : Bus :=
  match traffic with
  | .input => if k = 0 then (bus.read old).2.1.reset else bus.reset
  | .output word =>
    if k + 1 = bus.width then (bus.write old (keep bus.width word)).1.reset else bus.reset
  | _ => bus.reset

/-- What is reported in cycle `k` of some traffic. -/
def reported (bus : Bus) (traffic : Traffic) (old w : Int) (k : Nat) : List Event :=
  match traffic with
  | .input =>
    (if k = 0 then (bus.read old).2.2 else []) ++
      if k + 1 = bus.width then [.wordRead (bus.decoded old) (bus.latched old w k)] else []
  | .output word =>
    if k + 1 = bus.width then
      (bus.write old (keep bus.width word)).2 ++
        [.wordWritten (bus.decoded old) (keep bus.width word)]
    else []
  | _ => []

variable {bus : Bus} {old w : Int} {k : Nat}

/-! ## Devices -/

/-- Reading touches the peripherals at most. -/
theorem exists_read_eq (bus : Bus) (address : Int) :
    ∃ peripherals, (bus.read address).2.1 = { bus with peripherals } := by
  unfold read
  split
  · split
    · exact ⟨_, rfl⟩
    · exact ⟨_, rfl⟩
  · exact ⟨_, rfl⟩

/-- Writing touches the devices only. -/
theorem exists_write_eq (bus : Bus) (address value : Int) :
    ∃ memory peripherals, (bus.write address value).1 = { bus with memory, peripherals } := by
  unfold write
  simp only
  split
  · split
    · exact ⟨_, _, rfl⟩
    · exact ⟨_, _, rfl⟩
  · exact ⟨_, _, rfl⟩

/-- The devices answer alike whatever transfer is under way. -/
theorem read_reset (bus : Bus) (address : Int) :
    bus.reset.read address =
      ((bus.read address).1, (bus.read address).2.1.reset, (bus.read address).2.2) := by
  have selects : bus.reset.selects address = bus.selects address := rfl
  have peripherals : bus.reset.peripherals = bus.peripherals := rfl
  unfold read
  rw [selects]
  split
  · rw [peripherals]
    split <;> rfl
  · rfl

theorem write_reset (bus : Bus) (address value : Int) :
    bus.reset.write address value =
      ((bus.write address value).1.reset, (bus.write address value).2) := by
  have selects : bus.reset.selects address = bus.selects address := rfl
  have peripherals : bus.reset.peripherals = bus.peripherals := rfl
  unfold write
  simp only [selects]
  split
  · rw [peripherals]
    split <;> rfl
  · rfl

theorem fits_read (bus : Bus) (address : Int) : Word.Fits bus.width (bus.read address).1 := by
  unfold read
  split
  · split
    · exact Bits.fits_zero _
    · exact Bits.fits_keep _ _
  · exact Bits.fits_keep _ _

/-! ## One cycle -/

theorem cycle_line (bus : Bus) (traffic : Traffic) (k : Nat) :
    bus.cycle (traffic.line k) =
      match traffic with
      | .quiet | .halted => { bus, events := [], reply := .ok 0 }
      | .address word => { bus := bus.shiftAddress (bit k word), events := [], reply := .ok 0 }
      | .input => bus.shiftRead
      | .output word => bus.shiftWrite (bit k word) := by
  cases traffic <;> rfl

/-- What a cycle of some traffic comes to. -/
structure Moves (bus : Bus) (traffic : Traffic) (old w : Int) (k : Nat) (turn : BusCycle Bus) :
    Prop where
  reply : ∃ b, turn.reply = .ok b ∧ (b = 0 ∨ traffic = .input) ∧
    (traffic = .input → b = bit k (bus.latched old w k))
  width : turn.bus.width = bus.width
  carries : turn.bus.Carries traffic old (bus.latched old w k) (k + 1)
  devices : turn.bus.reset = bus.touched traffic old k
  events : turn.events = bus.reported traffic old w k

theorem moves_address {word : Int} (h : bus.Carries (.address word) old w k)
    (lt : k < bus.width) (fits : Word.Fits bus.width old) :
    bus.Moves (.address word) old w k (bus.cycle ((Traffic.address word).line k)) := by
  rw [cycle_line]
  refine ⟨⟨0, rfl, Or.inl rfl, by simp⟩, rfl, ⟨?_, by simp [Rests, shiftAddress]⟩, rfl, rfl⟩
  simp only [shiftAddress, h.1]
  exact Shift.enter_midway lt fits (Bits.test_zero_bit k word)

/-- Whether or not it begins the read, a cycle of it finds the word latched. -/
theorem beginRead_eq (h : bus.Carries .input old w k) (lt : k < bus.width) :
    ∃ peripherals, bus.beginRead =
        ({ bus with
            phase := .read, count := k, readLatch := bus.latched old w k, peripherals },
          if k = 0 then (bus.read old).2.2 else []) ∧
      { bus with peripherals }.reset = bus.touched .input old k := by
  obtain ⟨address, progress⟩ := h
  rcases k.eq_zero_or_pos with rfl | pos
  · obtain ⟨peripherals, read⟩ := bus.exists_read_eq old
    rw [if_neg (by omega)] at progress
    refine ⟨peripherals, ?_, ?_⟩
    · simp only [beginRead, if_neg progress.1, address, read, latched, if_true]
    · simp only [touched, if_true, read]
  · rw [if_pos ⟨pos, lt⟩] at progress
    obtain ⟨phase, count, latch⟩ := progress
    have later : ¬k = 0 := by omega
    refine ⟨bus.peripherals, ?_, ?_⟩
    · have latched : bus.latched old w k = bus.readLatch := (if_neg later).trans latch.symm
      rw [beginRead, if_pos phase, latched, if_neg later, ← phase, ← count]
    · simp only [touched, if_neg later]

theorem moves_input (h : bus.Carries .input old w k) (lt : k < bus.width) :
    bus.Moves .input old w k (bus.cycle (Traffic.input.line k)) := by
  obtain ⟨peripherals, begun, devices⟩ := beginRead_eq h lt
  have address := h.1
  rw [cycle_line]
  simp only [shiftRead, begun]
  by_cases last : k + 1 = bus.width
  · rw [if_pos last]
    refine ⟨⟨_, rfl, Or.inr rfl, fun _ => rfl⟩, rfl, ⟨address, ?_⟩, devices, ?_⟩
    · rw [if_neg (by simp only; omega)]
      simp [Rests]
    · simp only [reported, if_pos last, address]
      rfl
  · rw [if_neg last]
    refine ⟨⟨_, rfl, Or.inr rfl, fun _ => rfl⟩, rfl, ⟨address, ?_⟩, devices, ?_⟩
    · rw [if_pos ⟨by omega, by simp only; omega⟩]
      exact ⟨rfl, rfl, rfl⟩
    · simp only [reported, if_neg last, List.append_nil]

theorem keep_set {k : Nat} {word : Int} :
    (if test 0 (bit k word) then Bits.set k (keep k word) else keep k word) =
      keep (k + 1) word := by
  have clear : test k (keep k word) = false := Bits.test_of_fits (Bits.fits_keep k word) le_rfl
  rw [Bits.test_zero_bit, Bits.keep_succ, Bits.bit_eq_ite, Bits.set, clear]
  cases test k word <;> simp

/-- Whether or not it begins the write, a cycle of it leaves one more bit in the buffer. -/
theorem takeBit_eq {word : Int} (h : bus.Carries (.output word) old w k) (lt : k < bus.width) :
    bus.takeBit (bit k word) =
      { bus with phase := .write, count := k + 1, writeBuffer := keep (k + 1) word } := by
  obtain ⟨-, progress⟩ := h
  have begun : bus.beginWrite = { bus with
      phase := .write, count := k, writeBuffer := keep k word } := by
    rcases k.eq_zero_or_pos with rfl | pos
    · rw [if_neg (by omega)] at progress
      rw [beginWrite, if_neg progress.2, Bits.keep_zero]
    · rw [if_pos ⟨pos, lt⟩] at progress
      obtain ⟨phase, count, buffer⟩ := progress
      rw [beginWrite, if_pos phase, ← buffer, ← phase, ← count]
  simp only [takeBit, begun, keep_set]

theorem moves_output {word : Int} (h : bus.Carries (.output word) old w k)
    (lt : k < bus.width) :
    bus.Moves (.output word) old w k (bus.cycle ((Traffic.output word).line k)) := by
  obtain rfl := h.1
  rw [cycle_line]
  simp only [shiftWrite, takeBit_eq h lt]
  by_cases last : k + 1 = bus.width
  · obtain ⟨memory, peripherals, written⟩ := exists_write_eq { bus with
      phase := .write, count := k + 1, writeBuffer := keep (k + 1) word } bus.address
        (keep (k + 1) word)
    have alike := (write_reset { bus with
      phase := .write, count := k + 1, writeBuffer := keep (k + 1) word } bus.address
        (keep (k + 1) word)).symm.trans (write_reset bus bus.address (keep (k + 1) word))
    obtain ⟨devices, events⟩ := Prod.mk.inj alike
    have whole : keep bus.width word = keep (k + 1) word := by rw [last]
    rw [if_pos last]
    refine ⟨⟨_, rfl, Or.inl rfl, by simp⟩, ?_, ⟨?_, ?_⟩, ?_, ?_⟩
    · simp only [written]
    · simp only [written]
    · rw [if_neg (by simp only [written]; omega)]
      simp [Rests]
    · simp only [touched, if_pos last, whole]
      exact devices
    · simp only [reported, if_pos last, whole, events, written]
      rfl
  · rw [if_neg last]
    refine ⟨⟨_, rfl, Or.inl rfl, by simp⟩, rfl, ⟨rfl, ?_⟩, ?_, ?_⟩
    · rw [if_pos ⟨by omega, by simp only; omega⟩]
      exact ⟨rfl, rfl, rfl⟩
    · simp only [touched, if_neg last]
      rfl
    · simp only [reported, if_neg last]

/-- Each cycle moves one more bit. -/
theorem Carries.moves {traffic : Traffic} (h : bus.Carries traffic old w k) (lt : k < bus.width)
    (fits : Word.Fits bus.width old) :
    bus.Moves traffic old w k (bus.cycle (traffic.line k)) := by
  cases traffic with
  | quiet | halted => exact ⟨⟨0, rfl, Or.inl rfl, by simp⟩, rfl, h, rfl, rfl⟩
  | address word => exact moves_address h lt fits
  | input => exact moves_input h lt
  | output word => exact moves_output h lt

/-- As many cycles as a word has bits leave the bus at rest. -/
theorem Carries.finish {traffic : Traffic} (h : bus.Carries traffic old w bus.width)
    (fits : Word.Fits bus.width old) :
    bus.Rests ∧ bus.address = traffic.leaves bus.width old := by
  have past : ¬(0 < bus.width ∧ bus.width < bus.width) := by omega
  cases traffic with
  | quiet | halted => exact ⟨h.2, h.1⟩
  | address word => exact ⟨h.2, h.1.trans (Shift.midway_self fits word)⟩
  | input | output =>
    obtain ⟨address, progress⟩ := h
    rw [if_neg past] at progress
    exact ⟨progress, address⟩

/-! ## A whole word -/

/-- Reads a word and reports it. -/
def readWord (bus : Bus) (address : Int) : Int × Bus × List Event :=
  let (value, after, events) := bus.read address
  (value, after, events ++ [.wordRead (bus.decoded address) value])

/-- Writes a word and reports it. -/
def writeWord (bus : Bus) (address value : Int) : Bus × List Event :=
  let (after, events) := bus.write address value
  (after, events ++ [.wordWritten (bus.decoded address) value])

/-- The devices and the reports when some traffic has been carried out at an address. -/
def carryOut (bus : Bus) (address : Int) : Traffic → Bus × List Event
  | .input => (bus.readWord address).2
  | .output word => bus.writeWord address word
  | _ => (bus, [])

/-- The bus after `k` cycles of some traffic. -/
def carried (traffic : Traffic) : Nat → Bus → Bus
  | 0, bus => bus
  | k + 1, bus => ((carried traffic k bus).cycle (traffic.line k)).bus

/-- What is reported in `k` cycles of some traffic. -/
def reports (traffic : Traffic) : Nat → Bus → List Event
  | 0, _ => []
  | k + 1, bus =>
    reports traffic k bus ++ ((carried traffic k bus).cycle (traffic.line k)).events

variable {traffic : Traffic}

theorem carries_zero (rests : bus.Rests) (w : Int) : bus.Carries traffic bus.address w 0 := by
  cases traffic with
  | quiet | halted => exact ⟨rfl, rests⟩
  | address word => exact ⟨(Shift.midway_zero ..).symm, rests⟩
  | input | output => exact ⟨rfl, by rw [if_neg (by simp)]; exact rests⟩

theorem write_eq_of_reset_eq {other : Bus} (h : other.reset = bus.reset) (address value : Int) :
    (other.write address value).1.reset = (bus.write address value).1.reset ∧
      (other.write address value).2 = (bus.write address value).2 := by
  have alike := (write_reset other address value).symm.trans (h ▸ write_reset bus address value)
  simpa only [Prod.mk.injEq] using alike

/-- The devices after `k` cycles of traffic, from a bus at rest. -/
def devicesAfter (bus : Bus) (k : Nat) : Traffic → Bus
  | .input => if k = 0 then bus.reset else (bus.read bus.address).2.1.reset
  | .output word =>
    if k = bus.width then (bus.write bus.address (keep bus.width word)).1.reset else bus.reset
  | _ => bus.reset

/-- The reports of `k` cycles of traffic, from a bus at rest. -/
def reportsAfter (bus : Bus) (k : Nat) : Traffic → List Event
  | .input =>
    (if k = 0 then [] else (bus.read bus.address).2.2) ++
      if k = bus.width then [.wordRead (bus.decoded bus.address) (bus.read bus.address).1] else []
  | .output word =>
    if k = bus.width then
      (bus.write bus.address (keep bus.width word)).2 ++
        [.wordWritten (bus.decoded bus.address) (keep bus.width word)]
    else []
  | _ => []

/-- `k` cycles of traffic, from a bus at rest. -/
structure Carried (bus : Bus) (traffic : Traffic) (k : Nat) : Prop where
  width : (carried traffic k bus).width = bus.width
  carries : (carried traffic k bus).Carries traffic bus.address (bus.read bus.address).1 k
  devices : (carried traffic k bus).reset = bus.devicesAfter k traffic
  events : reports traffic k bus = bus.reportsAfter k traffic

theorem latched_carried (bus : Bus) (traffic : Traffic) (k : Nat) :
    (carried traffic k bus).latched bus.address (bus.read bus.address).1 k =
      (bus.read bus.address).1 := by
  unfold latched
  split
  · next zero => subst zero; rfl
  · rfl

theorem carried_run (rests : bus.Rests) (fits : Word.Fits bus.width bus.address)
    (pos : 0 < bus.width) (le : k ≤ bus.width) : bus.Carried traffic k := by
  induction k with
  | zero =>
    have early : ¬0 = bus.width := by omega
    refine ⟨rfl, carries_zero rests _, ?_, ?_⟩
    · cases traffic <;> simp [carried, devicesAfter, early]
    · cases traffic <;> simp [reports, reportsAfter, early]
  | succ k ih =>
    have before := ih (Nat.le_of_succ_le le)
    have lt : k < (carried traffic k bus).width := by rw [before.width]; exact le
    have moves := before.carries.moves lt (before.width.symm ▸ fits)
    have latched := latched_carried bus traffic k
    have width := before.width
    have more : ¬k = bus.width := by omega
    refine ⟨moves.width.trans width, latched ▸ moves.carries, ?_, ?_⟩
    · refine moves.devices.trans ?_
      have devices := before.devices
      cases traffic with
      | input =>
        simp only [touched, devicesAfter, Nat.add_eq_zero_iff, one_ne_zero, and_false, if_false]
        split
        · next zero => subst zero; rfl
        · next later => rw [devices, devicesAfter, if_neg later]
      | output word =>
        rw [devicesAfter, if_neg more] at devices
        simp only [touched, devicesAfter, width, (write_eq_of_reset_eq devices bus.address _).1,
          devices]
      | _ => exact devices
    · refine (congrArg₂ _ before.events moves.events).trans ?_
      have decoded : (carried traffic k bus).decoded bus.address = bus.decoded bus.address := by
        rw [Bus.decoded, width, Bus.decoded]
      cases traffic with
      | input =>
        simp only [reported, reportsAfter, width, decoded, latched, if_neg more, List.append_nil,
          Nat.add_eq_zero_iff, one_ne_zero, and_false, if_false, ← List.append_assoc]
        congr 1
        split
        · next zero => subst zero; rfl
        · exact List.append_nil _
      | output word =>
        have devices := before.devices
        rw [devicesAfter, if_neg more] at devices
        simp only [reported, reportsAfter, width, decoded, if_neg more, List.nil_append,
          (write_eq_of_reset_eq devices bus.address _).2]
      | _ => rfl

/-- As many cycles as a word has bits carry the traffic out. -/
theorem carried_width (rests : bus.Rests) (fits : Word.Fits bus.width bus.address)
    (pos : 0 < bus.width) (whole : ∀ word, traffic = .output word → Word.Fits bus.width word) :
    (carried traffic bus.width bus).address = traffic.leaves bus.width bus.address ∧
      (carried traffic bus.width bus).reset = (bus.reset.carryOut bus.address traffic).1 ∧
      reports traffic bus.width bus = (bus.reset.carryOut bus.address traffic).2 := by
  have run : bus.Carried traffic bus.width := carried_run rests fits pos le_rfl
  have carries : (carried traffic bus.width bus).Carries traffic bus.address
      (bus.read bus.address).1 (carried traffic bus.width bus).width := by
    simpa only [run.width] using run.carries
  have address := (carries.finish (run.width.symm ▸ fits)).2
  have devices := run.devices
  have events := run.events
  have positive : ¬bus.width = 0 := by omega
  have decoded : bus.reset.decoded bus.address = bus.decoded bus.address := rfl
  rw [run.width] at address
  refine ⟨address, ?_⟩
  cases traffic with
  | quiet | halted | address => exact ⟨devices, events⟩
  | input =>
    rw [devicesAfter, if_neg positive] at devices
    rw [reportsAfter, if_neg positive, if_pos rfl] at events
    rw [devices, events, carryOut, readWord, read_reset, decoded]
    exact ⟨rfl, rfl⟩
  | output word =>
    rw [devicesAfter, if_pos rfl, Bits.keep_eq_self (whole word rfl)] at devices
    rw [reportsAfter, if_pos rfl, Bits.keep_eq_self (whole word rfl)] at events
    rw [devices, events, carryOut, writeWord, write_reset, decoded]
    exact ⟨rfl, rfl⟩

end Bus

end SerialMachine
