import SerialMachine.Proofs.Framing
import SerialMachine.Proofs.Attempts
import SerialMachine.WatchedBus

/-!
# Word accesses on the lines

A word access is sent as an address, lowest bit first, and as many cycles that read or write; cycles
without a strobe may stand anywhere. Main statement: in whatever state a bus is, a row of accesses
moves the words that the devices hold, touches each device once for each access, and tells the
observers of each access once.
-/

namespace SerialMachine

open Bits (bit drop keep test weight)

/-- The lines without what does not count: the strobes, and the lowest bit of what they announce. -/
def Signals.plain (signals : Signals) : Signals :=
  { a := if signals.ae then Bits.low signals.a else 0
    o := if signals.oe then Bits.low signals.o else 0
    ae := signals.ae
    ie := signals.ie
    oe := signals.oe }

/-- The bits that came in where one was asked for. -/
def Signals.asked (signals : List Signals) (bits : List Int) : List Int :=
  ((signals.zip bits).filter (·.1.ie)).map (·.2)

/-- A word access. -/
inductive Access
  | read (address : Int)
  | write (address value : Int)
  deriving DecidableEq

namespace Access

def address : Access → Int
  | read address => address
  | write address _ => address

/-- What is done on the bus once the address has been sent. -/
def traffic : Access → Traffic
  | read _ => .input
  | write _ value => .output value

/-- The lines that send an access in words of `n` bits. -/
def lines (n : Nat) (x : Access) : List Signals :=
  (Traffic.address x.address).lines n ++ x.traffic.lines n

end Access

/-- The lowest `n` bits of a word, the first one first. -/
def Bits.spelled (n : Nat) (word : Int) : List Int :=
  (List.range n).map (bit · word)

namespace Transfer

/-- The bits that come in with a transfer of words of `n` bits. -/
def received (n : Nat) (t : Transfer) : List Int :=
  if t.writing then [] else Bits.spelled n t.value

end Transfer

namespace Bus

/-- The bus after a word access. -/
def access (bus : Bus) : Access → Bus
  | .read address => (bus.read address).2.1
  | .write address value => (bus.write address value).1

/-- The transfer that an access comes to. -/
def transfer (bus : Bus) : Access → Transfer
  | .read address =>
    { writing := false, address := bus.decoded address, value := (bus.read address).1 }
  | .write address value =>
    { writing := true, address := bus.decoded address, value := keep bus.width value }

/-- The transfers that a row of accesses comes to. -/
def transfers : Bus → List Access → List Transfer
  | _, [] => []
  | bus, x :: rest => bus.transfer x :: transfers (bus.access x) rest

variable {bus after : Bus} {signals : List Signals} {events : List Event} {bits : List Int}

/-! ## Lines that do not count -/

theorem shiftAddress_low (bus : Bus) (b : Int) :
    bus.shiftAddress (Bits.low b) = bus.shiftAddress b := by
  have same : test 0 (Bits.low b) = test 0 b := by rw [Bits.low_eq_bit, Bits.test_zero_bit]
  simp only [shiftAddress, Shift.enter, same]

theorem takeBit_low (bus : Bus) (b : Int) : bus.takeBit (Bits.low b) = bus.takeBit b := by
  have same : test 0 (Bits.low b) = test 0 b := by rw [Bits.low_eq_bit, Bits.test_zero_bit]
  simp only [takeBit, same]

theorem cycle_plain (bus : Bus) (s : Signals) : bus.cycle s.plain = bus.cycle s := by
  obtain ⟨a, o, ae, ie, oe, stop⟩ := s
  cases ae with
  | true =>
    cases ie with
    | true => cases oe <;> rfl
    | false =>
      cases oe with
      | true => rfl
      | false => simp [cycle, Signals.plain, Signals.check, Signals.enables, shiftAddress_low]
  | false =>
    cases oe with
    | false => cases ie <;> rfl
    | true =>
      cases ie with
      | true => rfl
      | false =>
        simp [cycle, Signals.plain, Signals.check, Signals.enables, shiftWrite, takeBit_low]

theorem cycle_idle (bus : Bus) {s : Signals} (idle : s.strobed = false) :
    bus.cycle s = { bus, events := [], reply := .ok 0 } := by
  simp only [Signals.strobed, Bool.or_eq_false_iff] at idle
  obtain ⟨⟨ae, ie⟩, oe⟩ := idle
  simp [cycle, Signals.check, Signals.enables, ae, ie, oe]

/-! ## Rows of cycles -/

/-- Cycles with the given lines go through, with these events and, where a bit is asked for, these
bits. -/
inductive Serves : Bus → List Signals → Bus → List Event → List Int → Prop
  | nil (bus : Bus) : Serves bus [] bus [] []
  | cons {bus after : Bus} {s : Signals} {rest : List Signals} {events : List Event}
    {bit : Int} {bits : List Int} (reply : (bus.cycle s).reply = .ok bit)
    (more : Serves (bus.cycle s).bus rest after events bits) :
    Serves bus (s :: rest) after ((bus.cycle s).events ++ events)
      ((if s.ie then [bit] else []) ++ bits)

theorem Serves.append {later : List Signals} {final : Bus} {events' : List Event}
    {bits' : List Int} (h : bus.Serves signals after events bits)
    (h' : after.Serves later final events' bits') :
    bus.Serves (signals ++ later) final (events ++ events') (bits ++ bits') := by
  induction h with
  | nil => exact h'
  | cons reply more ih =>
    rw [List.append_assoc, List.append_assoc]
    exact .cons reply (ih h')

theorem Serves.of_head {other : Bus} {s : Signals}
    (h : other.Serves (s :: signals) after events bits)
    (alike : other.cycle s = bus.cycle s) : bus.Serves (s :: signals) after events bits := by
  cases h with
  | cons reply more =>
    rw [alike] at reply more ⊢
    exact .cons reply more

/-- Cycles without a strobe may be left out. -/
theorem Serves.of_filter (h : bus.Serves (signals.filter Signals.strobed) after events bits) :
    bus.Serves signals after events bits := by
  induction signals generalizing bus events bits with
  | nil => exact h
  | cons s rest ih =>
    by_cases strobed : s.strobed = true
    · rw [List.filter_cons, if_pos strobed] at h
      cases h with
      | cons reply more => exact .cons reply (ih more)
    · have idle := bus.cycle_idle (Bool.eq_false_iff.2 strobed)
      rw [List.filter_cons, if_neg strobed] at h
      have ie : s.ie = false := by
        simp only [Signals.strobed, Bool.or_eq_true, not_or, Bool.not_eq_true] at strobed
        exact strobed.1.2
      have reply : (bus.cycle s).reply = .ok 0 := by rw [idle]
      have more : (bus.cycle s).bus.Serves rest after events bits := by
        rw [idle]
        exact ih h
      have step := Serves.cons reply more
      simpa [idle, ie] using step

theorem Serves.of_plain (h : bus.Serves (signals.map Signals.plain) after events bits) :
    bus.Serves signals after events bits := by
  induction signals generalizing bus events bits with
  | nil => exact h
  | cons s rest ih =>
    cases h with
    | cons reply more =>
      rw [cycle_plain] at reply more ⊢
      exact .cons reply (ih more)

/-- The bits that some traffic asks for. -/
theorem serves_lines (traffic : Traffic) {k : Nat} (rests : bus.Rests)
    (fits : Word.Fits bus.width bus.address) (pos : 0 < bus.width) (le : k ≤ bus.width) :
    bus.Serves (traffic.lines k) (carried traffic k bus) (reports traffic k bus)
      (if traffic = .input then Bits.spelled k (bus.read bus.address).1 else []) := by
  induction k with
  | zero =>
    have none : (if traffic = .input then Bits.spelled 0 (bus.read bus.address).1 else []) = [] :=
      ite_self []
    rw [none]
    exact .nil bus
  | succ k ih =>
    have run : bus.Carried traffic k := carried_run rests fits pos (Nat.le_of_succ_le le)
    have moves := run.carries.moves (run.width.symm ▸ le) (run.width.symm ▸ fits)
    obtain ⟨b, reply, -, spells⟩ := moves.reply
    have last := Serves.cons reply (.nil _)
    rw [Traffic.lines_succ]
    have whole := (ih (Nat.le_of_succ_le le)).append last
    rw [List.append_nil, List.append_nil] at whole
    refine (congrArg _ ?_).mp whole
    by_cases input : traffic = .input
    · rw [latched_carried] at spells
      subst input
      simp [Bits.spelled, List.range_succ, spells rfl, Traffic.line, Signals.input]
    · have quiet : (traffic.line k).ie = false := by
        cases traffic with
        | input => exact absurd rfl input
        | _ => rfl
      simp [input, quiet]

/-! ## One access -/

theorem decoded_keep (bus : Bus) (address : Int) :
    bus.decoded (keep bus.width address) = bus.decoded address :=
  Bits.keep_keep (Nat.sub_le _ _) address

theorem offset_keep (bus : Bus) (address : Int) :
    bus.offset (keep bus.width address) = bus.offset address :=
  Bits.keep_keep (Nat.sub_le _ _) address

theorem selects_keep (pos : 0 < bus.width) (address : Int) :
    bus.selects (keep bus.width address) = bus.selects address :=
  Bits.test_keep (by rw [Word.selectPlace]; omega) address

/-- The devices see no more of an address and of a word than is sent. -/
theorem read_keep (pos : 0 < bus.width) (address : Int) :
    bus.read (keep bus.width address) = bus.read address := by
  unfold read
  rw [selects_keep pos, decoded_keep, offset_keep]

theorem write_keep (pos : 0 < bus.width) (address value : Int) :
    bus.write (keep bus.width address) (keep bus.width value) = bus.write address value := by
  unfold write
  simp only
  rw [selects_keep pos, decoded_keep, offset_keep, Bits.keep_keep le_rfl]

theorem transfer?_read (bus : Bus) (address : Int) :
    (bus.read address).2.2.filterMap Event.transfer? = [] := by
  unfold read
  split
  · split
    · rfl
    · simp only [Peripherals.read]
      split
      · split <;> rfl
      · rfl
      · rfl
      · rfl
  · simp only [Memory.read]
    split <;> rfl

theorem transfer?_write (bus : Bus) (address value : Int) :
    (bus.write address value).2.filterMap Event.transfer? = [] := by
  unfold write
  simp only
  split
  · split
    · rfl
    · simp only [Peripherals.write]
      split <;> rfl
  · simp only [Memory.write]
    split <;> rfl

theorem transfer_reset (bus : Bus) (x : Access) : bus.reset.transfer x = bus.transfer x := by
  cases x with
  | read address => simp only [transfer, read_reset]; rfl
  | write address value => rfl

theorem access_reset (bus : Bus) (x : Access) :
    (bus.reset.access x).reset = (bus.access x).reset := by
  cases x with
  | read address => rw [access, read_reset]; rfl
  | write address value => rw [access, write_reset]; rfl

/-- A half-done transfer is forgotten with the first bit of an address. -/
theorem exists_settled (bus : Bus) :
    ∃ settled : Bus, settled.Rests ∧ settled.width = bus.width ∧ settled.address = bus.address ∧
      settled.reset = bus.reset ∧ ∀ b, settled.cycle (.address b) = bus.cycle (.address b) := by
  refine ⟨{ bus with phase := if bus.phase = .address then .address else .idle },
    ?_, rfl, rfl, rfl, fun b => ?_⟩
  · cases phase : bus.phase <;> simp [Rests]
  · cases phase : bus.phase <;> simp [cycle, Signals.check, Signals.enables, Signals.address,
      shiftAddress, phase]

/-- An address arrives in whatever state the bus is. -/
theorem serves_address (fits : Word.Fits bus.width bus.address) (pos : 0 < bus.width)
    (address : Int) :
    ∃ after : Bus, bus.Serves ((Traffic.address address).lines bus.width) after [] [] ∧
      after.Rests ∧ after.width = bus.width ∧ after.address = keep bus.width address ∧
      after.reset = bus.reset := by
  obtain ⟨settled, rests, width, same, devices, alike⟩ := bus.exists_settled
  have run : settled.Carried (.address address) bus.width :=
    carried_run rests (by rw [same, width]; exact fits) (width ▸ pos) width.ge
  have serves : settled.Serves ((Traffic.address address).lines bus.width)
      (carried (.address address) bus.width settled) (reports (.address address) bus.width settled)
      [] :=
    serves_lines _ rests (by rw [same, width]; exact fits) (width ▸ pos) width.ge
  have arrived : (carried (.address address) bus.width settled).address =
      Shift.midway settled.width bus.width settled.address address := by
    rw [← run.width]
    exact run.carries.1
  rw [run.events] at serves
  refine ⟨_, ?_, run.carries.2, run.width.trans width, ?_, run.devices.trans devices⟩
  · obtain ⟨m, size⟩ := Nat.exists_eq_add_one.2 pos
    rw [size, Traffic.lines, List.range_succ_eq_map, List.map_cons] at serves ⊢
    exact serves.of_head (alike _)
  · rw [arrived, width, Shift.midway_self (same ▸ fits)]

theorem lines_output_keep (n : Nat) (word : Int) :
    (Traffic.output (keep n word)).lines n = (Traffic.output word).lines n := by
  refine List.map_congr_left fun k member => ?_
  have same := Bits.test_keep (List.mem_range.1 member) word
  rw [Traffic.line, Traffic.line, Bits.bit_eq_of_test_eq same]

/-- A word moves at the address that has arrived. -/
theorem serves_traffic {x : Access} (rests : bus.Rests)
    (arrived : bus.address = keep bus.width x.address) (pos : 0 < bus.width) :
    ∃ after events,
      bus.Serves (x.traffic.lines bus.width) after events ((bus.transfer x).received bus.width) ∧
        after.reset = (bus.access x).reset ∧
        events.filterMap Event.transfer? = [bus.transfer x] := by
  have fits : Word.Fits bus.width bus.address := arrived ▸ Bits.fits_keep _ _
  have decoded : bus.reset.decoded bus.address = bus.decoded x.address := by
    rw [arrived]
    exact bus.decoded_keep x.address
  cases x with
  | read address =>
    have done : (bus.reset.carryOut bus.address .input).1 = (bus.read address).2.1.reset ∧
        (bus.reset.carryOut bus.address .input).2 = (bus.read address).2.2 ++
          [.wordRead (bus.decoded address) (bus.read address).1] := by
      simp only [carryOut, readWord, read_reset, decoded, Access.address]
      rw [arrived, Access.address, read_keep pos]
      exact ⟨rfl, rfl⟩
    have moved : (carried .input bus.width bus).reset = (bus.reset.carryOut bus.address .input).1 ∧
        reports .input bus.width bus = (bus.reset.carryOut bus.address .input).2 :=
      (carried_width rests fits pos (by simp)).2
    have serves := serves_lines .input rests fits pos le_rfl
    rw [moved.2, done.2, arrived, Access.address, read_keep pos] at serves
    refine ⟨_, _, serves, moved.1.trans done.1, ?_⟩
    rw [List.filterMap_append, transfer?_read]
    rfl
  | write address value =>
    have whole : ∀ word, Traffic.output (keep bus.width value) = .output word →
        Word.Fits bus.width word := by
      rintro word same
      rw [← Traffic.output.inj same]
      exact Bits.fits_keep _ _
    have done : (bus.reset.carryOut bus.address (.output (keep bus.width value))).1 =
          (bus.write address value).1.reset ∧
        (bus.reset.carryOut bus.address (.output (keep bus.width value))).2 =
          (bus.write address value).2 ++
            [.wordWritten (bus.decoded address) (keep bus.width value)] := by
      simp only [carryOut, writeWord, write_reset, decoded, Access.address]
      rw [arrived, Access.address, write_keep pos]
      exact ⟨rfl, rfl⟩
    obtain ⟨-, devices, events⟩ := carried_width rests fits pos whole
    have serves := serves_lines (.output (keep bus.width value)) rests fits pos le_rfl
    rw [events, done.2, lines_output_keep] at serves
    refine ⟨_, _, serves, devices.trans done.1, ?_⟩
    rw [List.filterMap_append, transfer?_write]
    rfl

/-- Every state of the bus serves an access. -/
theorem serves_access (fits : Word.Fits bus.width bus.address) (pos : 0 < bus.width) (x : Access) :
    ∃ after events,
      bus.Serves (x.lines bus.width) after events ((bus.transfer x).received bus.width) ∧
        after.reset = (bus.access x).reset ∧
        events.filterMap Event.transfer? = [bus.transfer x] := by
  obtain ⟨ready, addressed, rests, width, arrived, devices⟩ :=
    serves_address fits pos x.address
  rw [← width] at pos arrived
  obtain ⟨after, events, moved, touched, told⟩ := serves_traffic rests arrived pos
  have transfer : ready.transfer x = bus.transfer x := by
    rw [← transfer_reset, devices, transfer_reset]
  have access : (ready.access x).reset = (bus.access x).reset := by
    rw [← access_reset, devices, access_reset]
  rw [transfer, width] at moved
  rw [transfer] at told
  exact ⟨after, events, addressed.append moved, touched.trans access, told⟩

/-! ## A bus of one width -/

/-- The bus and its peripherals are of one width, and the address fits it. -/
structure Uniform (n : Nat) (bus : Bus) : Prop where
  width : bus.width = n
  address : Word.Fits n bus.address
  peripherals : ∀ p ∈ bus.peripherals, p.width = n

variable {n : Nat}

theorem Uniform.of_map {other : Bus} (h : bus.Uniform n) (same : other.width = bus.width)
    (fits : Word.Fits n other.address)
    (widths : other.peripherals.map (·.width) = bus.peripherals.map (·.width)) :
    other.Uniform n := by
  refine ⟨same.trans h.width, fits, fun p member => ?_⟩
  have found : other.peripherals.map (·.width) = some p.width := by rw [member]; rfl
  obtain ⟨q, there, eq⟩ := Option.map_eq_some_iff.1 (widths.symm.trans found)
  exact eq.symm.trans (h.peripherals q there)

theorem width_read (p : Peripherals) (offset : Int) : (p.read offset).2.1.width = p.width := by
  unfold Peripherals.read
  split
  · split <;> rfl
  · rfl
  · rfl
  · rfl

theorem width_write (p : Peripherals) (offset value : Int) :
    (p.write offset value).1.width = p.width := by
  unfold Peripherals.write
  split <;> rfl

theorem Uniform.read (h : bus.Uniform n) (address : Int) :
    (bus.read address).2.1.Uniform n := by
  unfold Bus.read
  split
  · split
    · exact h
    · next p there => exact h.of_map rfl h.address (by simp [there, width_read])
  · exact h

theorem Uniform.write (h : bus.Uniform n) (address value : Int) :
    (bus.write address value).1.Uniform n := by
  unfold Bus.write
  simp only
  split
  · split
    · exact h
    · next p there => exact h.of_map rfl h.address (by simp [there, width_write])
  · exact ⟨h.width, h.address, h.peripherals⟩

theorem Uniform.shiftRead (h : bus.Uniform n) : bus.shiftRead.bus.Uniform n := by
  have begun : bus.beginRead.1.Uniform n := by
    unfold beginRead
    split
    · exact h
    · have read := h.read bus.address
      exact ⟨read.width, read.address, read.peripherals⟩
  unfold Bus.shiftRead
  simp only
  split <;> exact ⟨begun.width, begun.address, begun.peripherals⟩

theorem Uniform.takeBit (h : bus.Uniform n) (bit : Int) : (bus.takeBit bit).Uniform n := by
  unfold Bus.takeBit beginWrite
  split <;> exact ⟨h.width, h.address, h.peripherals⟩

theorem Uniform.shiftWrite (h : bus.Uniform n) (bit : Int) :
    (bus.shiftWrite bit).bus.Uniform n := by
  have taken := h.takeBit bit
  unfold Bus.shiftWrite
  simp only
  split
  · have written := taken.write (bus.takeBit bit).address (bus.takeBit bit).writeBuffer
    exact ⟨written.width, written.address, written.peripherals⟩
  · exact taken

theorem Uniform.cycle (h : bus.Uniform n) (pos : 0 < n) (s : Signals) :
    (bus.cycle s).bus.Uniform n := by
  unfold Bus.cycle
  split
  · exact h
  · split_ifs
    · have entered := Shift.fits_enter pos h.address s.a
      exact ⟨h.width, h.width.symm ▸ entered, h.peripherals⟩
    · exact h.shiftRead
    · exact h.shiftWrite s.o
    · exact h

theorem Uniform.serves (h : bus.Uniform n) (pos : 0 < n)
    (serves : bus.Serves signals after events bits) : after.Uniform n := by
  induction serves with
  | nil => exact h
  | cons reply more ih => exact ih (h.cycle pos _)

/-- A bus of an ordinary width refuses nothing. -/
theorem Uniform.refusal?_eq_none {host : Host} (h : bus.Uniform n) (small : (n : Int) < host.bits)
    (s : Signals) : bus.refusal? host s = none := by
  refine Bus.refusal?_eq_none (fun p member => ?_) s
  rw [h.peripherals p member]
  exact ⟨Int.natCast_nonneg n, small⟩

/-! ## Rows of accesses -/

/-- A row of accesses comes to what the devices alone make of it. -/
theorem serves_accesses (h : bus.Uniform n) (pos : 0 < n) {ideal : Bus}
    (same : bus.reset = ideal.reset) (xs : List Access) :
    ∃ after events,
      bus.Serves (xs.flatMap (Access.lines n)) after events
          ((ideal.transfers xs).flatMap (Transfer.received n)) ∧
        after.reset = (xs.foldl Bus.access ideal).reset ∧
        events.filterMap Event.transfer? = ideal.transfers xs := by
  induction xs generalizing bus ideal with
  | nil => exact ⟨bus, [], .nil bus, same, rfl⟩
  | cons x rest ih =>
    obtain rfl := h.width
    obtain ⟨next, events, serves, devices, told⟩ := serves_access h.address pos x
    have transfer : bus.transfer x = ideal.transfer x := by
      rw [← transfer_reset, same, transfer_reset]
    have access : (bus.access x).reset = (ideal.access x).reset := by
      rw [← access_reset, same, access_reset]
    obtain ⟨after, more, serves', devices', told'⟩ :=
      ih (h.serves pos serves) (devices.trans access)
    rw [transfer] at serves told
    refine ⟨after, events ++ more, serves.append serves', devices', ?_⟩
    rw [List.filterMap_append, told, told']
    rfl

end Bus

/-! ## What has happened to a bus -/

/-- What a host does with a bus and with the devices behind it. -/
inductive BusAction
  /-- One clock cycle, also one that is refused. -/
  | cycle (signals : Signals)
  | reset
  | readWord (address : Int)
  | writeWord (address value : Int)
  | feed (bytes : List UInt8)
  | setSwitches (value : Int)
  | resetPeripherals
  | loadWords (words : List Int) (start : Int)
  | clearMemory

namespace Bus

/-- The bus after an action. -/
def act (bus : Bus) : BusAction → Bus
  | .cycle signals => (bus.cycle signals).bus
  | .reset => bus.reset
  | .readWord address => (bus.read address).2.1
  | .writeWord address value => (bus.write address value).1
  | .feed bytes => bus.mapPeripherals (·.feed bytes)
  | .setSwitches value => bus.mapPeripherals fun p => { p with switches := value }
  | .resetPeripherals => bus.mapPeripherals Peripherals.reset
  | .loadWords words start =>
    match bus.memory.loadWords words start with
    | .ok memory => { bus with memory }
    | .error _ => bus
  | .clearMemory => { bus with memory := bus.memory.clear }

/-- The bus after a history of actions. -/
def after (bus : Bus) (history : List BusAction) : Bus :=
  history.foldl act bus

variable {bus fresh : Bus} {n : Nat}

theorem Uniform.mapPeripherals (h : bus.Uniform n) {f : Peripherals → Peripherals}
    (same : ∀ p, (f p).width = p.width) : (bus.mapPeripherals f).Uniform n := by
  refine h.of_map rfl h.address ?_
  rw [Bus.mapPeripherals, Option.map_map]
  exact Option.map_congr fun p _ => same p

theorem Uniform.act (h : bus.Uniform n) (pos : 0 < n) (action : BusAction) :
    (bus.act action).Uniform n := by
  cases action with
  | cycle signals => exact h.cycle pos signals
  | reset => exact ⟨h.width, Bits.fits_zero n, h.peripherals⟩
  | readWord address => exact h.read address
  | writeWord address value => exact h.write address value
  | feed | setSwitches | resetPeripherals => exact h.mapPeripherals fun _ => rfl
  | loadWords words start =>
    unfold Bus.act
    simp only
    split
    · exact ⟨h.width, h.address, h.peripherals⟩
    · exact h
  | clearMemory => exact ⟨h.width, h.address, h.peripherals⟩

theorem Uniform.after (h : bus.Uniform n) (pos : 0 < n) (history : List BusAction) :
    (bus.after history).Uniform n := by
  induction history generalizing bus with
  | nil => exact h
  | cons action rest ih => exact ih (h.act pos action)

end Bus

/-! ## Devices that the host has room for -/

section Host

variable {host : Host} {n : Nat} {size : Option Int} {memory : Memory}
  {peripherals : Option Peripherals} {fresh : Bus}

theorem Word.le_window (wide : 8 ≤ n) : n ≤ Word.window n := by
  obtain ⟨k, rfl⟩ := Nat.exists_eq_add_of_le wide
  have lt := k.lt_two_pow_self
  rw [window, Nat.one_shiftLeft, show 8 + k - 5 = k + 3 by omega, Nat.pow_add]
  omega

/-- A memory is made blank. -/
theorem Memory.eq_of_make (made : Memory.make host n size = .ok memory) :
    memory = { width := n, size := size.getD (Word.window n) } := by
  obtain ⟨fresh, begun, checked⟩ := bind_eq_ok_iff.1 made
  obtain ⟨u, -, same⟩ := bind_eq_ok_iff.1 checked
  obtain rfl := Except.ok.inj same
  cases size with
  | some size =>
    obtain ⟨m, room, same⟩ := bind_eq_ok_iff.1 begun
    obtain rfl := Except.ok.inj same
    rw [← (AnyWidth.roomy_eq_ok_iff.1 room).2.2, Int.toNat_natCast, Option.getD_some]
  | none =>
    obtain ⟨m, room, same⟩ := bind_eq_ok_iff.1 begun
    obtain rfl := Except.ok.inj same
    rw [← (AnyWidth.roomy_eq_ok_iff.1 room).2.2, Int.toNat_natCast, Option.getD_none]

/-- Where there is room for a memory, there is room for its words. -/
theorem Memory.lt_of_make (made : Memory.make host n size = .ok memory) :
    (n : Int) < host.bits := by
  obtain ⟨fresh, begun, checked⟩ := bind_eq_ok_iff.1 made
  obtain ⟨u, within, same⟩ := bind_eq_ok_iff.1 checked
  obtain rfl := Except.ok.inj same
  cases size with
  | some size =>
    obtain ⟨m, room, -⟩ := bind_eq_ok_iff.1 begun
    exact ((AnyWidth.roomy_zero_eq_ok_iff (Int.natCast_nonneg n)).1 room).1
  | none =>
    obtain rfl := eq_of_make made
    have few : (Word.window n : Int) < host.words := (checkSize_eq_ok_iff.1 within).2.2
    have narrow := host.eight_le_bits
    have roomier := host.words_le_bits
    rcases Nat.lt_or_ge n 8 with small | wide
    · omega
    · have large := Word.le_window wide
      omega

/-- A bus is made at rest. -/
theorem Bus.eq_of_make (built : Bus.make host n memory peripherals = .ok fresh) :
    fresh = { width := n, memory, peripherals } := by
  obtain ⟨m, room, same⟩ := bind_eq_ok_iff.1 built
  obtain rfl := Except.ok.inj same
  rw [← (AnyWidth.roomy_eq_ok_iff.1 room).2.2, Int.toNat_natCast]

theorem Bus.uniform_make (built : Bus.make host n memory peripherals = .ok fresh)
    (alike : ∀ p ∈ peripherals, p.width = n) : fresh.Uniform n := by
  obtain rfl := Bus.eq_of_make built
  exact ⟨rfl, Bits.fits_zero n, alike⟩

end Host

namespace WatchedBus

variable {bus after : Bus} {signals : List Signals} {events : List Event} {bits : List Int}
  {n : Nat}

/-! ## Observers -/

theorem observe_withBus (w : WatchedBus) (bus : Bus) (event : Event) :
    ({ w with bus } : WatchedBus).observe event = { w.observe event with bus } := by
  unfold observe
  cases event.transfer? with
  | none => rfl
  | some transfer =>
    simp only
    split <;> rfl

theorem foldl_observe_withBus (w : WatchedBus) (bus : Bus) (events : List Event) :
    events.foldl observe { w with bus } = { events.foldl observe w with bus } := by
  induction events generalizing w with
  | nil => rfl
  | cons event rest ih => rw [List.foldl_cons, observe_withBus, ih]; rfl

theorem exists_observe_eq (w : WatchedBus) (reads : w.stopReads.isSome)
    (writes : w.stopWrites.isSome) (event : Event) :
    ∃ stopRequested, w.observe event =
      { w with told := w.told ++ event.transfer?.toList, stopRequested } := by
  obtain ⟨read, reads⟩ := Option.isSome_iff_exists.1 reads
  obtain ⟨written, writes⟩ := Option.isSome_iff_exists.1 writes
  unfold observe
  cases event.transfer? with
  | none => exact ⟨w.stopRequested, by simp⟩
  | some transfer =>
    cases writing : transfer.writing with
    | false =>
      exact ⟨w.stopRequested || read.contains transfer.address, by simp [writing, reads]⟩
    | true =>
      exact ⟨w.stopRequested || written.contains transfer.address, by simp [writing, writes]⟩

/-- Observers of reads and of writes are told of every transfer, once each and in order. -/
theorem told_foldl_observe (w : WatchedBus) (reads : w.stopReads.isSome)
    (writes : w.stopWrites.isSome) (events : List Event) :
    (events.foldl observe w).told = w.told ++ events.filterMap Event.transfer? := by
  induction events generalizing w with
  | nil => simp
  | cons event rest ih =>
    obtain ⟨stopRequested, observed⟩ := w.exists_observe_eq reads writes event
    rw [List.foldl_cons, observed]
    refine (ih { w with told := _, stopRequested } reads writes).trans ?_
    rw [List.append_assoc, List.filterMap_cons]
    cases event.transfer? <;> rfl

theorem host_observe (w : WatchedBus) (event : Event) : (w.observe event).host = w.host := by
  unfold observe
  cases event.transfer? with
  | none => rfl
  | some transfer =>
    simp only
    split <;> rfl

theorem host_foldl_observe (w : WatchedBus) (events : List Event) :
    (events.foldl observe w).host = w.host := by
  induction events generalizing w with
  | nil => rfl
  | cons event rest ih => rw [List.foldl_cons, ih, host_observe]

/-- Cycles that go through do so under observation. -/
theorem burst_of_serves (serves : bus.Serves signals after events bits) (uniform : bus.Uniform n)
    (pos : 0 < n) (w : WatchedBus) (small : (n : Int) < w.host.bits) (same : w.bus = bus) :
    ∃ all, (w.burst signals).reply = .ok all ∧ Signals.asked signals all = bits ∧
      (w.burst signals).bus = { events.foldl observe w with bus := after } := by
  induction serves generalizing w with
  | nil bus =>
    subst same
    exact ⟨[], rfl, rfl, rfl⟩
  | @cons bus after s rest events bit bits reply more ih =>
    subst same
    have cycle : w.cycle s =
        { bus := (w.bus.cycle s).events.foldl observe { w with bus := (w.bus.cycle s).bus }
          events := (w.bus.cycle s).events
          reply := .ok bit } := by
      rw [WatchedBus.cycle, uniform.refusal?_eq_none small s]
      simp only [reply, Except.mapError]
    obtain ⟨all, replies, asked, bus⟩ := ih (uniform.cycle pos s)
      ((w.bus.cycle s).events.foldl observe { w with bus := (w.bus.cycle s).bus })
      (by rw [host_foldl_observe]; exact small) (by rw [foldl_observe_withBus])
    refine ⟨bit :: all, ?_, ?_, ?_⟩
    · rw [burst, cycle]
      simp only [replies, Except.map]
    · rw [← asked, Signals.asked, List.zip_cons_cons, List.filter_cons]
      cases s.ie <;> rfl
    · rw [burst, cycle]
      refine bus.trans ?_
      simp only [foldl_observe_withBus, List.foldl_append]

/-- In whatever state a bus of `n`-bit words is, a row of word accesses sent bit by bit, with idle
cycles anywhere, brings in the words that are read and no other bits that are asked for, leaves the
devices as the same accesses word by word do, and tells observers of both kinds of each access once,
in order. -/
theorem burst_accesses {n : Nat} (wide : 8 ≤ n) {w : WatchedBus} {size : Option Int}
    {memory : Memory} (made : Memory.make w.host n size = .ok memory)
    {peripherals : Option Peripherals} (alike : ∀ p ∈ peripherals, p.width = n) {fresh : Bus}
    (built : Bus.make w.host n memory peripherals = .ok fresh) (history : List BusAction)
    (reached : w.bus = fresh.after history) {accesses : List Access} {signals : List Signals}
    (sent : (signals.filter Signals.strobed).map Signals.plain =
      accesses.flatMap (Access.lines n)) :
    ∃ bits, (w.burst signals).reply = .ok bits ∧
      Signals.asked signals bits = (w.bus.transfers accesses).flatMap (Transfer.received n) ∧
      (w.burst signals).bus.bus.memory = (accesses.foldl Bus.access w.bus).memory ∧
      (w.burst signals).bus.bus.peripherals = (accesses.foldl Bus.access w.bus).peripherals ∧
      (w.stopReads.isSome → w.stopWrites.isSome →
        (w.burst signals).bus.told = w.told ++ w.bus.transfers accesses) := by
  have pos : 0 < n := by omega
  have uniform : w.bus.Uniform n := by
    rw [reached]
    exact (Bus.uniform_make built alike).after pos history
  obtain ⟨after, events, serves, devices, told⟩ := Bus.serves_accesses uniform pos rfl accesses
  rw [← sent] at serves
  obtain ⟨bits, reply, asked, bus⟩ :=
    burst_of_serves serves.of_plain.of_filter uniform pos w (Memory.lt_of_make made) rfl
  have left : (w.burst signals).bus.bus = after := by rw [bus]
  refine ⟨bits, reply, asked, ?_, ?_, ?_⟩
  · rw [left]
    exact congrArg (·.memory) devices
  · rw [left]
    exact congrArg (·.peripherals) devices
  · intro reads writes
    rw [bus, ← told]
    exact told_foldl_observe w reads writes events

/-- An eight-bit bus whose serial line has received two bytes. -/
def twoBytes : Bus :=
  { width := 8
    memory := { width := 8, size := 8 }
    peripherals := some { width := 8, waiting := [0x41, 0x42] } }

/-- A read of the serial line that is given up after three bits. -/
def givenUp : List BusAction :=
  ((Traffic.address 8).lines 8 ++ Traffic.input.lines 3).map .cycle

/-- The bus after the read that was given up, under observers. -/
def listener : WatchedBus :=
  { bus := twoBytes.after givenUp, stopReads := some [], stopWrites := some [] }

/-- A read of the serial line and a write to it, with an idle cycle after every other. -/
def echo : List Signals :=
  ((Access.read 8).lines 8 ++ (Access.write 8 0x5A).lines 8).flatMap fun s => [s, {}]

theorem burst_accesses_echo :
    (echo.filter Signals.strobed).map Signals.plain =
        [Access.read 8, .write 8 0x5A].flatMap (Access.lines 8) ∧
      (listener.burst echo).bus.told =
        [{ writing := false, address := 8, value := 0x42 },
          { writing := true, address := 8, value := 0x5A }] := by
  have sent : (echo.filter Signals.strobed).map Signals.plain =
      [Access.read 8, .write 8 0x5A].flatMap (Access.lines 8) := by decide +kernel
  have made : Memory.make listener.host (8 : Nat) none = .ok twoBytes.memory := rfl
  have alike : ∀ p ∈ twoBytes.peripherals, p.width = (8 : Nat) := by decide
  have built : Bus.make listener.host (8 : Nat) twoBytes.memory twoBytes.peripherals =
      .ok twoBytes := rfl
  have reached : listener.bus = twoBytes.after givenUp := rfl
  obtain ⟨-, -, -, -, -, told⟩ :=
    burst_accesses (by decide) made alike built givenUp reached sent
  exact ⟨sent, (told rfl rfl).trans (by decide +kernel)⟩

end WatchedBus

end SerialMachine
