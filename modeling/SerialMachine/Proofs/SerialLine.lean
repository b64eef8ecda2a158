import SerialMachine.Proofs.Decoding
import SerialMachine.Proofs.Framing

/-!
# The serial line

A read of the serial line uses a byte up in its first cycle of many, while more bytes may arrive in
any cycle. Main statement: over any session that leaves the bus to the processor, the bytes that
reads have used up, and after them those that still wait, are those that waited and those that came;
each byte reaches the registers as it is, and every word stored to the line sends one byte.
-/

namespace SerialMachine

open Bits (bit drop keep test weight)

/-! ## The line on the bus -/

namespace Peripherals

/-- The word that a read of the serial line delivers when it finds a byte, or none. -/
def heard (n : Nat) : Option UInt8 → Int
  | some byte => byte.toNat
  | none => keep n nothingReceived

theorem lowByte_keep {n : Nat} (wide : 8 ≤ n) (value : Int) :
    lowByte (keep n value) = lowByte value := by
  rw [lowByte, lowByte, Bits.keep_keep wide]

theorem keep_byte {n : Nat} (wide : 8 ≤ n) (byte : UInt8) :
    keep n (byte.toNat : Int) = byte.toNat :=
  Bits.keep_eq_self (Bits.fits_mono (Bits.fits_natCast (UInt8.toNat_lt byte)) wide)

end Peripherals

namespace Bus

/-- Whether an address means the serial line. -/
def meansLine (bus : Bus) (address : Int) : Bool :=
  bus.selects address && Peripheral.ofOffset? (bus.offset address) == some .line

/-- The bytes received and not read yet. -/
def waiting (bus : Bus) : List UInt8 :=
  bus.peripherals.elim [] (·.waiting)

/-- The bytes transmitted so far. -/
def sent (bus : Bus) : List UInt8 :=
  bus.peripherals.elim [] (·.output.toList)

/-- There are peripherals behind the bus, and whatever it has latched is a word. -/
structure Attached (bus : Bus) : Prop where
  peripherals : bus.peripherals.isSome = true
  fits : Word.Fits bus.width bus.readLatch

variable {bus : Bus} {address : Int}

@[simp] theorem waiting_reset (bus : Bus) : bus.reset.waiting = bus.waiting := rfl

@[simp] theorem sent_reset (bus : Bus) : bus.reset.sent = bus.sent := rfl

theorem meansLine_of_width {other : Bus} (same : other.width = bus.width) (address : Int) :
    other.meansLine address = bus.meansLine address := by
  rw [meansLine, meansLine, selects, selects, offset, offset, same]

theorem line_feed (h : bus.Attached) (bytes : List UInt8) :
    (bus.mapPeripherals (·.feed bytes)).waiting = bus.waiting ++ bytes ∧
      (bus.mapPeripherals (·.feed bytes)).sent = bus.sent := by
  obtain ⟨p, some⟩ := Option.isSome_iff_exists.1 h.peripherals
  simp [waiting, sent, mapPeripherals, some, Peripherals.feed]

theorem line_setSwitches (bus : Bus) (value : Int) :
    (bus.mapPeripherals fun p => { p with switches := value }).waiting = bus.waiting ∧
      (bus.mapPeripherals fun p => { p with switches := value }).sent = bus.sent := by
  unfold waiting sent mapPeripherals
  cases bus.peripherals <;> exact ⟨rfl, rfl⟩

/-- A read of the line takes one byte off the queue, and delivers it. -/
theorem read_of_meansLine (h : bus.Attached) (wide : 8 ≤ bus.width)
    (line : bus.meansLine address = true) :
    (bus.read address).1 = Peripherals.heard bus.width bus.waiting.head? ∧
      (bus.read address).2.1.waiting = bus.waiting.tail ∧
      (bus.read address).2.1.sent = bus.sent := by
  obtain ⟨p, some⟩ := Option.isSome_iff_exists.1 h.peripherals
  rw [meansLine, Bool.and_eq_true, beq_iff_eq] at line
  obtain ⟨selected, line⟩ := line
  simp only [read, selected, if_true, some, Peripherals.read, line, waiting, sent, Option.elim_some]
  cases waits : p.waiting with
  | nil => exact ⟨rfl, waits, rfl⟩
  | cons byte rest => exact ⟨Peripherals.keep_byte wide byte, rfl, rfl⟩

theorem read_of_not_meansLine (bus : Bus) (other : bus.meansLine address = false) :
    (bus.read address).2.1.waiting = bus.waiting ∧ (bus.read address).2.1.sent = bus.sent := by
  rw [meansLine] at other
  unfold read
  split
  · next selected =>
    split
    · exact ⟨rfl, rfl⟩
    · next p some =>
      simp only [selected, Bool.true_and, beq_eq_false_iff_ne, ne_eq] at other
      simp only [waiting, sent, some, Option.elim_some, Peripherals.read]
      split
      · next line => exact absurd line other
      all_goals exact ⟨rfl, rfl⟩
  · exact ⟨rfl, rfl⟩

/-- A write to the line sends the lowest byte of the word. -/
theorem write_of_meansLine (h : bus.Attached) (wide : 8 ≤ bus.width)
    (line : bus.meansLine address = true) (value : Int) :
    (bus.write address value).1.waiting = bus.waiting ∧
      (bus.write address value).1.sent = bus.sent ++ [Peripherals.lowByte value] := by
  obtain ⟨p, some⟩ := Option.isSome_iff_exists.1 h.peripherals
  rw [meansLine, Bool.and_eq_true, beq_iff_eq] at line
  obtain ⟨selected, line⟩ := line
  simp [write, selected, some, Peripherals.write, line, waiting, sent,
    Peripherals.lowByte_keep wide]

theorem write_of_not_meansLine (bus : Bus) (other : bus.meansLine address = false) (value : Int) :
    (bus.write address value).1.waiting = bus.waiting ∧
      (bus.write address value).1.sent = bus.sent := by
  rw [meansLine] at other
  unfold write
  simp only
  split
  · next selected =>
    split
    · exact ⟨rfl, rfl⟩
    · next p some =>
      simp only [selected, Bool.true_and, beq_eq_false_iff_ne, ne_eq] at other
      simp only [waiting, sent, some, Option.elim_some, Peripherals.write]
      split
      · next line => exact absurd line other
      all_goals exact ⟨rfl, rfl⟩
  · exact ⟨rfl, rfl⟩

/-! ### Buses with peripherals -/

theorem Attached.mapPeripherals (h : bus.Attached) (f : Peripherals → Peripherals) :
    (bus.mapPeripherals f).Attached :=
  ⟨by simpa [Bus.mapPeripherals] using h.peripherals, h.fits⟩

theorem Attached.read (h : bus.Attached) (address : Int) : (bus.read address).2.1.Attached := by
  unfold Bus.read
  split
  · split
    · exact h
    · exact ⟨rfl, h.fits⟩
  · exact h

theorem Attached.write (h : bus.Attached) (address value : Int) :
    (bus.write address value).1.Attached := by
  unfold Bus.write
  simp only
  split
  · split
    · exact h
    · exact ⟨rfl, h.fits⟩
  · exact ⟨h.peripherals, h.fits⟩

theorem Attached.cycle (h : bus.Attached) (signals : Signals) :
    (bus.cycle signals).bus.Attached := by
  have begun : bus.beginRead.1.Attached := by
    unfold beginRead
    split
    · exact h
    · obtain ⟨peripherals, read⟩ := bus.exists_read_eq bus.address
      refine ⟨(h.read bus.address).peripherals, ?_⟩
      simp only [read]
      exact bus.fits_read bus.address
  have taken (bit : Int) : (bus.takeBit bit).Attached := by
    unfold takeBit beginWrite
    split <;> exact ⟨h.peripherals, h.fits⟩
  unfold Bus.cycle
  split
  · exact h
  · split_ifs
    · exact ⟨h.peripherals, h.fits⟩
    · unfold shiftRead
      simp only
      split <;> exact ⟨begun.peripherals, begun.fits⟩
    · unfold shiftWrite
      simp only
      split
      · have written := (taken signals.o).write (bus.takeBit signals.o).address
          (bus.takeBit signals.o).writeBuffer
        exact ⟨written.peripherals, written.fits⟩
      · exact taken signals.o
    · exact h

/-! ### The line under traffic -/

/-- Only the first cycle of a read takes a byte off the queue. -/
theorem line_touched_input (h : bus.Attached) (wide : 8 ≤ bus.width) (old : Int) (k : Nat) :
    (bus.touched .input old k).waiting =
        (if bus.meansLine old = true ∧ k = 0 then bus.waiting.tail else bus.waiting) ∧
      (bus.touched .input old k).sent = bus.sent := by
  unfold touched
  simp only
  split
  · cases line : bus.meansLine old with
    | true =>
      obtain ⟨-, waiting, sent⟩ := read_of_meansLine h wide line
      simp [waiting, sent, ‹k = 0›]
    | false => simpa using read_of_not_meansLine bus line
  · next later => simp [later]

/-- Only the last cycle of a write sends a byte. -/
theorem line_touched_output (h : bus.Attached) (wide : 8 ≤ bus.width) (word old : Int) (k : Nat) :
    (bus.touched (.output word) old k).waiting = bus.waiting ∧
      (bus.touched (.output word) old k).sent =
        if bus.meansLine old = true ∧ k + 1 = bus.width then
          bus.sent ++ [Peripherals.lowByte word]
        else bus.sent := by
  unfold touched
  simp only
  split
  · cases line : bus.meansLine old with
    | true =>
      have written := write_of_meansLine h wide line (keep bus.width word)
      rw [Peripherals.lowByte_keep wide] at written
      simp [written.1, written.2, ‹k + 1 = bus.width›]
    | false => simpa using write_of_not_meansLine bus line (keep bus.width word)
  · next more => simp [more]

/-- What one cycle of some traffic leaves of the line. -/
theorem Moves.line {traffic : Traffic} {old w : Int} {k : Nat} {turn : BusCycle Bus}
    (h : bus.Moves traffic old w k turn) :
    turn.bus.waiting = (bus.touched traffic old k).waiting ∧
      turn.bus.sent = (bus.touched traffic old k).sent := by
  rw [← h.devices]
  exact ⟨rfl, rfl⟩

end Bus

/-! ## Words in the registers -/

namespace Registers

variable {config : Config} {r : Registers} {k : Nat} {w : Int}

/-- The word that a state has moved over the bus, in the registers that it leaves. -/
def moved (config : Config) (state : State) (r : Registers) : Int :=
  match state with
  | .fetch => r.opcode * weight (config.width - 4) + r.operand
  | .operand => r.operand
  | _ => r.acc

theorem isSome_addressee_swept (lt : k < config.width) (w : Int) (r : Registers) :
    (r.swept config w k).addressee.isSome = r.addressee.isSome := by
  have state := state_swept lt w r
  unfold addressee
  rw [state]
  cases hs : r.state with
  | fetch =>
    have dispatch : (r.swept config w k).dispatch = r.dispatch := by
      simp only [swept, hs]
      cases hd : r.dispatch with
      | true => simpa using lt.ne
      | false =>
        simp only [Bool.false_eq_true, if_false, fetched, if_neg lt.ne]
        split <;> exact hd
    rw [dispatch]
    cases r.dispatch <;> rfl
  | _ => rfl

/-- At the end of a fetch the latches hold the two parts of the word. -/
theorem latches_fetched (h : r.Opened config) (fits : Word.Fits config.width w) :
    (r.fetched config w config.width).opcode = drop (config.width - 4) w ∧
      (r.fetched config w config.width).operand = keep (config.width - 4) w := by
  have words := h.coherent.words
  have four_lt := config.four_lt_width
  have nibble : Word.Fits 4 (drop (config.width - 4) w) :=
    Bits.fits_drop (by rwa [show 4 + (config.width - 4) = config.width by omega])
  have opcode : (r.fetchedWords config w config.width).opcode = drop (config.width - 4) w := by
    have more : ¬config.width ≤ config.width - 4 := by omega
    simp only [fetchedWords, if_neg more]
    rw [show config.width - (config.width - 4) = 4 by omega]
    exact Shift.midway_eq_new h.coherent.opcode nibble
  have operand : (r.fetchedWords config w config.width).operand = keep (config.width - 4) w :=
    Shift.shortened_self four_lt words.operand w
  rw [fetched, if_pos rfl, (latches_fetchChoice ..).1, (latches_fetchChoice ..).2]
  split <;> exact ⟨opcode, operand⟩

/-- A word that arrives is whole when the state is over. -/
theorem moved_of_input (h : r.Opened config) (moves : r.addressee.isSome = true)
    (reads : r.state ≠ .store) (fits : Word.Fits config.width w) :
    ((r.swept config w config.width).entering config).moved config r.state = w := by
  have words := h.coherent.words
  unfold addressee at moves
  cases hs : r.state with
  | fetch =>
    cases hd : r.dispatch with
    | true => simp [hs, hd] at moves
    | false =>
      obtain ⟨opcode, operand⟩ := latches_fetched h fits
      simp only [moved, entering, swept, hs, hd, Bool.false_eq_true, if_false]
      calc
        (r.fetched config w config.width).opcode * weight (config.width - 4) +
            (r.fetched config w config.width).operand
          = drop (config.width - 4) w * weight (config.width - 4) +
            keep (config.width - 4) w := by rw [opcode, operand]
        _ = w := Bits.drop_mul_weight_add_keep _ w
  | operand =>
    simp only [moved, entering, swept, hs]
    exact Shift.midway_eq_new words.operand fits
  | load =>
    simp only [moved, entering, swept, hs]
    exact Shift.midway_eq_new words.acc fits
  | store => exact absurd hs reads
  | _ => simp [hs] at moves

/-- A word that leaves is back when the state is over. -/
theorem moved_of_output (h : r.Opened config) (stores : r.state = .store) :
    ((r.swept config w config.width).entering config).moved config .store = r.acc := by
  simp only [moved, entering, swept, stores]
  exact Shift.midway_eq_new h.coherent.words.acc h.coherent.words.acc

theorem traffic_of_store (config : Config) (stores : r.state = .store) :
    r.traffic config = .output r.acc := by
  simp only [traffic, stores]

theorem traffic_eq_input_iff : r.traffic config = .input ↔
    r.addressee.isSome = true ∧ r.state ≠ .store := by
  cases moves : r.addressee.isSome with
  | true =>
    rw [traffic_of_moves config moves]
    split <;> simp_all
  | false =>
    rcases traffic_of_rests config (by simpa using moves) with silent | ⟨word, traffic⟩
    · cases traffic : r.traffic config <;> simp_all [Traffic.strobes]
    · simp [traffic]

/-- A state that moves no word leaves the devices alone. -/
theorem touched_of_rests (config : Config) (rests : r.addressee = none) (bus : Bus) (old : Int)
    (k : Nat) : bus.touched (r.traffic config) old k = bus.reset := by
  rcases traffic_of_rests config rests with silent | ⟨word, traffic⟩
  · cases traffic : r.traffic config <;> simp [traffic, Traffic.strobes] at silent <;> rfl
  · rw [traffic]
    rfl

end Registers

/-! ## One action -/

namespace Machine

/-- Whether the state moves a word from the serial line. -/
def readsLine (m : Machine Bus) : Bool :=
  m.processor.registers.addressee.isSome && m.processor.registers.state != .store &&
    m.bus.meansLine m.bus.address

/-- Whether the state moves a word to the serial line. -/
def writesLine (m : Machine Bus) : Bool :=
  m.processor.registers.state == .store && m.bus.meansLine m.bus.address

/-- Whether the next cycle is the last one of its state. -/
def inLastCycle (m : Machine Bus) : Bool :=
  m.processor.registers.cycle == m.processor.config.width

/-- What a read of the line that begins with an action takes off the queue: the byte that has waited
longest, or none. -/
def takes (m : Machine Bus) : Action → List (Option UInt8)
  | .clock =>
    if m.readsLine && m.processor.registers.cycle == 1 then [m.bus.waiting.head?] else []
  | _ => []

/-- The word that a read of the line leaves in the registers, if an action completes one. -/
def receives (m : Machine Bus) : Action → List Int
  | .clock =>
    if m.readsLine && m.inLastCycle then
      [(m.act .clock).processor.registers.moved m.processor.config m.processor.registers.state]
    else []
  | _ => []

/-- The word that is stored to the line, if an action completes the store. -/
def sends (m : Machine Bus) : Action → List Int
  | .clock => if m.writesLine && m.inLastCycle then [(m.act .clock).processor.registers.acc] else []
  | _ => []

/-- The word of a read of the line that has begun and is not complete. -/
def receiving (m : Machine Bus) : List Int :=
  if m.readsLine && decide (1 < m.processor.registers.cycle) then [m.bus.readLatch] else []

/-- From `m` to `e` no byte is lost, duplicated or moved before another, when `fed` have come, reads
have `taken` what they have from the queue and `received` words, and words have been `stored`. -/
structure Conserves (m e : Machine Bus) (fed : List UInt8) (taken : List (Option UInt8))
    (received stored : List Int) : Prop where
  waiting : taken.filterMap id ++ e.bus.waiting = m.bus.waiting ++ fed
  /-- A read takes its byte in its first data cycle, and delivers it in its last. -/
  received : m.receiving ++ taken.map (Peripherals.heard m.processor.config.width) =
    received ++ e.receiving
  sent : e.bus.sent = m.bus.sent ++ stored.map Peripherals.lowByte

variable {m e : Machine Bus} {r : Registers} {old w : Int} {k : Nat}

theorem Ready.cycle (h : m.Ready) : m.processor.registers.cycle = 0 := by
  rw [h.timed]
  rfl

theorem Amid.cycle (h : m.Amid r old w k) : m.processor.registers.cycle = (k + 1 : Nat) := by
  rw [h.registers]
  rfl

theorem Amid.state (h : m.Amid r old w k) : m.processor.registers.state = r.state := by
  rw [h.registers]
  exact Registers.state_swept (h.width ▸ h.inside) w r

theorem Amid.readsLine (h : m.Amid r old w k) : m.readsLine =
    (decide (r.traffic m.processor.config = .input) && m.bus.meansLine old) := by
  have moves : m.processor.registers.addressee.isSome = r.addressee.isSome := by
    rw [h.registers]
    exact Registers.isSome_addressee_swept (h.width ▸ h.inside) w r
  have carries := h.carries
  rw [Machine.readsLine, moves, h.state]
  by_cases input : r.traffic m.processor.config = .input
  · obtain ⟨some, reads⟩ := Registers.traffic_eq_input_iff.1 input
    rw [input] at carries
    simp [input, some, reads, carries.1]
  · have other : (r.addressee.isSome && r.state != .store) = false := by
      rw [Bool.eq_false_iff]
      intro both
      simp only [Bool.and_eq_true, bne_iff_ne, ne_eq] at both
      exact input (Registers.traffic_eq_input_iff.2 both)
    simp [input, other]

theorem Amid.writesLine (h : m.Amid r old w k) : m.writesLine =
    (decide (r.state = .store) && m.bus.meansLine old) := by
  have carries := h.carries
  rw [Machine.writesLine, h.state]
  by_cases stores : r.state = .store
  · rw [Registers.traffic_of_store _ stores] at carries
    simp [stores, carries.1]
  · simp [stores]

theorem Amid.takes (h : m.Amid r old w k) : m.takes .clock =
    if r.traffic m.processor.config = .input ∧ m.bus.meansLine old = true ∧ k = 0 then
      [m.bus.waiting.head?]
    else [] := by
  rw [Machine.takes, h.readsLine, h.cycle]
  congr 1
  simp [and_assoc]

theorem Amid.receiving (h : m.Amid r old w k) : m.receiving =
    if r.traffic m.processor.config = .input ∧ m.bus.meansLine old = true ∧ 0 < k then [w]
    else [] := by
  have carries := h.carries
  rw [Machine.receiving, h.readsLine, h.cycle]
  by_cases input : r.traffic m.processor.config = .input
  · rw [input] at carries
    by_cases begun : 0 < k
    · obtain ⟨-, progress⟩ := carries
      rw [if_pos ⟨begun, h.inside⟩] at progress
      simp [input, begun, progress.2.2]
    · simp [begun]
  · simp [input]

theorem Ready.receiving (h : m.Ready) : m.receiving = [] := by
  simp [Machine.receiving, h.cycle]

/-- After a data cycle the bus is in the middle of the state's traffic, or done with it. -/
theorem Amid.after_clock (h : m.Amid r old w k) :
    (m.act .clock).bus.waiting = (m.bus.touched (r.traffic m.processor.config) old k).waiting ∧
      (m.act .clock).bus.sent = (m.bus.touched (r.traffic m.processor.config) old k).sent ∧
      (m.act .clock).receiving =
        if r.traffic m.processor.config = .input ∧ m.bus.meansLine old = true ∧
          k + 1 < m.bus.width then [m.bus.latched old w k]
        else [] := by
  obtain ⟨waiting, sent⟩ := h.moves.line
  rw [act_clock]
  rcases Nat.lt_or_eq_of_le (Nat.succ_le_of_lt h.inside) with more | last
  · obtain ⟨next, config, bus, -, -⟩ := h.clocked_data m.processor.irq more
    have line := Bus.meansLine_of_width (bus ▸ h.moves.width) old
    refine ⟨bus ▸ waiting, bus ▸ sent, ?_⟩
    rw [next.receiving, config, Registers.traffic_latched, line]
    simp [more]
  · obtain ⟨next, -, -, bus, -, -⟩ := h.clocked_last m.processor.irq last
    exact ⟨bus ▸ waiting, bus ▸ sent, by rw [next.receiving, if_neg (by omega)]⟩

theorem Amid.inLastCycle (h : m.Amid r old w k) :
    m.inLastCycle = decide (k + 1 = m.bus.width) := by
  rw [Machine.inLastCycle, h.cycle, h.width, Bool.eq_iff_iff, beq_iff_eq, decide_eq_true_iff]
  exact Nat.cast_inj

/-- The last data cycle of a read leaves the whole word in the registers. -/
theorem Amid.receives (h : m.Amid r old w k) (attached : m.bus.Attached) :
    m.receives .clock =
      if r.traffic m.processor.config = .input ∧ m.bus.meansLine old = true ∧ k + 1 = m.bus.width
      then [w] else [] := by
  rw [Machine.receives, h.readsLine, h.inLastCycle]
  by_cases reads : r.traffic m.processor.config = .input ∧ m.bus.meansLine old = true ∧
      k + 1 = m.bus.width
  · obtain ⟨input, line, last⟩ := reads
    have carries := h.carries
    have begun : 0 < k := by
      have := m.processor.config.eight_le_width
      have := h.width
      omega
    rw [input] at carries
    obtain ⟨-, progress⟩ := carries
    rw [if_pos ⟨begun, h.inside⟩] at progress
    have fits : Word.Fits m.processor.config.width w := by
      rw [← h.width, ← progress.2.2]
      exact attached.fits
    have latched : m.bus.latched old w k = w := if_neg begun.ne'
    obtain ⟨moves, other⟩ := Registers.traffic_eq_input_iff.1 input
    obtain ⟨-, -, registers, -, -, -⟩ := h.clocked_last m.processor.irq last
    have whole : (m.act .clock).processor.registers.moved m.processor.config r.state = w := by
      rw [act_clock, registers, latched]
      exact Registers.moved_of_input (h.opened.latched m.processor.irq) moves other fits
    simp [input, line, last, h.state, whole]
  · rw [if_neg reads]
    simpa [and_assoc] using reads

/-- The last data cycle of a store leaves the stored word in the accumulator. -/
theorem Amid.sends (h : m.Amid r old w k) : m.sends .clock =
    if r.state = .store ∧ m.bus.meansLine old = true ∧ k + 1 = m.bus.width then [r.acc]
    else [] := by
  rw [Machine.sends, h.writesLine, h.inLastCycle]
  by_cases stores : r.state = .store ∧ m.bus.meansLine old = true ∧ k + 1 = m.bus.width
  · obtain ⟨state, line, last⟩ := stores
    obtain ⟨-, -, registers, -, -, -⟩ := h.clocked_last m.processor.irq last
    have whole : (m.act .clock).processor.registers.acc = r.acc := by
      rw [act_clock, registers]
      exact Registers.moved_of_output (h.opened.latched m.processor.irq) state
    simp [state, line, last, whole]
  · rw [if_neg stores]
    simpa [and_assoc] using stores

/-- A data cycle of a state that reads. -/
theorem Amid.conserves_of_input (h : m.Amid r old w k) (attached : m.bus.Attached)
    (input : r.traffic m.processor.config = .input) :
    m.Conserves (m.act .clock) [] (m.takes .clock) (m.receives .clock) (m.sends .clock) := by
  have wide : 8 ≤ m.bus.width := h.width ▸ m.processor.config.eight_le_width
  have inside := h.inside
  obtain ⟨waiting, sent, receiving⟩ := h.after_clock
  rw [input] at waiting sent
  obtain ⟨taken, still⟩ := Bus.line_touched_input attached wide old k
  have reads : r.state ≠ .store := (Registers.traffic_eq_input_iff.1 input).2
  rw [h.takes, h.receives attached, h.sends]
  constructor
  case sent => simp [sent, still, reads]
  case waiting =>
    rw [waiting, taken]
    by_cases begins : m.bus.meansLine old = true ∧ k = 0
    · cases m.bus.waiting <;> simp [input, begins]
    · simp [input, begins]
  case received =>
    -- In between the byte stands in the latch of the bus.
    rw [h.receiving, receiving]
    cases line : m.bus.meansLine old with
    | false => simp
    | true =>
      rcases k.eq_zero_or_pos with rfl | begun
      · obtain ⟨word, -, -⟩ := Bus.read_of_meansLine attached wide line
        have more : 1 < m.bus.width := by omega
        rw [← h.width]
        simp [input, Bus.latched, word, more, more.ne]
      · have latched : m.bus.latched old w k = w := if_neg begun.ne'
        rcases (show k + 1 ≤ m.bus.width from inside).lt_or_eq with more | last
        · simp [input, begun, begun.ne', more, more.ne, latched]
        · simp [input, begun, begun.ne', last]

/-- A data cycle of a state that stores. -/
theorem Amid.conserves_of_store (h : m.Amid r old w k) (attached : m.bus.Attached)
    (stores : r.state = .store) :
    m.Conserves (m.act .clock) [] (m.takes .clock) (m.receives .clock) (m.sends .clock) := by
  have wide : 8 ≤ m.bus.width := h.width ▸ m.processor.config.eight_le_width
  have output := Registers.traffic_of_store m.processor.config stores
  obtain ⟨waiting, sent, receiving⟩ := h.after_clock
  rw [output] at waiting sent
  obtain ⟨still, said⟩ := Bus.line_touched_output attached wide r.acc old k
  rw [h.takes, h.receives attached, h.sends]
  constructor
  case waiting => simp [waiting, still, output]
  case received => simp [h.receiving, receiving, output]
  case sent =>
    rw [sent, said]
    simp only [stores, true_and]
    split <;> simp

/-- A data cycle of any other state. -/
theorem Amid.conserves_of_rests (h : m.Amid r old w k) (attached : m.bus.Attached)
    (rests : r.addressee = none) :
    m.Conserves (m.act .clock) [] (m.takes .clock) (m.receives .clock) (m.sends .clock) := by
  obtain ⟨waiting, sent, receiving⟩ := h.after_clock
  rw [Registers.touched_of_rests _ rests] at waiting sent
  have input : r.traffic m.processor.config ≠ .input := fun input => by
    simp [rests, Registers.traffic_eq_input_iff] at input
  have reads : r.state ≠ .store := fun stores => by simp [Registers.addressee, stores] at rests
  rw [h.takes, h.receives attached, h.sends]
  constructor
  case waiting => simp [waiting, input]
  case received => simp [h.receiving, receiving, input]
  case sent => simp [sent, reads]

theorem Amid.conserves (h : m.Amid r old w k) (attached : m.bus.Attached) :
    m.Conserves (m.act .clock) [] (m.takes .clock) (m.receives .clock) (m.sends .clock) := by
  by_cases stores : r.state = .store
  · exact h.conserves_of_store attached stores
  · cases moves : r.addressee with
    | none => exact h.conserves_of_rests attached moves
    | some a =>
      have input : r.traffic m.processor.config = .input :=
        Registers.traffic_eq_input_iff.2 ⟨moves ▸ rfl, stores⟩
      exact h.conserves_of_input attached input

/-- The first cycle of a state moves nothing. -/
theorem Ready.conserves (h : m.Ready) :
    m.Conserves (m.act .clock) [] (m.takes .clock) (m.receives .clock) (m.sends .clock) := by
  obtain ⟨next, -, bus, -, -⟩ := h.clocked m.processor.irq 0
  have wide := m.processor.config.width_pos
  have early : m.inLastCycle = false := by
    rw [Machine.inLastCycle, h.cycle, beq_eq_false_iff_ne]
    omega
  have receiving : (m.act .clock).receiving = [] := by
    rw [act_clock, next.receiving, if_neg (by omega)]
  rw [Machine.takes, Machine.receives, Machine.sends, h.cycle, early]
  constructor
  case waiting => simp [act_clock, bus]
  case received => simp [h.receiving, receiving]
  case sent => simp [act_clock, bus]

end Machine

/-- Whether an action leaves the bus to the processor. -/
def Action.leavesBus : Action → Bool
  | clock | interrupt _ | feed _ | setSwitches _ => true
  | _ => false

theorem Action.sparesRegisters_of_leavesBus {action : Action} (leaves : action.leavesBus = true) :
    action.sparesRegisters = true := by
  cases action <;> first | rfl | simp [leavesBus] at leaves

/-- The bytes that come with an action. -/
def Action.fed : Action → List UInt8
  | feed bytes => bytes
  | _ => []

namespace Machine

variable {m e f : Machine Bus}

theorem attached_act (h : m.processor.Sound) (attached : m.bus.Attached) (action : Action) :
    (m.act action).bus.Attached := by
  cases action with
  | clock =>
    obtain ⟨signals, next, -, step⟩ := exists_step h
    rw [act, step]
    exact attached.cycle signals
  | feed | setSwitches => exact attached.mapPeripherals _
  | readWord address => exact attached.read address
  | writeWord address value => exact attached.write address value
  | interrupt | overwrite => exact attached

theorem attached_after (h : m.processor.Sound) (attached : m.bus.Attached)
    (actions : List Action) : (m.after actions).bus.Attached := by
  induction actions generalizing m with
  | nil => exact attached
  | cons action rest ih => exact ih (sound_act h action).1 (attached_act h attached action)

theorem conserves_act (h : m.Underway) (attached : m.bus.Attached) {action : Action}
    (leaves : action.leavesBus = true) :
    m.Conserves (m.act action) action.fed (m.takes action) (m.receives action)
      (m.sends action) := by
  cases action with
  | clock =>
    rcases h with ready | ⟨r, old, w, k, amid⟩
    · exact ready.conserves
    · exact amid.conserves attached
  | feed bytes =>
    obtain ⟨waiting, sent⟩ := Bus.line_feed attached bytes
    exact ⟨waiting, List.append_nil _, sent.trans (List.append_nil _).symm⟩
  | setSwitches value =>
    obtain ⟨waiting, sent⟩ := m.bus.line_setSwitches value
    exact ⟨waiting.trans (List.append_nil _).symm, List.append_nil _,
      sent.trans (List.append_nil _).symm⟩
  | interrupt level =>
    exact ⟨(List.append_nil _).symm, List.append_nil _, (List.append_nil _).symm⟩
  | readWord | writeWord | overwrite => simp [Action.leavesBus] at leaves

/-! ## Sessions -/

theorem Conserves.refl (m : Machine Bus) : m.Conserves m [] [] [] [] := by
  constructor <;> simp

theorem Conserves.trans {fed fed' : List UInt8} {taken taken' : List (Option UInt8)}
    {received received' stored stored' : List Int} (same : e.processor.config = m.processor.config)
    (h : m.Conserves e fed taken received stored)
    (h' : e.Conserves f fed' taken' received' stored') :
    m.Conserves f (fed ++ fed') (taken ++ taken') (received ++ received')
      (stored ++ stored') where
  waiting := by
    rw [List.filterMap_append, List.append_assoc, h'.waiting, ← List.append_assoc, h.waiting,
      List.append_assoc]
  received := by
    rw [List.map_append, ← List.append_assoc, h.received, List.append_assoc, ← same, h'.received,
      List.append_assoc]
  sent := by rw [h'.sent, h.sent, List.map_append, List.append_assoc]

theorem conserves_along (h : m.Underway) (sound : m.processor.Sound) (attached : m.bus.Attached)
    {session : List Action} (leaves : ∀ action ∈ session, action.leavesBus = true) :
    m.Conserves (m.after session) (session.flatMap Action.fed) (m.along takes session)
      (m.along receives session) (m.along sends session) := by
  induction session generalizing m with
  | nil => exact .refl m
  | cons action rest ih =>
    have left := leaves action List.mem_cons_self
    obtain ⟨sound', same⟩ := sound_act sound action
    exact (conserves_act h attached left).trans same
      (ih (h.of_act (Action.sparesRegisters_of_leavesBus left)) sound'
        (attached_act sound attached action)
        fun other member => leaves other (List.mem_cons_of_mem action member))

/-- Until its first data cycle, a state finds the bus at the address of the word that it moves. -/
theorem Underway.addressed (h : m.Underway) (early : m.processor.registers.cycle ≤ 1) :
    ∀ a ∈ m.processor.registers.addressee, m.bus.address = a := by
  rcases h with ready | ⟨r, old, w, k, amid⟩
  · exact fun a addressee => (ready.aligned.addressed a addressee).symm
  · obtain rfl : k = 0 := by
      have cycle := amid.cycle
      omega
    intro a addressee
    rw [amid.registers, Registers.swept_zero amid.opened] at addressee
    have moves : r.addressee.isSome = true := Option.isSome_of_mem addressee
    have carries := amid.carries
    rw [Registers.traffic_of_moves _ moves] at carries
    rw [amid.aligned.addressed a addressee]
    split at carries <;> exact carries.1

/-- What a session does for the bytes on the serial line. -/
structure Relays (s : Machine Bus) (session : List Action) : Prop where
  conserves : s.Conserves (s.after session) (session.flatMap Action.fed) (s.along takes session)
    (s.along receives session) (s.along sends session)
  /-- At any moment, the bus stands at the address of the word that a state is to move. -/
  addressed : ∀ start, start <+: session → (s.after start).processor.registers.cycle ≤ 1 →
    ∀ a ∈ (s.after start).processor.registers.addressee, (s.after start).bus.address = a

/-- Whatever has come before, a session that leaves the bus to the processor conserves the bytes on
the serial line. -/
theorem line_conserved {m : Machine Bus} (width : m.bus.width = m.processor.config.width)
    (peripherals : m.bus.peripherals.isSome = true) {before session : List Action}
    (spares : ∀ action ∈ before, action.sparesRegisters = true)
    (leaves : ∀ action ∈ session, action.leavesBus = true) :
    (m.reset.1.after before).Relays session := by
  have underway := underway_after (Or.inl (ready_reset width)) spares
  obtain ⟨sound, -⟩ := sound_after m.sound_reset before
  have attached := attached_after m.sound_reset
    (show m.reset.1.bus.Attached from ⟨peripherals, Bits.fits_zero _⟩) before
  refine ⟨conserves_along underway sound attached leaves, fun start within early => ?_⟩
  refine Underway.addressed (underway_after underway fun action member => ?_) early
  exact Action.sparesRegisters_of_leavesBus (leaves action (within.subset member))

/-- A machine with words of nine bits, and a program that sends every byte back. -/
def echo : Machine Bus :=
  ((Emulator.make { config := { width := 9 } }).after [.loadWords [0x1F0, 0x1D0, 0x180] 0]).machine

/-- The program answers a byte that waits, and one that comes while it stores the first. -/
def echoed : List Action :=
  List.replicate 75 .clock ++ .feed [0x42] :: List.replicate 105 .clock

theorem echo_relays :
    (echo.reset.1.after [.feed [0x41]]).along takes echoed = [some 0x41, some 0x42] ∧
      (echo.reset.1.after [.feed [0x41]]).along sends echoed = [0x41, 0x42] ∧
      (echo.reset.1.after [.feed [0x41]]).Relays echoed :=
  ⟨by decide +kernel, by decide +kernel,
    line_conserved (by decide +kernel) (by decide +kernel) (by decide) (by decide +kernel)⟩

end Machine

end SerialMachine
