import SerialMachine.Proofs.Leftovers

/-!
# Whole words or none

A write reaches its device with the last bit of the word. `Bus.underway` reads off a history which
bits of a write have arrived; an address bit, an input bit or a reset forgets them, a cycle without
a strobe or with several does not. Main statement: the devices keep their words in every cycle but
the one that brings the last bit, which carries out the word-level write, and a write that is cut
short is as if it had not been begun.
-/

namespace SerialMachine

open Bits (low test weight)

namespace Bits

/-- The number that bits spell, the first one the lowest. -/
def joined : List Int → Int
  | [] => 0
  | b :: rest => low b + 2 * joined rest

theorem joined_concat (bits : List Int) (b : Int) :
    joined (bits ++ [b]) = joined bits + low b * weight bits.length := by
  induction bits with
  | nil => simp [joined]
  | cons c rest ih =>
    rw [List.cons_append, joined, joined, ih, List.length_cons, weight_succ]
    ring

theorem fits_joined (bits : List Int) : Word.Fits bits.length (joined bits) := by
  induction bits with
  | nil => exact fits_zero 0
  | cons b rest ih =>
    obtain ⟨nonneg, below⟩ := ih
    have bit := low_eq_zero_or_one b
    rw [joined, List.length_cons, Word.Fits, weight_succ]
    constructor <;> omega

/-- A bit is set above the bits that have arrived. -/
theorem set_joined (bits : List Int) (b : Int) :
    (if test 0 b then set bits.length (joined bits) else joined bits) = joined (bits ++ [b]) := by
  have above : test bits.length (joined bits) = false := test_of_fits (fits_joined bits) le_rfl
  have arrives : low b = if test 0 b then 1 else 0 := by rw [low_eq_bit, bit_eq_ite]
  rw [joined_concat, arrives, set, above]
  cases test 0 b <;> simp

end Bits

/-! ## The lines of one cycle -/

namespace Bus

variable {bus : Bus} {signals : Signals}

theorem cycle_violation (bus : Bus) (many : 1 < signals.enables) :
    bus.cycle signals =
      { bus, events := [], reply := .error (.strobesTogether signals.strobes) } := by
  rw [cycle, Signals.check, if_pos many]

theorem cycle_quiet (bus : Bus) (none : signals.enables = 0) :
    bus.cycle signals = { bus, events := [], reply := .ok 0 } := by
  refine bus.cycle_idle ?_
  obtain ⟨_, _, ae, ie, oe, _⟩ := signals
  cases ae <;> cases ie <;> cases oe <;> simp_all [Signals.enables, Signals.strobed]

theorem cycle_output (bus : Bus) (one : signals.enables = 1) (oe : signals.oe = true) :
    bus.cycle signals = bus.shiftWrite signals.o := by
  obtain ⟨_, _, ae, ie, oe, _⟩ := signals
  cases ae <;> cases ie <;> simp_all [Signals.enables, cycle, Signals.check]

theorem cycle_bus_of_ne (bus : Bus) (other : signals.enables ≠ 1) :
    (bus.cycle signals).bus = bus := by
  rcases Nat.lt_or_ge 1 signals.enables with many | few
  · rw [bus.cycle_violation many]
  · rw [bus.cycle_quiet (by omega)]

/-- A lone strobe other than `oe` begins an address or a read, or carries it on. -/
theorem cycle_other (one : signals.enables = 1) (oe : signals.oe = false) :
    (∀ bus : Bus, bus.cycle signals =
        { bus := bus.shiftAddress signals.a, events := [], reply := .ok 0 }) ∨
      ∀ bus : Bus, bus.cycle signals = bus.shiftRead := by
  obtain ⟨_, _, ae, ie, oe, _⟩ := signals
  cases ae <;> cases ie <;> simp_all [Signals.enables, cycle, Signals.check]

/-! ## The widths of a bus -/

/-- The widths that a bus and its peripherals are built with. -/
def widths (bus : Bus) : Nat × Option Int :=
  (bus.width, bus.peripherals.map (·.width))

theorem widths_read (bus : Bus) (address : Int) : (bus.read address).2.1.widths = bus.widths := by
  unfold read
  split
  · split
    · rfl
    · next p there => simp [widths, there, width_read]
  · rfl

theorem widths_write (bus : Bus) (address value : Int) :
    (bus.write address value).1.widths = bus.widths := by
  unfold write
  simp only
  split
  · split
    · rfl
    · next p there => simp [widths, there, width_write]
  · rfl

theorem widths_cycle (bus : Bus) (signals : Signals) :
    (bus.cycle signals).bus.widths = bus.widths := by
  have begun : bus.beginRead.1.widths = bus.widths := by
    unfold beginRead
    split
    · rfl
    · exact bus.widths_read bus.address
  have taken (bit : Int) : (bus.takeBit bit).widths = bus.widths := by
    unfold takeBit beginWrite
    split <;> rfl
  unfold cycle
  split
  · rfl
  · split_ifs
    · rfl
    · unfold shiftRead
      simp only
      split <;> exact begun
    · unfold shiftWrite
      simp only
      split
      · exact (widths_write ..).trans (taken signals.o)
      · exact taken signals.o
    · rfl

theorem widths_act (bus : Bus) (action : BusAction) : (bus.act action).widths = bus.widths := by
  cases action with
  | cycle signals => exact bus.widths_cycle signals
  | readWord address => exact bus.widths_read address
  | writeWord address value => exact bus.widths_write address value
  | reset | clearMemory => rfl
  | feed | setSwitches | resetPeripherals =>
    unfold widths act mapPeripherals
    cases bus.peripherals <;> rfl
  | loadWords words start =>
    unfold act
    simp only
    split <;> rfl

/-- Nothing that is done with a bus changes a width. -/
theorem widths_after (bus : Bus) (history : List BusAction) :
    (bus.after history).widths = bus.widths := by
  induction history generalizing bus with
  | nil => rfl
  | cons action rest ih => exact (ih (bus.act action)).trans (bus.widths_act action)

end Bus

/-! ## The bits of the write under way -/

/-- The bits of a write in words of `n` bits that have arrived after an action, when `bits` had
arrived before. -/
def BusAction.collect (n : Nat) (bits : List Int) : BusAction → List Int
  | .cycle signals =>
    if signals.enables = 1 then
      if signals.oe ∧ bits.length + 1 < n then bits ++ [signals.o] else []
    else bits
  | .reset => []
  | _ => bits

/-- The bits of the write under way after a history. -/
def Bus.underway (n : Nat) (history : List BusAction) : List Int :=
  history.foldl (BusAction.collect n) []

namespace Bus

/-- The bits of a write have arrived, if there are any, and no others. -/
structure Collects (n : Nat) (bus : Bus) (bits : List Int) : Prop where
  width : bus.width = n
  short : bits.length < n
  none : bits = [] → bus.phase ≠ .write
  some : bits ≠ [] →
    bus.phase = .write ∧ bus.count = bits.length ∧ bus.writeBuffer = Bits.joined bits

variable {n : Nat} {bus : Bus} {bits : List Int}

theorem collects_nil (width : bus.width = n) (pos : 0 < n) (phase : bus.phase ≠ .write) :
    bus.Collects n [] :=
  ⟨width, pos, fun _ => phase, fun some => absurd rfl some⟩

/-- Whatever leaves the transfer under way alone leaves its bits alone. -/
theorem Collects.of_same (h : bus.Collects n bits) {other : Bus} (width : other.width = bus.width)
    (phase : other.phase = bus.phase) (count : other.count = bus.count)
    (buffer : other.writeBuffer = bus.writeBuffer) : other.Collects n bits :=
  ⟨width.trans h.width, h.short, fun empty => phase ▸ h.none empty, fun some => by
    rw [phase, count, buffer]
    exact h.some some⟩

theorem Collects.takeBit (h : bus.Collects n bits) (b : Int) :
    bus.takeBit b =
      { bus with
          phase := .write
          count := bits.length + 1
          writeBuffer := Bits.joined (bits ++ [b]) } := by
  have begun : bus.beginWrite =
      { bus with phase := .write, count := bits.length, writeBuffer := Bits.joined bits } := by
    by_cases empty : bits = []
    · rw [beginWrite, if_neg (h.none empty), empty]
      rfl
    · obtain ⟨phase, count, buffer⟩ := h.some empty
      rw [beginWrite, if_pos phase, ← phase, ← count, ← buffer]
  simp only [Bus.takeBit, begun, Bits.set_joined]

/-- An output bit before the last one is kept, and the devices are left alone. -/
theorem Collects.shiftWrite (h : bus.Collects n bits) (more : bits.length + 1 < n) (b : Int) :
    bus.shiftWrite b =
      { bus :=
          { bus with
              phase := .write
              count := bits.length + 1
              writeBuffer := Bits.joined (bits ++ [b]) }
        events := []
        reply := .ok 0 } := by
  have width := h.width
  rw [Bus.shiftWrite, h.takeBit b, if_neg (by simp only; omega)]

/-- The last output bit carries the word out. -/
theorem Collects.shiftWrite_last (h : bus.Collects n bits) (last : bits.length + 1 = n) (b : Int) :
    (bus.shiftWrite b).reply = .ok 0 ∧
      (bus.shiftWrite b).bus.phase = .idle ∧
      (bus.shiftWrite b).bus.reset =
        (bus.write bus.address (Bits.joined (bits ++ [b]))).1.reset := by
  have same : (bus.takeBit b).reset = bus.reset := by
    rw [h.takeBit b]
    rfl
  have written := (write_eq_of_reset_eq same bus.address (Bits.joined (bits ++ [b]))).1
  rw [h.takeBit b] at written
  rw [Bus.shiftWrite, h.takeBit b, if_pos (last.trans h.width.symm)]
  exact ⟨rfl, rfl, written⟩

theorem phase_shiftRead (bus : Bus) : bus.shiftRead.bus.phase ≠ .write := by
  obtain ⟨_, -, phase⟩ := bus.beginRead_tidy
  unfold shiftRead
  simp only
  split <;> simp [phase]

theorem Collects.cycle (h : bus.Collects n bits) (signals : Signals) :
    (bus.cycle signals).bus.Collects n ((BusAction.cycle signals).collect n bits) := by
  have pos : 0 < n := Nat.zero_lt_of_lt h.short
  have width : (bus.cycle signals).bus.width = n :=
    (congrArg Prod.fst (bus.widths_cycle signals)).trans h.width
  rw [BusAction.collect]
  by_cases one : signals.enables = 1
  · rw [if_pos one]
    cases oe : signals.oe with
    | false =>
      rw [if_neg (by simp)]
      refine collects_nil width pos ?_
      rcases cycle_other one oe with turn | turn
      · rw [turn]
        simp [shiftAddress]
      · rw [turn]
        exact bus.phase_shiftRead
    | true =>
      rw [bus.cycle_output one oe] at width ⊢
      by_cases more : bits.length + 1 < n
      · rw [if_pos ⟨rfl, more⟩]
        rw [h.shiftWrite more] at width ⊢
        exact ⟨width, by simpa using more, by simp, fun _ => ⟨rfl, by simp, rfl⟩⟩
      · rw [if_neg (by simp [more])]
        have last : bits.length + 1 = n := by have := h.short; omega
        obtain ⟨-, phase, -⟩ := h.shiftWrite_last last signals.o
        exact collects_nil width pos (by rw [phase]; decide)
  · rw [if_neg one]
    exact (bus.cycle_bus_of_ne one).symm ▸ h

theorem Collects.act (h : bus.Collects n bits) (action : BusAction) :
    (bus.act action).Collects n (action.collect n bits) := by
  have pos : 0 < n := Nat.zero_lt_of_lt h.short
  cases action with
  | cycle signals => exact h.cycle signals
  | reset => exact collects_nil h.width pos (by simp [Bus.act, reset])
  | readWord address =>
    obtain ⟨_, read⟩ := bus.exists_read_eq address
    rw [Bus.act, read]
    exact h.of_same rfl rfl rfl rfl
  | writeWord address value =>
    obtain ⟨_, _, written⟩ := bus.exists_write_eq address value
    rw [Bus.act, written]
    exact h.of_same rfl rfl rfl rfl
  | feed | setSwitches | resetPeripherals | clearMemory => exact h.of_same rfl rfl rfl rfl
  | loadWords words start =>
    unfold Bus.act
    simp only
    split
    · exact h.of_same rfl rfl rfl rfl
    · exact h

/-- After any history the bits of the write under way have arrived. -/
theorem Collects.after (h : bus.Collects n bits) (history : List BusAction) :
    (bus.after history).Collects n (history.foldl (BusAction.collect n) bits) := by
  induction history generalizing bus bits with
  | nil => exact h
  | cons action rest ih => exact ih (h.act action)

/-! ## What the devices keep -/

/-- What was written to the devices: the words of the memory, the bytes sent and the lamps. -/
def stored (bus : Bus) : Memory × Option (Array UInt8 × Int) :=
  (bus.memory, bus.peripherals.map fun p => (p.output, p.lamps))

theorem stored_read (bus : Bus) (address : Int) : (bus.read address).2.1.stored = bus.stored := by
  have shown (p : Peripherals) (offset : Int) :
      ((p.read offset).2.1.output, (p.read offset).2.1.lamps) = (p.output, p.lamps) := by
    unfold Peripherals.read
    split
    · split <;> rfl
    all_goals rfl
  unfold read
  split
  · split
    · rfl
    · next p there => simp only [stored, there, Option.map_some, shown]
  · rfl

theorem stored_shiftRead (bus : Bus) : bus.shiftRead.bus.stored = bus.stored := by
  have begun : bus.beginRead.1.stored = bus.stored := by
    unfold beginRead
    split
    · rfl
    · exact bus.stored_read bus.address
  unfold shiftRead
  simp only
  split <;> exact begun

/-- What was written stays, unless the last bit of a word arrives. -/
theorem Collects.stored_cycle (h : bus.Collects n bits) {signals : Signals}
    (early : ¬(signals.enables = 1 ∧ signals.oe = true ∧ bits.length + 1 = n)) :
    (bus.cycle signals).bus.stored = bus.stored := by
  by_cases one : signals.enables = 1
  · cases oe : signals.oe with
    | false =>
      rcases cycle_other one oe with turn | turn
      · rw [turn]
        rfl
      · rw [turn, stored_shiftRead]
    | true =>
      have more : bits.length + 1 < n := by
        have last : bits.length + 1 ≠ n := fun last => early ⟨one, oe, last⟩
        have short := h.short
        omega
      rw [bus.cycle_output one oe, h.shiftWrite more]
      rfl
  · rw [bus.cycle_bus_of_ne one]

/-! ## Writes that are cut short -/

/-- The bus at the same address and with the same devices, but with no transfer under way. -/
def atRest (bus : Bus) : Bus :=
  { bus.reset with address := bus.address }

/-- Bits that do not fill a word leave no trace but themselves. -/
theorem Collects.attempt (h : bus.Collects n bits) {attempt : List Signals}
    (only : ∀ s ∈ attempt, s.enables = 1 → s.oe = true)
    (short : bits.length + attempt.countP (fun s => s.enables = 1) < n) :
    ∃ more : List Int, more.length = attempt.countP (fun s => s.enables = 1) ∧
      (bus.after (attempt.map .cycle)).Collects n (bits ++ more) ∧
      (bus.after (attempt.map .cycle)).atRest = bus.atRest := by
  induction attempt generalizing bus bits with
  | nil => exact ⟨[], rfl, by rwa [List.append_nil], rfl⟩
  | cons s rest ih =>
    rw [List.countP_cons] at short ⊢
    by_cases one : s.enables = 1
    · have more : bits.length + 1 < n := by
        rw [if_pos (by simpa using one)] at short
        omega
      have turn := bus.cycle_output one (only s List.mem_cons_self one)
      have next := h.cycle s
      rw [h.shiftWrite more] at turn
      rw [BusAction.collect, if_pos one, if_pos ⟨only s List.mem_cons_self one, more⟩] at next
      obtain ⟨later, length, collects, rests⟩ :=
        ih next (fun t member => only t (List.mem_cons_of_mem s member)) (by
          rw [if_pos (by simpa using one)] at short
          rw [List.length_append, List.length_singleton]
          omega)
      refine ⟨s.o :: later, ?_, ?_, ?_⟩
      · rw [List.length_cons, length, if_pos (by simpa using one)]
      · rwa [List.append_assoc] at collects
      · refine rests.trans ?_
        rw [turn]
        rfl
    · rw [if_neg (by simpa using one), Nat.add_zero] at short ⊢
      rw [List.map_cons, Bus.after, List.foldl_cons, Bus.act, bus.cycle_bus_of_ne one]
      exact ih h (fun t member => only t (List.mem_cons_of_mem s member)) short

/-- A lone strobe other than `oe` forgets the bits that have arrived. -/
theorem sameTurn_atRest (writing : bus.phase = .write) {signals : Signals}
    (one : signals.enables = 1) (oe : signals.oe = false) :
    SameTurn (bus.cycle signals) (bus.atRest.cycle signals) := by
  rcases cycle_other one oe with turn | turn
  · rw [turn, turn]
    exact ⟨by simp [tidy, shiftAddress, atRest, reset], rfl, rfl⟩
  · rw [turn, turn]
    have devices : bus.reset = bus.atRest.reset := rfl
    have begins : bus.phase ≠ .read := by rw [writing]; decide
    obtain ⟨begun, phase⟩ := beginRead_of_reset_eq devices rfl begins (by simp [atRest, reset])
    exact sameTurn_of_beginRead begun phase

/-- A write was tried on a bus and is cut short as if it had not been begun: the devices are as they
were, and what comes after an address bit, an input bit or a reset shows none of its bits. -/
structure Forgets (bus tried : Bus) : Prop where
  memory : tried.memory = bus.memory
  peripherals : tried.peripherals = bus.peripherals
  reset : tried.reset = bus.reset
  events : ∀ signals : Signals, signals.enables = 1 → signals.oe = false →
    (tried.cycle signals).events = (bus.atRest.cycle signals).events
  reply : ∀ signals : Signals, signals.enables = 1 → signals.oe = false →
    (tried.cycle signals).reply = (bus.atRest.cycle signals).reply
  later : ∀ signals : Signals, signals.enables = 1 → signals.oe = false →
    Indistinct (tried.cycle signals).bus (bus.atRest.cycle signals).bus

theorem Collects.forgets (h : bus.Collects n bits) {attempt : List Signals}
    (only : ∀ s ∈ attempt, s.enables = 1 → s.oe = true)
    (some : 0 < bits.length + attempt.countP (fun s => s.enables = 1))
    (short : bits.length + attempt.countP (fun s => s.enables = 1) < n) :
    bus.Forgets (bus.after (attempt.map .cycle)) := by
  obtain ⟨more, length, collects, rests⟩ := h.attempt only short
  have arrived : bits ++ more ≠ [] := by
    rw [← length, ← List.length_append] at some
    exact List.ne_nil_of_length_pos some
  have writing := (collects.some arrived).1
  have turn (signals : Signals) (one : signals.enables = 1) (oe : signals.oe = false) :
      SameTurn ((bus.after (attempt.map .cycle)).cycle signals) (bus.atRest.cycle signals) :=
    rests ▸ sameTurn_atRest writing one oe
  exact ⟨congrArg (·.memory) rests, congrArg (·.peripherals) rests,
    (congrArg Bus.reset rests :),
    fun signals one oe => (turn signals one oe).events,
    fun signals one oe => (turn signals one oe).reply,
    fun signals one oe => indistinct_of_tidy_eq (turn signals one oe).bus⟩

/-- A bus has at least the select bit and the opcode. -/
theorem pos_of_make {host : Host} {memory : Memory} {peripherals : Option Peripherals} {fresh : Bus}
    (built : Bus.make host n memory peripherals = .ok fresh) : 0 < n := by
  obtain ⟨m, room, -⟩ := bind_eq_ok_iff.1 built
  have enough := (AnyWidth.roomy_eq_ok_iff.1 room).1
  omega

end Bus

namespace WatchedBus

variable {n : Nat} {w : WatchedBus} {bits : List Int}

/-- How the devices behind a bus of `n`-bit words change when `bits` of a write have arrived. -/
structure WritesWhole (n : Nat) (w : WatchedBus) (bits : List Int) : Prop where
  /-- The last bit of a word carries the word out. -/
  whole : ∀ signals : Signals, signals.enables = 1 → signals.oe = true → bits.length + 1 = n →
    (w.cycle signals).reply = .ok 0 ∧
      (w.cycle signals).bus.bus.memory =
        (w.bus.write w.bus.address (Bits.joined (bits ++ [signals.o]))).1.memory ∧
      (w.cycle signals).bus.bus.peripherals =
        (w.bus.write w.bus.address (Bits.joined (bits ++ [signals.o]))).1.peripherals
  /-- In every other cycle what was written stays. -/
  kept : ∀ signals : Signals, ¬(signals.enables = 1 ∧ signals.oe = true ∧ bits.length + 1 = n) →
    (w.cycle signals).bus.bus.stored = w.bus.stored
  reset : w.reset.bus.stored = w.bus.stored
  /-- With fewer bits than a word has, also with cycles between them that do not count, a write is
  forgotten when it is cut short. -/
  cut : ∀ attempt : List Signals, (∀ s ∈ attempt, s.enables = 1 → s.oe = true) →
    0 < bits.length + attempt.countP (fun s => s.enables = 1) →
    bits.length + attempt.countP (fun s => s.enables = 1) < n →
    w.bus.Forgets (w.bus.after (attempt.map .cycle))
  /-- A cycle with several strobes is refused, and nothing happens. -/
  refused : ∀ signals : Signals, 1 < signals.enables →
    w.cycle signals =
      { bus := w
        events := []
        reply := .error (.violation (.strobesTogether signals.strobes)) }

/-- In whatever state a bus of `n`-bit words is, the words of its devices change with the last bit
of a whole word only, and by the write of that word. -/
theorem writes_whole_words {n : Nat} {w : WatchedBus} {memory : Memory}
    {peripherals : Option Peripherals}
    (ordinary : ∀ p ∈ peripherals, 0 ≤ p.width ∧ p.width < w.host.bits) {fresh : Bus}
    (built : Bus.make w.host n memory peripherals = .ok fresh) (history : List BusAction)
    (reached : w.bus = fresh.after history) :
    w.WritesWhole n (Bus.underway n history) := by
  have pos := Bus.pos_of_make built
  have idle : fresh.Collects n [] := by
    rw [Bus.eq_of_make built]
    exact Bus.collects_nil rfl pos (by simp)
  have collects : w.bus.Collects n (Bus.underway n history) := by
    rw [reached]
    exact idle.after history
  have accepted (signals : Signals) : w.bus.refusal? w.host signals = none := by
    refine Bus.refusal?_eq_none (fun p there => ?_) signals
    have widths : w.bus.peripherals.map (·.width) = peripherals.map (·.width) := by
      rw [reached, Bus.eq_of_make built]
      exact congrArg Prod.snd (Bus.widths_after _ history)
    rw [Option.mem_def.1 there, Option.map_some] at widths
    obtain ⟨q, same, width⟩ := Option.map_eq_some_iff.1 widths.symm
    exact width ▸ ordinary q same
  have cycle (signals : Signals) : (w.cycle signals).bus.bus = (w.bus.cycle signals).bus ∧
      (w.cycle signals).reply = (w.bus.cycle signals).reply.mapError .violation := by
    rw [WatchedBus.cycle, accepted]
    simp only [foldl_observe_withBus, and_self]
  refine ⟨fun signals one oe last => ?_, fun signals early => ?_, rfl,
    fun attempt only some short => collects.forgets only some short, fun signals many => ?_⟩
  · obtain ⟨reply, -, devices⟩ := collects.shiftWrite_last last signals.o
    rw [(cycle signals).1, (cycle signals).2, w.bus.cycle_output one oe, reply]
    exact ⟨rfl, congrArg (·.memory) devices, congrArg (·.peripherals) devices⟩
  · rw [(cycle signals).1, collects.stored_cycle early]
  · rw [WatchedBus.cycle, accepted, w.bus.cycle_violation many]
    rfl

/-- A write of `$FF` that a reset cuts short after three bits, and then seven bits of `$5A` for
address 3, with an idle cycle before them. -/
def sevenBits : List BusAction :=
  ((Traffic.output 0xFF).lines 3).map .cycle ++ [.reset] ++
    ((Traffic.address 3).lines 8 ++ Traffic.quiet.lines 1 ++ (Traffic.output 0x5A).lines 7).map
      .cycle

theorem writes_whole_words_byte :
    Bus.underway 8 sevenBits = [0, 1, 0, 1, 1, 0, 1] ∧
      (cycle { bus := twoBytes.after sevenBits } (.output 0)).bus.bus.memory.get 3 = 0x5A ∧
      (cycle { bus := twoBytes.after sevenBits } .input).bus.bus.stored =
        (twoBytes.after sevenBits).stored := by
  have ordinary : ∀ p ∈ twoBytes.peripherals, 0 ≤ p.width ∧ p.width < ({} : Host).bits := by
    decide
  have built : Bus.make {} (8 : Nat) twoBytes.memory twoBytes.peripherals = .ok twoBytes := rfl
  have bits : Bus.underway 8 sevenBits = [0, 1, 0, 1, 1, 0, 1] := by decide +kernel
  have writes := writes_whole_words (w := { bus := twoBytes.after sevenBits }) ordinary built
    sevenBits rfl
  rw [bits] at writes
  refine ⟨bits, ?_, writes.kept .input (by decide)⟩
  rw [(writes.whole (.output 0) rfl rfl rfl).2.1]
  decide +kernel

end WatchedBus

end SerialMachine
