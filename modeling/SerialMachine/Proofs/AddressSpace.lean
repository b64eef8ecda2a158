import SerialMachine.Proofs.Accesses
import SerialMachine.Proofs.Tracing

/-!
# The address space

A bus of `n`-bit words decodes the lowest `n - 4` bits of an address. The topmost of these selects
the peripherals, the others a word of the memory or a register of the peripherals, so that the whole
space repeats itself above the operand range. Main statement: a word that is written is read back at
the addresses that decode alike and at no other, and neither kind of device sees the writes to the
other.
-/

namespace SerialMachine

open Bits (keep test weight)
open WatchedBus (givenUp twoBytes)

namespace Bits

theorem test_eq_true_iff (k : Nat) (x : Int) : test k x = true ↔ x / 2 ^ k % 2 = 1 := by
  rw [test_eq_decide, weight_eq_pow, decide_eq_true_iff]
  push_cast
  rfl

theorem test_eq_false_iff (k : Nat) (x : Int) : test k x = false ↔ x / 2 ^ k % 2 = 0 := by
  rw [← Bool.not_eq_true, test_eq_true_iff]
  omega

end Bits

namespace Memory

/-- A memory holds what was written last, and drops what is written outside of it. -/
theorem get_write (memory : Memory) (a b value : Int) :
    (memory.write a value).1.get b =
      if a = b ∧ memory.contains b = true then keep memory.width value else memory.get b := by
  unfold write
  by_cases inside : memory.contains a = true
  · rw [if_pos inside, get_put inside]
    by_cases same : a = b
    · subst same
      rw [if_pos rfl, if_pos ⟨rfl, inside⟩]
    · rw [if_neg (Ne.symm same), if_neg fun h => same h.1]
  · rw [if_neg inside, if_neg]
    rintro ⟨rfl, h⟩
    exact inside h

theorem holds_of_make {host : Host} {n : Nat} {size : Option Int} {memory : Memory}
    (made : Memory.make host n size = .ok memory) : memory.Holds n := by
  obtain rfl := eq_of_make made
  refine ⟨rfl, fun address => ?_⟩
  have blank : Memory.get { width := n, size := size.getD (Word.window n) } address = 0 := by
    simp [get]
  exact blank ▸ Bits.fits_zero n

end Memory

namespace Bus

variable {bus : Bus} {a b : Int}

/-! ## What is decoded -/

section Decoded

variable (wide : 5 ≤ bus.width)
include wide

theorem selects_decoded (address : Int) : bus.selects (bus.decoded address) = bus.selects address :=
  Bits.test_keep (by rw [Word.selectPlace]; omega) address

omit wide in
theorem offset_decoded (address : Int) : bus.offset (bus.decoded address) = bus.offset address :=
  Bits.keep_keep (by rw [Word.selectPlace]; omega) address

theorem selects_of_decoded (same : bus.decoded a = bus.decoded b) :
    bus.selects a = bus.selects b := by
  rw [← selects_decoded wide a, same, selects_decoded wide]

/-- Addresses that decode alike are read alike. -/
theorem read_of_decoded (same : bus.decoded a = bus.decoded b) : bus.read a = bus.read b := by
  have offset : bus.offset a = bus.offset b := by
    rw [← offset_decoded a, same, offset_decoded]
  unfold read
  rw [selects_of_decoded wide same, same, offset]

/-- Addresses that decode alike are written alike. -/
theorem write_of_decoded (same : bus.decoded a = bus.decoded b) (value : Int) :
    bus.write a value = bus.write b value := by
  have offset : bus.offset a = bus.offset b := by
    rw [← offset_decoded a, same, offset_decoded]
  unfold write
  simp only
  rw [selects_of_decoded wide same, same, offset]

end Decoded

/-! ## Words behind the addresses -/

theorem contains_decoded (bus : Bus) (address : Int) :
    bus.memory.contains (bus.decoded address) = true ↔ bus.decoded address < bus.memory.size := by
  have nonneg : 0 ≤ bus.decoded address := Bits.keep_nonneg _ _
  simp [Memory.contains, nonneg]

theorem read_memory (clear : bus.selects b = false) :
    (bus.read b).1 = keep bus.width (bus.memory.get (bus.decoded b)) := by
  unfold read
  rw [clear]
  rfl

theorem write_memory (clear : bus.selects a = false) (value : Int) :
    (bus.write a value).1 =
      { bus with memory := (bus.memory.write (bus.decoded a) (keep bus.width value)).1 } := by
  unfold write
  simp only
  rw [clear]
  rfl

/-- A write to the peripherals leaves the memory alone. -/
theorem memory_write_of_selects (selected : bus.selects a = true) (value : Int) :
    (bus.write a value).1.memory = bus.memory := by
  unfold write
  simp only
  rw [if_pos selected]
  split <;> rfl

/-- A write to the memory leaves the peripherals alone. -/
theorem peripherals_write_of_clear (clear : bus.selects a = false) (value : Int) :
    (bus.write a value).1.peripherals = bus.peripherals := by
  rw [write_memory clear]

/-- Nothing is read outside of the memory. -/
theorem read_eq_zero (clear : bus.selects b = false) (outside : bus.memory.size ≤ bus.decoded b) :
    (bus.read b).1 = 0 := by
  have missing : ¬bus.memory.contains (bus.decoded b) = true := by
    rw [contains_decoded]
    omega
  rw [read_memory clear, Memory.get, if_neg missing]
  exact Bits.keep_eq_self (Bits.fits_zero _)

/-- What is read from the memory after a write to it or to the peripherals. -/
theorem read_write (wide : 5 ≤ bus.width) (same : bus.memory.width = bus.width)
    (clear : bus.selects b = false) (a value : Int) :
    ((bus.write a value).1.read b).1 =
      if bus.decoded a = bus.decoded b ∧ bus.decoded b < bus.memory.size then keep bus.width value
      else (bus.read b).1 := by
  obtain ⟨memory, peripherals, written⟩ := bus.exists_write_eq a value
  have after : ((bus.write a value).1.read b).1 =
      keep bus.width ((bus.write a value).1.memory.get (bus.decoded b)) := by
    rw [written]
    exact read_memory clear
  rw [after, read_memory clear]
  cases selected : bus.selects a with
  | true =>
    have apart : ¬bus.decoded a = bus.decoded b := fun alike => by
      rw [selects_of_decoded wide alike, clear] at selected
      cases selected
    rw [if_neg fun h => apart h.1, memory_write_of_selects selected]
  | false =>
    rw [write_memory selected]
    simp only [Memory.get_write, contains_decoded, same]
    split
    · rw [Bits.keep_keep le_rfl, Bits.keep_keep le_rfl]
    · rfl

theorem holds_act {n : Nat} (h : bus.memory.Holds n) (action : BusAction) :
    (bus.act action).memory.Holds n := by
  cases action with
  | cycle signals => exact holds_cycle h signals
  | readWord address => exact bus.memory_read address ▸ h
  | writeWord address value => exact holds_write h address value
  | reset | feed | setSwitches | resetPeripherals => exact h
  | loadWords words start =>
    unfold Bus.act
    simp only
    split
    · next loaded done => exact h.loadWords done
    · exact h
  | clearMemory => exact ⟨h.width, fun address => by
      rw [Bus.act, Memory.get_clear]; exact Bits.fits_zero n⟩

theorem holds_after {n : Nat} (h : bus.memory.Holds n) (history : List BusAction) :
    (bus.after history).memory.Holds n := by
  induction history generalizing bus with
  | nil => exact h
  | cons action rest ih => exact ih (holds_act h action)

/-- A word written to the memory of a bus of `n`-bit words, in whatever state the bus is, is read
back at the addresses that agree with its own in the lowest `n - 4` bits, and elsewhere is read what
was read before, which is zero outside of the memory. Bit `n - 5` of an address keeps memory and
peripherals apart, and the bits from `n - 4` on mean nothing. -/
theorem reads_last_written {host : Host} {n : Nat} (wide : 8 ≤ n) {size : Option Int}
    {memory : Memory} (made : Memory.make host n size = .ok memory)
    {peripherals : Option Peripherals} (alike : ∀ p ∈ peripherals, p.width = n) {fresh : Bus}
    (built : Bus.make host n memory peripherals = .ok fresh) (history : List BusAction) {bus : Bus}
    (reached : bus = fresh.after history) (a b v : Int) :
    bus.checkWrite host a = .ok () ∧
      (b / 2 ^ (n - 5) % 2 = 0 →
        ((bus.write a v).1.read b).1 =
            (if a % 2 ^ (n - 4) = b % 2 ^ (n - 4) ∧ b % 2 ^ (n - 4) < bus.memory.size then v % 2 ^ n
            else (bus.read b).1) ∧
          (bus.memory.size ≤ b % 2 ^ (n - 4) → (bus.read b).1 = 0)) ∧
      (a / 2 ^ (n - 5) % 2 = 1 → (bus.write a v).1.memory = bus.memory) ∧
      (a / 2 ^ (n - 5) % 2 = 0 → (bus.write a v).1.peripherals = bus.peripherals) ∧
      (a % 2 ^ (n - 4) = b % 2 ^ (n - 4) →
        bus.read a = bus.read b ∧ bus.write a v = bus.write b v ∧
          bus.checkWrite host a = bus.checkWrite host b) := by
  have uniform : bus.Uniform n := by
    rw [reached]
    exact (uniform_make built alike).after (by omega) history
  have holds : bus.memory.Holds n := by
    rw [reached, eq_of_make built]
    exact holds_after (Memory.holds_of_make made) history
  have accepted (address : Int) : bus.checkWrite host address = .ok () :=
    checkWrite_eq_ok (fun p member => by
      rw [uniform.peripherals p member]
      exact ⟨Int.natCast_nonneg n, Memory.lt_of_make made⟩) address
  have enough : 5 ≤ bus.width := by rw [uniform.width]; omega
  have decoded (address : Int) : bus.decoded address = address % 2 ^ (n - 4) := by
    rw [Bus.decoded, uniform.width, Bits.keep_eq_emod]
  have selected (address : Int) : bus.selects address = test (n - 5) address := by
    rw [selects, uniform.width]
    rfl
  refine ⟨accepted a, fun clear => ⟨?_, fun outside => ?_⟩, fun set => ?_, fun clear => ?_,
    fun same => ⟨?_, ?_, ?_⟩⟩
  · rw [← Bits.test_eq_false_iff, ← selected] at clear
    rw [read_write enough (holds.width.trans uniform.width.symm) clear, decoded, decoded,
      uniform.width, Bits.keep_eq_emod]
  · rw [← Bits.test_eq_false_iff, ← selected] at clear
    exact read_eq_zero clear (by rw [decoded]; exact outside)
  · rw [← Bits.test_eq_true_iff, ← selected] at set
    exact memory_write_of_selects set v
  · rw [← Bits.test_eq_false_iff, ← selected] at clear
    exact peripherals_write_of_clear clear v
  · exact read_of_decoded enough (by rw [decoded, decoded, same])
  · exact write_of_decoded enough (by rw [decoded, decoded, same]) v
  · rw [accepted, accepted]

/-- On an eight-bit bus, what goes to `$F3` after a read that was given up is read at `$13`, without
the bits that do not fit. -/
theorem reads_last_written_mirrored :
    Memory.make {} (8 : Nat) none = .ok twoBytes.memory ∧
      Bus.make {} (8 : Nat) twoBytes.memory twoBytes.peripherals = .ok twoBytes ∧
      (((twoBytes.after givenUp).write 0xF3 0x1AB).1.read 0x13).1 = 0xAB ∧
      (twoBytes.after givenUp).write 0xF3 0x1AB =
        (twoBytes.after givenUp).write 0x13 0x1AB := by
  have made : Memory.make {} (8 : Nat) none = .ok twoBytes.memory := rfl
  have alike : ∀ p ∈ twoBytes.peripherals, p.width = (8 : Nat) := by decide
  have built : Bus.make {} (8 : Nat) twoBytes.memory twoBytes.peripherals = .ok twoBytes := rfl
  obtain ⟨-, reads, -, -, mirrored⟩ :=
    reads_last_written (by decide) made alike built givenUp rfl 0xF3 0x13 0x1AB
  have inside : (0xF3 : Int) % 2 ^ (8 - 4) = 0x13 % 2 ^ (8 - 4) ∧
      (0x13 : Int) % 2 ^ (8 - 4) < (twoBytes.after givenUp).memory.size := by
    decide +kernel
  refine ⟨made, built, ?_, (mirrored (by decide)).2.1⟩
  rw [(reads (by decide)).1, if_pos inside]
  decide

end Bus

end SerialMachine
