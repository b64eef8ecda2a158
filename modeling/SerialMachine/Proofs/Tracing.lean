import SerialMachine.Proofs.Instructions
import SerialMachine.Proofs.Watchpoints

/-!
# Traced fetches

What a fetch brings in, and what the trace of it shows. Main statement: the fetch delivers the word
of memory that the decoded bits of the program counter address, while the trace shows the word that
the whole program counter addresses. The two agree where no other bits are set; elsewhere the trace
names an instruction that is not the one executed.
-/

namespace SerialMachine

open Bits (keep weight)

/-! ## What a memory holds -/

/-- The memory is one of words of `n` bits, and holds nothing else. -/
structure Memory.Holds (n : Nat) (memory : Memory) : Prop where
  width : memory.width = n
  fits : ∀ address, Word.Fits n (memory.get address)

namespace Memory

variable {n : Nat} {memory : Memory}

theorem Holds.put (h : memory.Holds n) {address : Int} (inside : memory.contains address = true)
    (value : Int) : (memory.put address value).Holds n := by
  refine ⟨h.width, fun b => ?_⟩
  rw [get_put inside]
  split
  · exact h.width ▸ Bits.fits_keep memory.width value
  · exact h.fits b

theorem Holds.write (h : memory.Holds n) (address value : Int) :
    (memory.write address value).1.Holds n := by
  unfold Memory.write
  split
  · next inside => exact h.put inside value
  · exact h

theorem Holds.putAll (h : memory.Holds n) {start : Int} {words : List Int} (nonneg : 0 ≤ start)
    (room : start + words.length ≤ memory.size) : (memory.putAll start words).Holds n := by
  induction words generalizing memory start with
  | nil => exact h
  | cons word rest ih =>
    simp only [List.length_cons, Nat.cast_add, Nat.cast_one] at room
    have inside : memory.contains start = true := by
      simp only [contains, Bool.and_eq_true, decide_eq_true_eq]
      omega
    exact ih (h.put inside word) (by omega) (by simp only [Memory.put]; omega)

theorem Holds.loadWords (h : memory.Holds n) {words : List Int} {start : Int} {loaded : Memory}
    (done : memory.loadWords words start = .ok loaded) : loaded.Holds n := by
  unfold Memory.loadWords at done
  split at done
  · cases done
  · cases done
    exact h.putAll (by omega) (by omega)

end Memory

namespace Bus

variable {n : Nat} {bus : Bus}

theorem memory_read (bus : Bus) (address : Int) : (bus.read address).2.1.memory = bus.memory := by
  obtain ⟨peripherals, read⟩ := bus.exists_read_eq address
  rw [read]

theorem holds_write (h : bus.memory.Holds n) (address value : Int) :
    (bus.write address value).1.memory.Holds n := by
  unfold write
  simp only
  split
  · split <;> exact h
  · exact h.write _ _

/-- A cycle of the bus writes words at most. -/
theorem holds_cycle (h : bus.memory.Holds n) (signals : Signals) :
    (bus.cycle signals).bus.memory.Holds n := by
  have begun : bus.beginRead.1.memory = bus.memory := by
    unfold beginRead
    split
    · rfl
    · exact bus.memory_read bus.address
  have taken (bit : Int) : (bus.takeBit bit).memory = bus.memory := by
    unfold takeBit beginWrite
    split <;> rfl
  unfold cycle
  split
  · exact h
  · split_ifs
    · exact h
    · unfold shiftRead
      simp only
      split <;> exact begun ▸ h
    · unfold shiftWrite
      simp only
      split
      · exact holds_write (taken signals.o ▸ h) _ _
      · exact taken signals.o ▸ h
    · exact h

end Bus

theorem Machine.holds_act {m : Machine Bus} {n : Nat} (sound : m.processor.Sound)
    (h : m.bus.memory.Holds n) (action : Action) : (m.act action).bus.memory.Holds n := by
  cases action with
  | clock =>
    obtain ⟨signals, next, -, step⟩ := exists_step sound
    rw [act, step]
    exact Bus.holds_cycle h signals
  | readWord address => exact m.bus.memory_read address ▸ h
  | writeWord address value => exact Bus.holds_write h address value
  | interrupt | feed | setSwitches | overwrite => exact h

/-! ## The word that a fetch brings in -/

namespace Machine

variable {m : Machine Bus} {r : Registers} {old w : Int} {k : Nat}

/-- The last cycle of a state in which a word arrives completes the read of it. -/
theorem Amid.completes_input (h : m.Amid r old w k)
    (input : r.traffic m.processor.config = .input) (pos : 0 < k) (last : k + 1 = m.bus.width) :
    m.completes? = some { writing := false, address := m.bus.decoded old, value := w } := by
  have lines : m.processor.registers.drive m.processor.config = .ok .input := by
    rw [h.lines, input]
    rfl
  have carries := h.carries
  rw [input] at carries
  obtain ⟨stands, latched⟩ := carries
  rw [if_pos ⟨pos, h.inside⟩] at latched
  obtain ⟨phase, count, word⟩ := latched
  have begun : m.bus.beginRead.1 = m.bus := by rw [Bus.beginRead, if_pos phase]
  rw [completes?, lines]
  simp only [Bus.completed?, Signals.input, if_true, Bus.completedRead?, begun, count, last, stands,
    word]

/-- The last cycle of a fetch completes the read of the word at the program counter. -/
theorem Ready.completes_fetch (h : m.Ready) (sound : m.processor.Sound)
    (fetch : m.processor.atFetch = true) :
    (m.clocks m.processor.config.width).completes? =
      some {
        writing := false
        address := m.bus.decoded m.processor.registers.pc
        value := (m.bus.read m.processor.registers.pc).1 } := by
  simp only [Processor.atFetch, Bool.and_eq_true, beq_iff_eq, Bool.not_eq_true'] at fetch
  obtain ⟨⟨state, -⟩, dispatch⟩ := fetch
  have addressee : m.processor.registers.addressee = some m.processor.registers.pc := by
    simp [Registers.addressee, state, dispatch]
  have address := h.aligned.addressed _ addressee
  have traffic := traffic_of_moves (fun _ => m.processor.irq) (by rw [addressee]; rfl)
  rw [state, if_neg (by decide)] at traffic
  obtain ⟨k, eq⟩ := Nat.exists_eq_add_one.2 m.processor.config.width_pos
  have wide := m.processor.config.four_lt_width
  have lt : k < m.bus.width := by rw [h.width]; omega
  obtain ⟨amid, config, -, -⟩ := h.amid_run (fun _ => m.processor.irq) lt
  have width : (m.run (fun _ => m.processor.irq) (k + 1)).bus.width = k + 1 := by
    rw [amid.width, config, eq]
  have completes := amid.completes_input (by rw [config]; exact traffic) (by omega) width.symm
  rw [(clocks_eq_run sound _).1, eq, completes, address]
  simp only [Bus.decoded, width, h.width, eq]

end Machine

/-! ## Sessions -/

namespace Machine

variable {m : Machine Bus}

/-- The machine is at the first cycle of a state or amid one, and its memory holds words. -/
structure Orderly (m : Machine Bus) : Prop where
  underway : m.Underway
  memory : m.bus.memory.Holds m.processor.config.width

theorem Underway.width (h : m.Underway) : m.bus.width = m.processor.config.width := by
  rcases h with ready | ⟨r, old, w, k, amid⟩
  · exact ready.width
  · exact amid.width

/-- Other devices may be put behind the bus at any time. -/
theorem Underway.of_devices (h : m.Underway) (memory : Memory) (peripherals : Option Peripherals) :
    Underway { m with bus := { m.bus with memory, peripherals } } := by
  rcases h with ready | ⟨r, old, w, k, amid⟩
  · exact Or.inl { ready with }
  · exact Or.inr ⟨r, old, w, k, { amid with }⟩

theorem Orderly.act (h : m.Orderly) (sound : m.processor.Sound) {action : Action}
    (spares : action.sparesRegisters = true) : (m.act action).Orderly := by
  refine ⟨h.underway.of_act spares, ?_⟩
  rw [(sound_act sound action).2]
  exact holds_act sound h.memory action

theorem Orderly.reset (h : m.Orderly) : m.reset.1.Orderly :=
  ⟨Or.inl (ready_reset h.underway.width), h.memory⟩

end Machine

namespace Emulator

/-- Nothing but a writing of registers makes the machine inside disorderly. -/
theorem lasting_orderly : Lasting fun e => e.Sound ∧ e.machine.Orderly :=
  lasting_machine (fun _ sound h => h.act sound rfl)
    (fun _ _ _ memory loaded h => ⟨h.underway.of_devices memory _, h.memory.loadWords loaded⟩)
    (fun _ peripherals h => ⟨h.underway.of_devices _ peripherals, h.memory⟩) fun _ h => h.reset

theorem orderly_make (settings : Settings) : (make settings).machine.Orderly where
  underway := Or.inl (Machine.ready_reset (m := (make settings).machine) rfl)
  memory := ⟨rfl, fun address => by simp [make, freshBus, Memory.get, Bits.fits_zero]⟩

theorem orderly_after (settings : Settings) {requests : List Request}
    (spares : ∀ request ∈ requests, request.sparesRegisters = true) :
    ((make settings).after requests).machine.Orderly := by
  have leaves (action : Action) (member : .act action ∈ requests) (e : Emulator)
      (h : e.Sound ∧ e.machine.Orderly) :
      ({ e with machine := e.machine.act action } : Emulator).Sound ∧
        (e.machine.act action).Orderly :=
    ⟨h.1.act action, h.2.act h.1.processor (spares (.act action) member)⟩
  exact (lasting_orderly.after ⟨sound_make settings, orderly_make settings⟩ leaves).2

/-- The instruction that the trace of a fetch shows. -/
def traced (e : Emulator) (r : Registers) : Instruction :=
  e.settings.config.decode (e.memory.get r.pc)

theorem traceText_eq (e : Emulator) (r : Registers) :
    e.traceText r =
      let operand := "$" ++ Text.hex ((e.settings.config.width - 1) / 4) (e.traced r).operand
      "$" ++ Text.hex 4 r.pc ++ "  " ++ Text.padRight 8 (e.traced r).operation.name ++ " " ++
        Text.padRight 8 operand ++ " acc=$" ++ Text.hex 4 r.acc ++ " flags=$" ++
          Text.hex 4 r.flags := rfl

variable {e : Emulator}

/-- What a fetch from memory delivers, and when its trace shows that. -/
structure DeliversTraced (e : Emulator) (w : Int) : Prop where
  /-- The last cycle of the fetch completes the read of the word. -/
  delivers : (e.machine.clocks e.processor.config.width).completes? =
    some {
      writing := false
      address := e.bus.decoded e.processor.registers.pc
      value := w }
  /-- It is the word that the decoded bits of the program counter address. -/
  word : w = e.memory.get (e.bus.decoded e.processor.registers.pc)
  /-- Where the program counter has no others, the trace shows the instruction that it holds. -/
  shows : e.processor.registers.pc < weight (e.processor.config.width - 4) →
    e.traced e.processor.registers = e.processor.config.decode w

theorem Sound.deliversTraced (h : e.Sound) (orderly : e.machine.Orderly)
    (fetch : e.processor.atFetch = true)
    (mapped : e.bus.selects e.processor.registers.pc = false) : ∃ w, e.DeliversTraced w := by
  have first : e.machine.processor.registers.first = true := by
    unfold Processor.atFetch at fetch
    simp only [Bool.and_eq_true] at fetch
    exact fetch.1.2
  have ready := orderly.underway.ready first
  have width : e.bus.width = e.processor.config.width := ready.width
  have fits := orderly.memory.fits (e.bus.decoded e.processor.registers.pc)
  have word : (e.bus.read e.processor.registers.pc).1 =
      e.memory.get (e.bus.decoded e.processor.registers.pc) := by
    simp only [Bus.read, mapped, Bool.false_eq_true, if_false, Memory.read]
    exact Bits.keep_eq_self (width ▸ fits)
  refine ⟨_, ready.completes_fetch h.processor fetch, word, fun low => ?_⟩
  have pc : Word.Fits (e.processor.config.width - 4) e.processor.registers.pc :=
    ⟨ready.coherent.words.pc.1, low⟩
  have decoded : e.bus.decoded e.processor.registers.pc = e.processor.registers.pc := by
    rw [Bus.decoded, width, Bits.keep_eq_self pc]
  have value : (e.machine.bus.read e.machine.processor.registers.pc).1 =
      e.memory.get e.processor.registers.pc := by
    rw [decoded] at word
    exact word
  rw [value, traced, ← h.config]
  rfl

/-- After any session that leaves the registers to the clock, a fetch from memory delivers the word
at the decoded program counter, and that is what its trace shows unless the program counter has bits
that are not decoded. -/
theorem fetch_delivers_traced (settings : Settings) {requests : List Request}
    (spares : ∀ request ∈ requests, request.sparesRegisters = true)
    (fetch : ((make settings).after requests).processor.atFetch = true)
    (mapped : ((make settings).after requests).bus.selects
      ((make settings).after requests).processor.registers.pc = false) :
    ∃ w, ((make settings).after requests).DeliversTraced w :=
  (sound_after settings requests).deliversTraced (orderly_after settings spares) fetch mapped

/-- A program of eight-bit words that jumps to the address sixteen, which means the word at address
zero, up to the fetch there. -/
def mirroredJump : List Request :=
  [.loadWords [0x83, 0xE0, 0x00, 0x10] 0, .run 63]

theorem fetch_delivers_traced_mirrored :
    (((make { config := { width := 8 }, trace := true }).after mirroredJump).processor.atFetch =
        true ∧
      ((make { config := { width := 8 }, trace := true }).after mirroredJump).bus.selects
        ((make { config := { width := 8 }, trace := true }).after
          mirroredJump).processor.registers.pc = false) ∧
      ∃ w, ((make { config := { width := 8 }, trace := true }).after
        mirroredJump).DeliversTraced w := by
  have fetch : ((make { config := { width := 8 }, trace := true }).after
      mirroredJump).processor.atFetch = true := by decide +kernel
  have mapped : ((make { config := { width := 8 }, trace := true }).after mirroredJump).bus.selects
      ((make { config := { width := 8 }, trace := true }).after
        mirroredJump).processor.registers.pc = false := by decide +kernel
  exact ⟨⟨fetch, mapped⟩, fetch_delivers_traced _ (by decide) fetch mapped⟩

/-- The trace of a fetch at an address with bits that are not decoded shows an instruction that is
not the one executed. -/
theorem mirrored_fetch_mistraced :
    ¬∀ (settings : Settings) (requests : List Request) (address w : Int),
      settings.trace = true →
      (∀ request ∈ requests, request.sparesRegisters = true) →
      ((make settings).after requests).processor.atFetch = true →
      ((make settings).after requests).bus.selects
        ((make settings).after requests).processor.registers.pc = false →
      (((make settings).after requests).machine.clocks settings.config.width).completes? =
        some { writing := false, address, value := w } →
      ((make settings).after requests).traced ((make settings).after requests).processor.registers =
        settings.config.decode w := by
  intro faithful
  have shown := faithful { config := { width := 8 }, trace := true } mirroredJump 0 0x83 rfl
    (by decide) (by decide +kernel) (by decide +kernel) (by decide +kernel)
  revert shown
  decide +kernel

end Emulator

end SerialMachine
