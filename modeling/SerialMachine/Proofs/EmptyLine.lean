import SerialMachine.Proofs.Overwriting
import SerialMachine.Proofs.SerialLine

/-!
# The empty serial line

A read of the serial line that finds no byte delivers a word with the ninth bit set, cut to the
words of the machine. Main statement: a program can tell this word from that of a received byte in
all cases but one. Words of eight bits have no room for the ninth, so that with them an empty line
reads as a zero byte does.
-/

namespace SerialMachine

open Bits (weight)

/-! ## The word of an empty line -/

namespace Peripherals

variable {n : Nat}

theorem heard_none (wide : 8 < n) : heard n none = nothingReceived := by
  have fits : Word.Fits 9 nothingReceived := ⟨by decide, by decide⟩
  exact Bits.keep_eq_self (Bits.fits_mono fits wide)

theorem heard_none_eight : heard 8 none = 0 := by decide

/-- Only a zero byte in words of eight bits is heard as nothing is. -/
theorem heard_none_eq_iff (wide : 8 ≤ n) (byte : UInt8) :
    heard n none = heard n (some byte) ↔ n = 8 ∧ byte = 0 := by
  have small := byte.toNat_lt
  rcases Nat.lt_or_eq_of_le wide with wider | rfl
  · rw [heard_none wider]
    simp only [heard, nothingReceived]
    constructor
    · intro same
      omega
    · rintro ⟨rfl, -⟩
      exact absurd wider (Nat.lt_irrefl 8)
  · rw [heard_none_eight]
    simp only [heard, true_and]
    constructor
    · intro zero
      exact UInt8.toNat_inj.1 (by simpa using zero.symm)
    · rintro rfl
      rfl

end Peripherals

/-! ## Reads of the line -/

namespace Bus

/-- The bus has words of `n` bits, and a read at `address` finds `first` on the serial line. -/
structure Offers (bus : Bus) (n : Nat) (address : Int) (first : Option UInt8) : Prop where
  width : bus.width = n
  peripherals : bus.peripherals.isSome = true
  line : bus.meansLine address = true
  waiting : bus.waiting.head? = first

variable {n : Nat} {bus : Bus} {address : Int} {first : Option UInt8}

instance : Decidable (bus.Offers n address first) :=
  decidable_of_iff (bus.width = n ∧ bus.peripherals.isSome = true ∧
      bus.meansLine address = true ∧ bus.waiting.head? = first)
    ⟨fun ⟨width, peripherals, line, waiting⟩ => ⟨width, peripherals, line, waiting⟩,
      fun h => ⟨h.width, h.peripherals, h.line, h.waiting⟩⟩

theorem Offers.read (h : bus.Offers n address first) (wide : 8 ≤ n) :
    (bus.read address).1 = Peripherals.heard n first := by
  -- Whatever the bus has latched, it delivers what it would deliver at rest.
  have attached : bus.reset.Attached := ⟨h.peripherals, Bits.fits_zero _⟩
  have delivers := (read_of_meansLine attached (h.width ▸ wide) h.line).1
  rw [read_reset] at delivers
  rw [delivers, waiting_reset, h.waiting]
  exact congrArg (Peripherals.heard · first) h.width

end Bus

/-! ## An instruction that reads the line -/

/-- The execute state of a `GET` of a peripheral turns its operand round once, and a load comes
next. -/
theorem Registers.passed_get_io {config : Config} {r : Registers}
    (coherent : r.Coherent config False) (state : r.state = .execute)
    (get : r.selected config = .get)
    (io : Instruction.target? config.variant config.width .get r.operand = some .io)
    (level : Nat → Bool) (w : Int) :
    (r.passed config level w).state = .load ∧ (r.passed config level w).operand = r.operand ∧
      (r.passed config level w).irq =
        (r.irq || (config.extended && raised level 0 (config.width + 1))) := by
  have setUp : r.setUp config = Cycle.executeSetUp config .get r := by
    rw [Registers.setUp, state]
    exact congrArg (Cycle.executeSetUp config · r) get
  have opened := opened_setUp coherent
  rw [setUp] at opened
  obtain ⟨-, target, choice⟩ := opened.execute state
  have still : (Cycle.executeSetUp config .get r).selected config = .get := get
  rw [still] at target choice
  have loads : Cycle.executeChoice config (Cycle.executeSetUp config .get r) .get = .load := by
    rw [executeChoice_eq]
    exact if_pos (target.trans io)
  obtain ⟨-, kept, -, -, -, -, irq⟩ :=
    executed_latches config .get config.width (Cycle.executeSetUp config .get r)
  obtain ⟨operand, -⟩ := executed_moves opened.coherent.words (Or.inl loads)
  rw [passed_execute state, setUp, get]
  exact ⟨kept.trans (choice.trans loads), operand, congrArg (· || _) irq⟩

namespace Machine

variable {m : Machine Bus}

/-- The machine begins to execute an instruction that gets a word from the serial line. -/
structure GetsLine (m : Machine Bus) : Prop where
  state : m.processor.registers.state = .execute
  first : m.processor.registers.first = true
  operation : m.processor.registers.operation m.processor.config = .ok .get
  line : m.bus.meansLine m.processor.registers.operand = true

instance : Decidable m.GetsLine :=
  decidable_of_iff (m.processor.registers.state = .execute ∧ m.processor.registers.first = true ∧
      m.processor.registers.operation m.processor.config = .ok .get ∧
      m.bus.meansLine m.processor.registers.operand = true)
    ⟨fun ⟨state, first, operation, line⟩ => ⟨state, first, operation, line⟩,
      fun h => ⟨h.state, h.first, h.operation, h.line⟩⟩

/-- A machine whose bus keeps in step is ready for an execution. -/
theorem Paced.ready_of_execute (h : m.Paced) (sound : m.processor.Sound)
    (state : m.processor.registers.state = .execute)
    (first : m.processor.registers.first = true) : m.Ready := by
  obtain ⟨c, le, timed, coherent⟩ := sound.registers
  obtain rfl : c = 0 := by
    have start : m.processor.registers.first = (c == 0) := congrArg Registers.first timed
    simpa [first] using start.symm
  constructor
  case running => exact sound.running
  case width => exact h.width
  case coherent => simpa using coherent
  case timed => exact timed
  case aligned => exact ⟨h.dispatches, by simp [Registers.addressee, state]⟩
  case fits => exact h.fits
  case rests => exact h.rests_of_first (congrArg Registers.cycle timed)

/-- A word of the serial line is left to a load. -/
theorem GetsLine.target (gets : m.GetsLine) (width : m.bus.width = m.processor.config.width) :
    Instruction.target? m.processor.config.variant m.processor.config.width .get
      m.processor.registers.operand = some .io := by
  have line := gets.line
  rw [Bus.meansLine, Bool.and_eq_true, Bus.selects, width] at line
  simp only [Instruction.target?, line.1, if_true]

section

variable (h : m.Ready) (gets : m.GetsLine) (level : Nat → Bool)
include h gets

/-- A load of the line comes next, with the bus as it was. -/
theorem Ready.passed_getsLine :
    (m.passed level).processor.registers.state = .load ∧
      (m.passed level).processor.registers.operand = m.processor.registers.operand ∧
      (m.passed level).processor.registers.irq = (m.processor.registers.irq ||
        (m.processor.config.extended && raised level 0 (m.processor.config.width + 1))) ∧
      (m.passed level).bus.reset = m.bus.reset := by
  obtain ⟨-, -, registers, -, devices, -⟩ := h.stage level
  have get : m.processor.registers.selected m.processor.config = .get :=
    Except.ok.inj (h.coherent.operation.symm.trans gets.operation)
  obtain ⟨state, operand, irq⟩ := Registers.passed_get_io h.coherent gets.state get
    (gets.target h.width) level (m.bus.read m.bus.address).1
  rw [registers, devices, traffic, Registers.carryOut_of_rests]
  · exact ⟨state, operand, irq, rfl⟩
  · rw [Registers.opening_zero, (Registers.addressee_setUp ..).1, Registers.addressee,
      show (m.processor.registers.latched _ (level 0)).state = .execute from gets.state]

/-- At the next fetch the accumulator holds the word of the line. -/
theorem Ready.runsOn_getsLine (attached : m.bus.Attached) (reports : List Event) :
    ∃ next, m.RunsOn level reports next ∧
      next.acc = Peripherals.heard m.processor.config.width m.bus.waiting.head? := by
  obtain ⟨state, operand, irq, devices⟩ := h.passed_getsLine gets level
  obtain ⟨ready, config, -, -, -, -⟩ := h.stage level
  have wide : 8 ≤ m.bus.width := h.width ▸ m.processor.config.eight_le_width
  have delivers := (Bus.read_of_meansLine attached wide gets.line).1
  refine ⟨_, h.runsOn_add level reports (by simp [gets.state]) ?_ irq
    (ready.runsOn_load (m.later level) (m.seen level reports) config state), ?_⟩
  · exact Processor.settled_eq_false (by simp [state]) (by simp [state])
  · rw [operand, ← h.width, ← delivers]
    show ((m.passed level).bus.reset.readWord m.processor.registers.operand).1 = _
    rw [devices, Bus.readWord, Bus.read_reset]

end

end Machine

/-! ## Sessions -/

namespace Emulator

variable {e : Emulator}

theorem config_after (settings : Settings) (requests : List Request) :
    ((make settings).after requests).processor.config = settings.config := by
  have act (m : Machine Bus) (action : Action) (sound : m.processor.Sound)
      (same : m.processor.config = settings.config) :
      (m.act action).processor.config = settings.config :=
    (Machine.sound_act sound action).2.trans same
  exact machine_after act (fun _ _ _ _ _ same => same) (fun _ _ same => same)
    (fun _ same => same) rfl requests

theorem attached_after (settings : Settings) (requests : List Request) :
    ((make settings).after requests).machine.bus.Attached := by
  refine machine_after (fun _ action sound h => Machine.attached_act sound h action)
    (fun _ _ _ _ _ h => ⟨h.peripherals, h.fits⟩) (fun _ _ h => ⟨rfl, h.fits⟩)
    (fun _ h => ⟨h.peripherals, ?_⟩) ⟨rfl, ?_⟩ requests
  · exact Bits.fits_zero _
  · exact Bits.fits_zero _

/-- A run of a single instruction that reads the line ends with the word in the accumulator. -/
theorem Sound.acc_stepInstruction (h : e.Sound) (paced : e.machine.Paced)
    (attached : e.machine.bus.Attached) (gets : e.machine.GetsLine) :
    e.stepInstruction.state.processor.registers.acc =
      Peripherals.heard e.processor.config.width e.machine.bus.waiting.head? := by
  have ready := paced.ready_of_execute h.processor gets.state gets.first
  obtain ⟨next, ⟨cycles, performs⟩, acc⟩ :=
    ready.runsOn_getsLine gets (fun _ => e.processor.irq) attached []
  -- Three states are left at most, far fewer than the run is given.
  obtain ⟨k, le, settled⟩ := ready.exists_settled fun _ => e.processor.irq
  have left : e.machine.processor.registers.statesLeft = 3 := by
    rw [Registers.statesLeft, gets.state]
  have begun : e.machine.processor.settled = false :=
    Processor.settled_eq_false (by simp [gets.state]) (by simp [gets.state])
  have pos : 0 < k := by
    refine Nat.pos_of_ne_zero fun zero => ?_
    rw [zero, Machine.run, begun] at settled
    cases settled
  have within := performs.le_of_settled pos settled
  rw [left] at le
  have finished := h.finished_of_performs performs
    ((within.trans le).trans (Nat.mul_le_mul_right _ (by decide)))
  have machine : e.stepInstruction.state.machine =
      e.machine.run (fun _ => e.processor.irq) cycles :=
    finished.machine.trans (Machine.clocks_eq_run h.processor cycles).1
  rw [Emulator.processor, machine]
  exact (congrArg WordMachine.acc performs.machine).trans acc

theorem acc_after (settings : Settings) (requests : List Request)
    (gets : ((make settings).after requests).machine.GetsLine) :
    ((make settings).after requests).stepInstruction.state.processor.registers.acc =
      Peripherals.heard settings.config.width
        ((make settings).after requests).machine.bus.waiting.head? := by
  rw [(sound_after settings requests).acc_stepInstruction (paced_after settings requests)
    (attached_after settings requests) gets, config_after]

/-- A read of an empty line differs from a read of a byte, on the bus and in the accumulator, except
for a zero byte in words of eight bits. -/
theorem empty_line_alike_iff (config : Config) (byte : UInt8) :
    (∀ (empty fed : Bus) (a b : Int), empty.Offers config.width a none →
      fed.Offers config.width b (some byte) →
        ((empty.read a).1 = (fed.read b).1 ↔ config.width = 8 ∧ byte = 0)) ∧
    ∀ (settings settings' : Settings) (requests requests' : List Request),
      settings.config = config → settings'.config = config →
        let e := (make settings).after requests
        let f := (make settings').after requests'
        e.machine.GetsLine → f.machine.GetsLine →
          e.machine.bus.waiting.head? = none → f.machine.bus.waiting.head? = some byte →
            (e.stepInstruction.state.processor.registers.acc =
                f.stepInstruction.state.processor.registers.acc ↔
              config.width = 8 ∧ byte = 0) := by
  have wide := config.eight_le_width
  constructor
  · intro empty fed a b offers offers'
    rw [offers.read wide, offers'.read wide]
    exact Peripherals.heard_none_eq_iff wide byte
  · intro settings settings' requests requests' same same' e f gets gets' waits waits'
    rw [acc_after settings requests gets, acc_after settings' requests' gets', same, same',
      waits, waits']
    exact Peripherals.heard_none_eq_iff wide byte

/-- `GET` of the serial line in words of `n` bits, up to the execution, when these bytes have
come. -/
def getLine (n : Nat) (bytes : List UInt8) : List Request :=
  [.loadWords [0xF8 * weight (n - 8)] 0, .act (.feed bytes), .execute (2 * (n + 1))]

/-- Words of sixteen bits have room for the ninth. -/
theorem empty_line_alike_iff_sixteen :
    let empty := (make {}).after (getLine 16 [])
    let fed := (make {}).after (getLine 16 [0])
    empty.machine.bus.Offers 16 0x800 none ∧ fed.machine.bus.Offers 16 0x800 (some 0) ∧
      empty.machine.GetsLine ∧ fed.machine.GetsLine ∧
      (empty.machine.bus.read 0x800).1 ≠ (fed.machine.bus.read 0x800).1 ∧
      empty.stepInstruction.state.processor.registers.acc ≠
        fed.stepInstruction.state.processor.registers.acc := by
  have offers : ((make {}).after (getLine 16 [])).machine.bus.Offers 16 0x800 none := by
    decide +kernel
  have offers' : ((make {}).after (getLine 16 [0])).machine.bus.Offers 16 0x800 (some 0) := by
    decide +kernel
  have gets : ((make {}).after (getLine 16 [])).machine.GetsLine := by decide +kernel
  have gets' : ((make {}).after (getLine 16 [0])).machine.GetsLine := by decide +kernel
  obtain ⟨reads, accs⟩ := empty_line_alike_iff {} 0
  refine ⟨offers, offers', gets, gets', ?_, ?_⟩
  · exact (reads _ _ _ _ offers offers').not.2 (by decide)
  · have differ := accs {} {} (getLine 16 []) (getLine 16 [0]) rfl rfl
    exact (differ gets gets' offers.waiting offers'.waiting).not.2 (by decide)

/-- Words of eight bits have not, and the program gets a zero in either case. -/
theorem empty_line_heard_as_zero :
    let empty := (make { config := { width := 8 } }).after (getLine 8 [])
    let fed := (make { config := { width := 8 } }).after (getLine 8 [0])
    empty.machine.bus.Offers 8 8 none ∧ fed.machine.bus.Offers 8 8 (some 0) ∧
      empty.machine.GetsLine ∧ fed.machine.GetsLine ∧
      (empty.machine.bus.read 8).1 = 0 ∧ (fed.machine.bus.read 8).1 = 0 ∧
      empty.stepInstruction.state.processor.registers.acc = 0 ∧
      fed.stepInstruction.state.processor.registers.acc = 0 := by
  decide +kernel

end Emulator

end SerialMachine
