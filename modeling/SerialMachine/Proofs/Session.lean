import SerialMachine.Machine
import SerialMachine.Proofs.Coherence

/-!
# Sessions

A host clocks a machine and moves its interrupt line, uses the devices behind the bus, and
overwrites registers between two cycles. Main statement: whatever it does, and in whatever order,
every clock cycle completes, and the registers stay consistent with the count of cycles.
-/

namespace SerialMachine

/-- What a host does with a machine on a bus. -/
inductive Action
  /-- One clock cycle. -/
  | clock
  /-- The interrupt line is brought to a level. -/
  | interrupt (level : Bool)
  /-- The serial line receives bytes. -/
  | feed (bytes : List UInt8)
  | setSwitches (value : Int)
  | readWord (address : Int)
  | writeWord (address value : Int)
  /-- Word registers are overwritten. -/
  | overwrite (values : List ({ x : Register // x ∈ Register.words } × Int))

/-- Whether an action leaves the registers to the clock. -/
def Action.sparesRegisters : Action → Bool
  | overwrite _ => false
  | _ => true

/-- The bus with its peripherals changed, if it has any. -/
def Bus.mapPeripherals (f : Peripherals → Peripherals) (bus : Bus) : Bus :=
  { bus with peripherals := bus.peripherals.map f }

namespace Machine

/-- The machine after an action. -/
def act (m : Machine Bus) : Action → Machine Bus
  | .clock => m.step.state
  | .interrupt level => { m with processor := { m.processor with irq := level } }
  | .feed bytes => { m with bus := m.bus.mapPeripherals (·.feed bytes) }
  | .setSwitches value =>
    { m with bus := m.bus.mapPeripherals fun p => { p with switches := value } }
  | .readWord address => { m with bus := (m.bus.read address).2.1 }
  | .writeWord address value => { m with bus := (m.bus.write address value).1 }
  | .overwrite values =>
    { m with processor := m.processor.setRegisters (values.map fun e => (e.1.1, e.2)) }

/-- The machine after a session of actions. -/
def after (m : Machine Bus) (actions : List Action) : Machine Bus :=
  actions.foldl act m

end Machine

/-! ## A cycle of the bus -/

namespace Bus

variable {bus : Bus} {signals : Signals}

/-- With at most one strobe the bus answers, and with a zero unless a bit is asked for. -/
theorem exists_reply (h : signals.enables ≤ 1) :
    ∃ bit, (bus.cycle signals).reply = .ok bit ∧ (signals.ie = false → bit = 0) := by
  have check : signals.check = .ok () := if_neg (by omega)
  unfold cycle
  rw [check]
  simp only
  split
  · exact ⟨0, rfl, fun _ => rfl⟩
  · split
    · next asked =>
      simp only [asked, Bool.true_eq_false, false_imp_iff, and_true]
      unfold shiftRead
      simp only
      split <;> exact ⟨_, rfl⟩
    · split
      · unfold shiftWrite
        simp only
        split <;> exact ⟨0, rfl, fun _ => rfl⟩
      · exact ⟨0, rfl, fun _ => rfl⟩

end Bus

/-! ## The lines of a sound record -/

namespace Registers

variable {config : Config} {r : Registers}

theorem Sound.exists_lines (h : r.Sound config) :
    ∃ signals, r.drive config = .ok signals ∧ signals.enables ≤ 1 := by
  obtain ⟨c, -, -, coherent⟩ := h
  obtain ⟨operation, ho⟩ := exists_operation config coherent.opcode
  unfold drive
  split
  · exact ⟨_, rfl, by decide⟩
  · split
    · exact ⟨_, rfl, by decide⟩
    · unfold Drive.data
      cases hs : r.state with
      | fetch =>
        refine ⟨_, rfl, ?_⟩
        split <;> simp [Signals.address, Signals.input, Signals.enables]
      | execute =>
        simp only [ho]
        refine ⟨_, rfl, ?_⟩
        unfold Drive.execute
        split_ifs <;> simp [Signals.address, Signals.enables]
      | _ =>
        exact ⟨_, rfl,
          by simp [Signals.address, Signals.input, Signals.output, Signals.enables]⟩

theorem Coherent.set {begun : Prop} (h : r.Coherent config begun) {x : Register}
    (hx : x ∈ Register.words) {value : Int} (hv : Word.Fits config.width value) :
    (r.set x value).Coherent config begun := by
  have words := h.words.set x hv
  simp only [Register.words, List.mem_cons, List.not_mem_nil, or_false] at hx
  rcases hx with rfl | rfl | rfl | rfl | rfl | rfl | rfl <;>
    exact ⟨words, h.opcode, h.native, h.plain, h.settled, h.aimed⟩

theorem Sound.set (h : r.Sound config) {x : Register} (hx : x ∈ Register.words) {value : Int}
    (hv : Word.Fits config.width value) : (r.set x value).Sound config := by
  obtain ⟨c, le, timed, coherent⟩ := h
  refine ⟨c, le, ?_, coherent.set hx hv⟩
  conv_lhs => rw [timed]
  simp only [Register.words, List.mem_cons, List.not_mem_nil, or_false] at hx
  rcases hx with rfl | rfl | rfl | rfl | rfl | rfl | rfl <;> rfl

end Registers

/-! ## Sound machines -/

/-- The processor runs, its record is sound, and its cycle tells how many there have been. -/
structure Processor.Sound (p : Processor) : Prop where
  running : p.fault = none
  registers : p.registers.Sound p.config
  cycle : p.registers.cycle = p.cycles % (p.config.width + 1)

namespace Machine

variable {m : Machine Bus}

theorem sound_reset (m : Machine Bus) : m.reset.1.processor.Sound :=
  ⟨rfl, Registers.sound_reset, by simp [reset]⟩

/-- A clock cycle in which nothing goes wrong. -/
theorem step_eq (running : m.processor.fault = none) {signals : Signals} {bit : Int}
    {next : Registers} (lines : m.processor.registers.drive m.processor.config = .ok signals)
    (single : signals.enables ≤ 1) (reply : (m.bus.cycle signals).reply = .ok bit)
    (quiet : signals.ie = false → bit = 0)
    (done : m.processor.registers.transition m.processor.config bit m.processor.irq = .ok next) :
    m.step = {
      state := { processor := m.processor.commit signals next, bus := (m.bus.cycle signals).bus }
      events := (m.bus.cycle signals).events ++
        (m.processor.commit signals next).entered m.processor.registers.state
      status := .ok (if next.state == .halt then .halted else .normal) } := by
  have check : signals.check = .ok () := if_neg (by omega)
  have allowed : ¬(bit ≠ 0 ∧ signals.ie = false) := fun stray => stray.1 (quiet stray.2)
  simp only [step, running, Option.isSome_none, Bool.false_eq_true, if_false, lines, check,
    SerialBus.cycle, reply, answered, if_neg allowed, done]
  rfl

/-- A clock cycle of a sound machine completes. -/
theorem exists_step (h : m.processor.Sound) :
    ∃ signals next, (m.processor.commit signals next).Sound ∧
      m.step = {
        state := { processor := m.processor.commit signals next, bus := (m.bus.cycle signals).bus }
        events := (m.bus.cycle signals).events ++
          (m.processor.commit signals next).entered m.processor.registers.state
        status := .ok (if next.state == .halt then .halted else .normal) } := by
  obtain ⟨signals, lines, single⟩ := h.registers.exists_lines
  obtain ⟨bit, reply, quiet⟩ := m.bus.exists_reply single
  obtain ⟨next, done, sound, cycle⟩ := h.registers.transition bit m.processor.irq
  refine ⟨signals, next, ⟨h.running, sound, ?_⟩, step_eq h.running lines single reply quiet done⟩
  rw [show (m.processor.commit signals next).registers.cycle = next.cycle from rfl, cycle,
    h.cycle, Int.emod_add_emod]
  rfl

theorem exists_transition (h : m.processor.Sound) :
    ∃ bit, m.processor.registers.transition m.processor.config bit m.processor.irq =
      .ok m.step.state.processor.registers := by
  obtain ⟨signals, lines, single⟩ := h.registers.exists_lines
  obtain ⟨bit, reply, quiet⟩ := m.bus.exists_reply single
  obtain ⟨next, done, -, -⟩ := h.registers.transition bit m.processor.irq
  refine ⟨bit, ?_⟩
  rw [step_eq h.running lines single reply quiet done]
  exact done

/-- Overwriting word registers keeps a processor sound, in whichever cycle it happens. -/
theorem sound_overwrite (h : m.processor.Sound)
    (values : List ({ x : Register // x ∈ Register.words } × Int)) :
    (m.act (.overwrite values)).processor.Sound := by
  rw [act]
  induction values generalizing m with
  | nil => exact ⟨h.running, h.registers, h.cycle⟩
  | cons entry rest ih =>
    obtain ⟨⟨x, hx⟩, value⟩ := entry
    have cycle (v : Int) :
        (m.processor.registers.set x v).cycle = m.processor.registers.cycle := by
      simp only [Register.words, List.mem_cons, List.not_mem_nil, or_false] at hx
      rcases hx with rfl | rfl | rfl | rfl | rfl | rfl | rfl <;> rfl
    have fits := Bits.fits_keep m.processor.config.width value
    exact ih (m := { m with processor := m.processor.setRegisters [(x, value)] })
      ⟨h.running, h.registers.set hx fits, (cycle _).trans h.cycle⟩

/-- Every action keeps a machine sound. -/
theorem sound_act (h : m.processor.Sound) (action : Action) :
    (m.act action).processor.Sound ∧
      (m.act action).processor.config = m.processor.config := by
  cases action with
  | clock =>
    obtain ⟨signals, next, sound, step⟩ := exists_step h
    rw [act, step]
    exact ⟨sound, rfl⟩
  | interrupt level => exact ⟨⟨h.running, h.registers, h.cycle⟩, rfl⟩
  | feed | setSwitches | readWord | writeWord => exact ⟨h, rfl⟩
  | overwrite values => exact ⟨sound_overwrite h values, rfl⟩

/-- Only the clock and the host itself write registers. -/
theorem registers_act {action : Action} (spares : action.sparesRegisters = true)
    (idle : action ≠ .clock) :
    (m.act action).processor.registers = m.processor.registers ∧
      (m.act action).processor.config = m.processor.config := by
  cases action with
  | clock => exact absurd rfl idle
  | overwrite => simp [Action.sparesRegisters] at spares
  | _ => exact ⟨rfl, rfl⟩

theorem sound_after (h : m.processor.Sound) (actions : List Action) :
    (m.after actions).processor.Sound ∧
      (m.after actions).processor.config = m.processor.config := by
  induction actions generalizing m with
  | nil => exact ⟨h, rfl⟩
  | cons action rest ih =>
    obtain ⟨sound, config⟩ := sound_act h action
    obtain ⟨sound', config'⟩ := ih sound
    exact ⟨sound', config'.trans config⟩

end Machine

/-! ## Consistent processors -/

/-- What the registers of a running processor always satisfy. -/
structure Processor.Consistent (p : Processor) : Prop where
  running : p.fault = none
  cycle_nonneg : 0 ≤ p.registers.cycle
  cycle_le : p.registers.cycle ≤ p.config.width
  first : p.registers.first = decide (p.registers.cycle = 0)
  lastFour : p.registers.lastFour = decide (p.registers.cycle > (p.config.width : Int) - 4)
  cycle_eq : p.registers.cycle = p.cycles % (p.config.width + 1)
  words : ∀ x ∈ Register.words,
    0 ≤ p.registers.get x ∧ p.registers.get x ≤ Word.mask p.config.width
  opcode : 0 ≤ p.registers.opcode ∧ p.registers.opcode ≤ 15
  base : p.config.variant = .base → p.registers.dispatch = false ∧ p.registers.irq = false
  extended : p.config.variant = .extended → p.registers.state ≠ .indirect ∧
    p.registers.state ≠ .operand ∧ p.registers.indirected = false

theorem Processor.Sound.consistent {p : Processor} (h : p.Sound) : p.Consistent := by
  obtain ⟨c, le, timed, coherent⟩ := h.registers
  have cycle : p.registers.cycle = c := congrArg Registers.cycle timed
  constructor
  case running => exact h.running
  case cycle_nonneg => omega
  case cycle_le => omega
  case first =>
    have first : p.registers.first = (c == 0) := congrArg Registers.first timed
    rw [first, cycle]
    norm_cast
  case lastFour => rw [cycle]; exact congrArg Registers.lastFour timed
  case cycle_eq => exact h.cycle
  case words =>
    intro x hx
    obtain ⟨nonneg, lt⟩ := coherent.words.get hx
    exact ⟨nonneg, by rw [Word.mask]; omega⟩
  case opcode =>
    have lt : p.registers.opcode < 16 := coherent.opcode.2
    exact ⟨coherent.opcode.1, by omega⟩
  case base => exact fun e => coherent.plain ((Config.extended_eq_false_iff _).2 e)
  case extended =>
    intro e
    obtain ⟨native, direct⟩ := coherent.native ((Config.extended_eq_true_iff _).2 e)
    refine ⟨fun hs => ?_, fun hs => ?_, direct⟩ <;> simp [hs, State.baseOnly] at native

/-- At any moment of any session that begins with a reset, the processor is consistent, and the next
clock cycle completes without a fault and without an error. -/
theorem Machine.session_consistent (m : Machine Bus) (actions : List Action) :
    (m.reset.1.after actions).processor.config = m.processor.config ∧
      (m.reset.1.after actions).processor.Consistent ∧
      ((m.reset.1.after actions).step.status = .ok .normal ∨
        (m.reset.1.after actions).step.status = .ok .halted) := by
  obtain ⟨sound, config⟩ := sound_after m.sound_reset actions
  obtain ⟨signals, next, -, step⟩ := exists_step sound
  refine ⟨config, sound.consistent, ?_⟩
  rw [step]
  cases next.state == .halt
  · exact Or.inl rfl
  · exact Or.inr rfl

end SerialMachine
