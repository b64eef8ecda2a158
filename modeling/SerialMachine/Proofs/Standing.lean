import SerialMachine.Proofs.Decoding
import SerialMachine.Proofs.Watchpoints

/-!
# Standing in a halt

A halt lasts until an enabled interrupt is requested in the last cycle of its state. Main statement:
a machine that has come to a halt drives nothing but `stop` and leaves programs and devices alone,
for as long as no such cycle comes; the first one ends the halt, and one state later the handler of
the interrupt is fetched.
-/

namespace SerialMachine

namespace Registers

/-- Whether an interrupt can end a halt. -/
def heedsInterrupts (config : Config) (r : Registers) : Bool :=
  config.extended && Flag.isSet config.variant .interruptEnable r.flags

/-- Whether a cycle that finds a halt ends it, with the interrupt line at a level: the last cycle of
the state does when an enabled interrupt is requested. -/
def wakes (config : Config) (level : Bool) (r : Registers) : Bool :=
  r.heedsInterrupts config && r.cycle == config.width && (r.irq || level)

/-- The two records differ in no more than the interrupt latch and the sequence of cycles. -/
def Alike (config : Config) (r s : Registers) : Prop :=
  ∃ choice irq cycle, s = { r with choice, irq }.timed config cycle

variable {config : Config} {r s t : Registers}

theorem Alike.trans (first : r.Alike config s) (second : s.Alike config t) : r.Alike config t := by
  obtain ⟨_, _, _, rfl⟩ := first
  obtain ⟨choice, irq, cycle, rfl⟩ := second
  exact ⟨choice, irq, cycle, rfl⟩

theorem Alike.get_eq (h : r.Alike config s) {x : Register} (apart : x ≠ .cycle) :
    s.get x = r.get x := by
  obtain ⟨_, _, _, rfl⟩ := h
  cases x <;> first | rfl | exact absurd rfl apart

theorem Alike.heedsInterrupts_eq (h : r.Alike config s) :
    s.heedsInterrupts config = r.heedsInterrupts config := by
  obtain ⟨_, _, _, rfl⟩ := h
  rfl

/-- The record with which a halt ends. -/
def woken (config : Config) (r : Registers) : Registers :=
  { r with state := .fetch, choice := .fetch, dispatch := true, irq := true }.timed config 0

theorem Alike.woken_eq (h : r.Alike config s) : s.woken config = r.woken config := by
  obtain ⟨choice, irq, cycle, rfl⟩ := h
  rfl

theorem get_woken (config : Config) (r : Registers) {x : Register} (apart : x ≠ .cycle) :
    (r.woken config).get x = r.get x := by
  cases x <;> first | rfl | exact absurd rfl apart

/-- A clock cycle that finds a halt. -/
theorem Sound.transition_halt (h : r.Sound config) (halted : r.state = .halt) (bit : Int)
    (irq : Bool) : ∃ next, r.transition config bit irq = .ok next ∧
      if r.wakes config irq then next = r.woken config else r.Alike config next := by
  obtain ⟨c, le, worked, cycle, work, -, -, proceeds, enters⟩ := h.exists_worked bit irq
  have state : (r.latched config irq).state = .halt := halted
  rw [Registers.work, state] at work
  replace work := Except.ok.inj work
  have last : (Timing.markers c config.width).last = (r.cycle == config.width) := by rw [cycle]; rfl
  have condition : ((Timing.markers c config.width).last && config.extended &&
      Flag.isSet config.variant .interruptEnable (r.latched config irq).flags &&
      (r.latched config irq).irq) = r.wakes config irq := by
    rw [last, wakes, heedsInterrupts, latched]
    cases config.extended <;> cases r.cycle == config.width <;> simp
  rw [Cycle.halt, condition] at work
  rcases le.lt_or_eq with lt | rfl
  -- Only the last cycle of the state can end the halt.
  · have apart : (r.cycle == config.width) = false := by
      rw [cycle, beq_eq_false_iff_ne]
      omega
    have early : r.wakes config irq = false := by
      rw [wakes, apart, Bool.and_false, Bool.false_and]
    refine ⟨_, proceeds lt, ?_⟩
    simp only [early, Bool.false_eq_true, if_false] at work ⊢
    exact ⟨.halt, _, c + 1, by rw [← work]; rfl⟩
  · obtain ⟨-, entered⟩ := enters rfl
    refine ⟨_, entered, ?_⟩
    cases asked : r.wakes config irq with
    | true =>
      have latch : (r.latched config irq).irq = true := by
        rw [asked] at condition
        simp only [Bool.and_eq_true] at condition
        exact condition.2
      simp only [asked, if_true] at work ⊢
      rw [← work, woken, ← latch]
      rfl
    | false =>
      simp only [asked, Bool.false_eq_true, if_false] at work ⊢
      refine ⟨.halt, (r.latched config irq).irq, 0, ?_⟩
      rw [← work, entering, timed, timed, halted]
      rfl

/-- Up to its last cycle, a fetch that serves an interrupt stays one. -/
theorem dispatches_opening (fetch : r.state = .fetch) (dispatch : r.dispatch = true)
    (level : Nat → Bool) {k : Nat} (lt : k < config.width) :
    ((r.opening config level k).swept config 0 k).state = .fetch ∧
      ((r.opening config level k).swept config 0 k).dispatch = true := by
  obtain ⟨state, -, -, still⟩ := setUp_frame config (r.latched config (level 0))
  have begun : (r.opening config level k).state = .fetch := state.trans fetch
  have going : (r.opening config level k).dispatch = true := by
    refine still.trans ?_
    simp [latched, fetch, dispatch]
  refine ⟨(state_swept lt 0 _).trans begun, ?_⟩
  have early : (k != config.width) = true := by simpa using lt.ne
  simp only [swept, begun, going, if_true, early]

/-- No data bit moves while an interrupt is served. -/
theorem quiet_of_dispatch {signals : Signals} (lines : r.drive config = .ok signals)
    (fetch : r.state = .fetch) (dispatch : r.dispatch = true) :
    signals.ie = false ∧ signals.oe = false := by
  have still : ¬(signals.ie = true ∨ signals.oe = true) := fun strobe => by
    have moves := moves_of_drive lines strobe
    simp [fetch, dispatch] at moves
  simpa using still

end Registers

/-- Without a strobe for a data bit, a cycle of the bus leaves the devices alone. -/
theorem Bus.devices_cycle (bus : Bus) {signals : Signals} (ie : signals.ie = false)
    (oe : signals.oe = false) : (bus.cycle signals).bus.memory = bus.memory ∧
      (bus.cycle signals).bus.peripherals = bus.peripherals := by
  unfold cycle
  split
  · exact ⟨rfl, rfl⟩
  · simp only [ie, oe, Bool.false_eq_true, if_false]
    split <;> exact ⟨rfl, rfl⟩

namespace Machine

variable {s m : Machine Bus} {level : Nat → Bool}

/-- A clock cycle that finds a halt drives nothing but `stop`. -/
theorem clocked_halt (h : m.processor.Sound) (halted : m.processor.halted = true) (level : Bool) :
    (m.clocked level).state.bus = m.bus ∧
      (m.clocked level).state.processor.signals = { stop := true } ∧
      if m.processor.registers.wakes m.processor.config level then
        (m.clocked level).state.processor.registers =
          m.processor.registers.woken m.processor.config
      else m.processor.registers.Alike m.processor.config
        (m.clocked level).state.processor.registers := by
  have state : m.processor.registers.state = .halt := by
    simpa [Processor.halted] using halted
  have lines : m.processor.registers.drive m.processor.config = .ok { stop := true } := by
    rw [Registers.drive, state]
    rfl
  obtain ⟨next, done, comes⟩ := h.registers.transition_halt state 0 level
  have quiet : m.bus.cycle { stop := true } = { bus := m.bus, events := [], reply := .ok 0 } := rfl
  rw [clocked_eq h.running lines (Nat.zero_le 1) rfl (fun _ => rfl) done, quiet]
  exact ⟨rfl, rfl, comes⟩

/-- One machine stands in the halt that another one stands in. -/
structure Standing (s m : Machine Bus) : Prop where
  sound : m.processor.Sound
  config : m.processor.config = s.processor.config
  registers : s.processor.registers.Alike s.processor.config m.processor.registers
  bus : m.bus = s.bus

theorem Standing.refl (h : s.processor.Sound) : s.Standing s := by
  obtain ⟨c, -, timed, -⟩ := h.registers
  exact ⟨h, rfl, ⟨s.processor.registers.choice, s.processor.registers.irq, c, timed⟩, rfl⟩

theorem Standing.halted (h : s.Standing m) (halted : s.processor.halted = true) :
    m.processor.halted = true := by
  obtain ⟨_, _, _, registers⟩ := h.registers
  rw [Processor.halted, registers]
  exact halted

/-- None of the next `n` cycles ends the halt. -/
def Asleep (s : Machine Bus) (level : Nat → Bool) (n : Nat) : Prop :=
  ∀ k < n, (s.run level k).processor.registers.wakes s.processor.config (level k) = false

/-- While nothing ends the halt, the machine stands in it. -/
theorem standing_run (h : s.processor.Sound) (halted : s.processor.halted = true) {n : Nat}
    (asleep : s.Asleep level n) : s.Standing (s.run level n) := by
  induction n with
  | zero => exact .refl h
  | succ n ih =>
    have before := ih fun k lt => asleep k (by omega)
    obtain ⟨bus, -, comes⟩ := clocked_halt before.sound (before.halted halted) (level n)
    obtain ⟨sound, config⟩ := sound_clocked before.sound (level n)
    rw [before.config, asleep n n.lt_succ_self, if_neg (by simp)] at comes
    exact ⟨sound, config.trans before.config, before.registers.trans comes,
      bus.trans before.bus⟩

/-- The cycle after any that do not end the halt. -/
theorem Asleep.clocked (h : s.processor.Sound) (halted : s.processor.halted = true) {n : Nat}
    (asleep : s.Asleep level n) :
    (s.run level (n + 1)).bus = s.bus ∧
      (s.run level (n + 1)).processor.signals = { stop := true } ∧
      if (s.run level n).processor.registers.wakes s.processor.config (level n) then
        (s.run level (n + 1)).processor.registers =
          s.processor.registers.woken s.processor.config
      else s.processor.registers.Alike s.processor.config
        (s.run level (n + 1)).processor.registers := by
  have standing := standing_run h halted asleep
  obtain ⟨bus, signals, comes⟩ := clocked_halt standing.sound (standing.halted halted) (level n)
  rw [standing.config] at comes
  refine ⟨bus.trans standing.bus, signals, ?_⟩
  split at comes
  · next wakes =>
    rw [if_pos wakes]
    exact comes.trans standing.registers.woken_eq
  · next wakes =>
    rw [if_neg wakes]
    exact standing.registers.trans comes

/-- A halt is ended by nothing else. -/
theorem Asleep.halted_succ (h : s.processor.Sound) (halted : s.processor.halted = true) {n : Nat}
    (asleep : s.Asleep level n) : (s.run level (n + 1)).processor.halted =
      !(s.run level n).processor.registers.wakes s.processor.config (level n) := by
  obtain ⟨-, -, comes⟩ := asleep.clocked h halted
  cases wakes : (s.run level n).processor.registers.wakes s.processor.config (level n) with
  | true =>
    rw [wakes, if_pos rfl] at comes
    rw [Processor.halted, comes]
    rfl
  | false =>
    rw [wakes, if_neg (by simp)] at comes
    obtain ⟨_, _, _, registers⟩ := comes
    rw [Processor.halted, registers]
    exact halted

theorem asleep_of_next {n : Nat} (next : ∀ k < n, s.Asleep level k →
    (s.run level k).processor.registers.wakes s.processor.config (level k) = false) :
    s.Asleep level n := by
  intro k lt
  induction k using Nat.strong_induction_on with
  | _ k ih => exact next k lt fun j below => ih j below (by omega)

theorem asleep_of_halted (h : s.processor.Sound) {n : Nat}
    (lasts : ∀ k ≤ n, (s.run level k).processor.halted = true) : s.Asleep level n := by
  refine asleep_of_next fun k lt asleep => ?_
  have still := asleep.halted_succ h (lasts 0 n.zero_le)
  rw [lasts (k + 1) lt] at still
  simpa using still.symm

theorem asleep_of_deaf (h : s.processor.Sound) (halted : s.processor.halted = true)
    (deaf : s.processor.registers.heedsInterrupts s.processor.config = false) (n : Nat) :
    s.Asleep level n := by
  refine asleep_of_next fun k _ asleep => ?_
  rw [Registers.wakes, (standing_run h halted asleep).registers.heedsInterrupts_eq, deaf,
    Bool.false_and, Bool.false_and]

/-! ## The dispatch of an interrupt -/

/-- The cycles of a dispatch move the registers on as if nothing arrived on the bus, and leave the
devices alone. -/
structure Dispatching (m : Machine Bus) (level : Nat → Bool) (k : Nat) (e : Machine Bus) :
    Prop where
  sound : e.processor.Sound
  config : e.processor.config = m.processor.config
  registers : m.processor.registers.along m.processor.config (fun _ => 0) level k =
    .ok e.processor.registers
  memory : e.bus.memory = m.bus.memory
  peripherals : e.bus.peripherals = m.bus.peripherals

/-- One more cycle of a dispatch. -/
theorem Dispatching.clocked {e : Machine Bus} {k : Nat} (h : m.Dispatching level k e)
    (fetch : e.processor.registers.state = .fetch)
    (dispatch : e.processor.registers.dispatch = true) :
    m.Dispatching level (k + 1) (e.clocked (level k)).state := by
  obtain ⟨signals, lines, single⟩ := h.sound.registers.exists_lines
  obtain ⟨ie, oe⟩ := Registers.quiet_of_dispatch lines fetch dispatch
  obtain ⟨bit, reply, quiet⟩ := e.bus.exists_reply single
  obtain rfl := quiet ie
  obtain ⟨next, done, -, -⟩ := h.sound.registers.transition 0 (level k)
  obtain ⟨memory, peripherals⟩ := e.bus.devices_cycle ie oe
  obtain ⟨sound, config⟩ := sound_clocked h.sound (level k)
  have along : m.processor.registers.along m.processor.config (fun _ => 0) level (k + 1) =
      .ok next := by
    rw [Registers.along, h.registers, ← h.config]
    exact done
  rw [clocked_eq h.sound.running lines single reply quiet done] at sound config ⊢
  exact ⟨sound, config.trans h.config, along, memory.trans h.memory,
    peripherals.trans h.peripherals⟩

theorem dispatching_run (h : m.processor.Sound) (first : m.processor.registers.first = true)
    (fetch : m.processor.registers.state = .fetch)
    (dispatch : m.processor.registers.dispatch = true) (level : Nat → Bool) {k : Nat}
    (le : k ≤ m.processor.config.width + 1) : m.Dispatching level k (m.run level k) := by
  induction k with
  | zero => exact ⟨h, rfl, rfl, rfl, rfl⟩
  | succ k ih =>
    have before := ih (by omega)
    cases k with
    | zero => exact before.clocked fetch dispatch
    | succ j =>
      obtain ⟨coherent, begins⟩ := h.begins_of_first first
      have lt : j < m.processor.config.width := by omega
      have arrives : ∀ k < m.processor.config.width, (0 : Int) = Bits.bit k 0 :=
        fun k _ => (Bits.bit_of_zero k).symm
      have registers := Except.ok.inj
        (before.registers.symm.trans (Registers.along_data coherent begins arrives lt))
      obtain ⟨state, still⟩ := Registers.dispatches_opening fetch dispatch level lt
      exact before.clocked (registers ▸ state) (registers ▸ still)

/-- The machine `e` is at the handler of an interrupt that has ended the halt of `s`. -/
structure Interrupts (s e : Machine Bus) : Prop where
  atFetch : e.processor.atFetch = true
  pc : e.processor.registers.pc = s.processor.registers.shadow
  shadow : e.processor.registers.shadow = s.processor.registers.pc
  halt : Flag.isSet .extended .halt e.processor.registers.flags = false
  interruptEnable : Flag.isSet .extended .interruptEnable e.processor.registers.flags = false
  /-- All other bits of the flags register are as they were. -/
  flags : ∀ k, Flag.bit? .extended .halt ≠ some k → Flag.bit? .extended .interruptEnable ≠ some k →
    Bits.test k e.processor.registers.flags = Bits.test k s.processor.registers.flags
  acc : e.processor.registers.acc = s.processor.registers.acc
  timer : e.processor.registers.timer = s.processor.registers.timer
  compare : e.processor.registers.compare = s.processor.registers.compare
  memory : e.bus.memory = s.bus.memory
  peripherals : e.bus.peripherals = s.bus.peripherals

/-- One state after its end, a halt has given way to the handler. -/
theorem interrupts_run {e : Machine Bus} (sound : e.processor.Sound)
    (config : e.processor.config = s.processor.config)
    (woken : e.processor.registers = s.processor.registers.woken s.processor.config)
    (bus : e.bus = s.bus) (level : Nat → Bool) :
    s.Interrupts (e.run level (s.processor.config.width + 1)) := by
  have first : e.processor.registers.first = true := by rw [woken]; rfl
  have state : e.processor.registers.state = .fetch := by rw [woken]; rfl
  have dispatch : e.processor.registers.dispatch = true := by rw [woken]; rfl
  obtain ⟨coherent, begins⟩ := sound.begins_of_first first
  have served := dispatching_run sound first state dispatch level le_rfl
  have along := served.registers.symm.trans
    (Registers.along_passed (w := 0) coherent begins fun k _ => (Bits.bit_of_zero k).symm)
  have registers := Except.ok.inj along
  rw [Registers.passed_dispatch level 0 state dispatch coherent.words, config, woken] at registers
  have flags : (e.run level (s.processor.config.width + 1)).processor.registers.flags =
      Flag.put .extended .halt false
        (Flag.put .extended .interruptEnable false s.processor.registers.flags) := by
    rw [registers]
    rfl
  have memory := served.memory
  have peripherals := served.peripherals
  rw [config] at memory peripherals
  constructor
  case atFetch => rw [Processor.atFetch, registers]; rfl
  case pc => rw [registers]; rfl
  case shadow => rw [registers]; rfl
  case halt => rw [flags]; exact Flag.isSet_put_self rfl false _
  case interruptEnable =>
    rw [flags, Flag.isSet_put_of_ne (by decide)]
    exact Flag.isSet_put_self rfl false _
  case flags =>
    intro k halt enable
    rw [flags, Flag.test_put_of_ne halt, Flag.test_put_of_ne enable]
  case acc => rw [registers]; rfl
  case timer => rw [registers]; rfl
  case compare => rw [registers]; rfl
  case memory => rw [memory, bus]
  case peripherals => rw [peripherals, bus]

/-- What comes of the halt that `s` stands in. -/
structure Halts (s : Machine Bus) (level : Nat → Bool) : Prop where
  /-- While it lasts, every cycle drives `stop` alone. -/
  signals : ∀ n, (∀ k ≤ n, (s.run level k).processor.halted = true) →
    (s.run level (n + 1)).processor.signals = { stop := true }
  /-- Nor does a cycle of it change what any register or device holds. -/
  registers : ∀ n, (∀ k ≤ n, (s.run level k).processor.halted = true) →
    ∀ x : Register, x ≠ .cycle →
      (s.run level (n + 1)).processor.registers.get x = s.processor.registers.get x
  bus : ∀ n, (∀ k ≤ n, (s.run level k).processor.halted = true) →
    (s.run level (n + 1)).bus = s.bus
  /-- A halt that interrupts cannot end lasts. -/
  lasts : s.processor.registers.heedsInterrupts s.processor.config = false →
    ∀ n, (s.run level n).processor.halted = true
  /-- Any other one lasts up to the first cycle that ends it. -/
  stays : s.processor.registers.heedsInterrupts s.processor.config = true →
    ∀ n, s.Asleep level n → (s.run level n).processor.halted = true ∧
      (s.run level (n + 1)).processor.halted =
        !(s.run level n).processor.registers.wakes s.processor.config (level n)
  /-- The handler of the interrupt follows. -/
  interrupts : ∀ n, s.Asleep level n →
    (s.run level n).processor.registers.wakes s.processor.config (level n) = true →
    s.Interrupts (s.run level (n + 1 + (s.processor.config.width + 1)))

/-- Any halt that a session has come to, found in any cycle of it, comes to this. -/
theorem halts_of_halted {m : Machine Bus} {before : List Action}
    (halted : (m.reset.1.after before).processor.halted = true) (level : Nat → Bool) :
    (m.reset.1.after before).Halts level := by
  obtain ⟨sound, -⟩ := sound_after m.sound_reset before
  generalize m.reset.1.after before = s at halted sound
  constructor
  case signals => exact fun n lasts => ((asleep_of_halted sound lasts).clocked sound halted).2.1
  case bus => exact fun n lasts => ((asleep_of_halted sound lasts).clocked sound halted).1
  case registers =>
    intro n lasts x apart
    obtain ⟨-, -, comes⟩ := (asleep_of_halted sound lasts).clocked sound halted
    split at comes
    · rw [comes, Registers.get_woken s.processor.config _ apart]
    · exact comes.get_eq apart
  case lasts =>
    exact fun deaf n =>
      (standing_run sound halted (asleep_of_deaf sound halted deaf n)).halted halted
  case stays =>
    exact fun _ n asleep =>
      ⟨(standing_run sound halted asleep).halted halted, asleep.halted_succ sound halted⟩
  case interrupts =>
    intro n asleep wakes
    have standing := standing_run sound halted asleep
    obtain ⟨bus, -, woken⟩ := asleep.clocked sound halted
    rw [if_pos wakes] at woken
    obtain ⟨awake, config⟩ := sound_clocked standing.sound (level n)
    rw [run_add]
    exact interrupts_run awake (config.trans standing.config) woken bus _

/-- A machine with words of ten bits, and a program that enables interrupts and halts. -/
def drowsy : Machine Bus :=
  ((Emulator.make { config := { width := 10, variant := .extended } }).after
    [.loadWords [0x294, 0x19F, 0x381] 0]).machine

/-- An interrupt that is requested in one cycle only ends a halt that it finds. -/
theorem drowsy_interrupts :
    (drowsy.reset.1.after (List.replicate 121 .clock)).processor.halted = true ∧
      (drowsy.reset.1.after (List.replicate 121 .clock)).Interrupts
        ((drowsy.reset.1.after (List.replicate 121 .clock)).run (· == 5) 22) := by
  have halted : (drowsy.reset.1.after (List.replicate 121 .clock)).processor.halted = true := by
    decide +kernel
  have asleep : (drowsy.reset.1.after (List.replicate 121 .clock)).Asleep (· == 5) 10 := by
    unfold Asleep
    decide +kernel
  have width :
      (drowsy.reset.1.after (List.replicate 121 .clock)).processor.config.width = 10 := by
    decide +kernel
  have handler := (halts_of_halted halted _).interrupts 10 asleep (by decide +kernel)
  rw [width] at handler
  exact ⟨halted, handler⟩

end Machine

end SerialMachine
