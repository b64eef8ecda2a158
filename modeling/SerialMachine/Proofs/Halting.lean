import SerialMachine.Emulator
import SerialMachine.Proofs.Attempts
import SerialMachine.Proofs.Encoding
import SerialMachine.Proofs.Instructions

/-!
# Which machines can halt

A machine halts by fetching an instruction while the halt flag is set. Main statement: where a word
is too narrow for that flag, nothing that a host or a program does halts the machine; in all other
configurations that an emulator can be built of there is a program of three words that does.
-/

namespace SerialMachine

open Bits (bit keep test weight)

/-! ## Words without a halt flag -/

namespace Registers

variable {config : Config} {r worked : Registers} {bit : Int} {m : Timing.Markers}

/-- The record is neither that of a halt nor about to become one. -/
def Restless (r : Registers) : Prop :=
  r.state ≠ .halt ∧ r.choice ≠ .halt

theorem Restless.set (h : r.Restless) (x : Register) (value : Int) : (r.set x value).Restless := by
  cases x <;> exact h

theorem choice_fetchChoice {b : Int} (r : Registers)
    (unset : Flag.isSet config.variant .halt (Cycle.fetchChoice config b r).flags = false) :
    (Cycle.fetchChoice config b r).choice ≠ .halt := by
  rw [fetchChoice_eq] at unset ⊢
  simp only [State.afterFetch, unset, Bool.false_eq_true, if_false]
  split_ifs <;> simp

theorem choice_fetch {b : Int} (chosen : r.choice ≠ .halt)
    (unset : Flag.isSet config.variant .halt (Cycle.fetch config b m r).flags = false) :
    (Cycle.fetch config b m r).choice ≠ .halt := by
  have counted : (Cycle.fetchBit config b m (Cycle.fetchFlags config r)).choice = r.choice := by
    rw [fetchBit_fetchFlags]
  unfold Cycle.fetch at unset ⊢
  split at unset
  · next dispatch =>
    rw [if_pos dispatch, Cycle.dispatch]
    split
    · simp
    · exact chosen
  · next plain =>
    rw [if_neg plain]
    split at unset
    · next first =>
      rw [if_pos first, Cycle.fetchSetUp]
      simp only
      split <;> simp
    · next data =>
      rw [if_neg data]
      simp only at unset ⊢
      split at unset
      · next last =>
        rw [if_pos last]
        exact choice_fetchChoice _ unset
      · next more =>
        rw [if_neg more]
        split
        · exact fun halts => chosen (counted.symm.trans halts)
        · exact fun halts => chosen (counted.symm.trans halts)

/-- Without the halt flag no cycle decides for a halt. -/
theorem Restless.work {b : Int} (h : r.Restless) (work : r.work config b m = .ok worked)
    (unset : Flag.isSet config.variant .halt worked.flags = false) : worked.choice ≠ .halt := by
  obtain ⟨running, chosen⟩ := h
  unfold Registers.work at work
  cases hs : r.state with
  | halt => exact absurd hs running
  | fetch =>
    simp only [hs, Except.ok.injEq] at work
    exact work ▸ choice_fetch chosen (work ▸ unset)
  | execute =>
    simp only [hs, Cycle.execute] at work
    cases found : r.operation config with
    | error => simp [found, bind, Except.bind] at work
    | ok operation =>
      simp only [found, bind, Except.bind] at work
      split at work
      · cases work
        have follows : State.Follows config .execute
            (Cycle.executeSetUp config operation r).choice := follows_executeChoice _ operation
        intro halts
        simp [halts, State.Follows, State.successors] at follows
      · rw [(frame_executeBit work).1]
        exact chosen
  | _ =>
    simp only [hs, Cycle.reset, Cycle.indirect, Cycle.operand, Cycle.store, Cycle.load,
      Cycle.advance] at work
    cases work
    split
    · simp
    · exact chosen

/-- Where a word has no room for the halt flag, a restless record stays one. -/
theorem Restless.transition (h : r.Restless) (sound : r.Sound config)
    (lacks : ∀ k ∈ Flag.bit? config.variant .halt, config.width ≤ k) {b : Int} {irq : Bool}
    {next : Registers} (done : r.transition config b irq = .ok next) : next.Restless := by
  obtain ⟨c, le, worked, -, work, same, coherent, proceeds, enters⟩ := sound.exists_worked b irq
  have unset : Flag.isSet config.variant .halt worked.flags = false := by
    unfold Flag.isSet
    split
    · next k found => exact Bits.test_of_fits coherent.words.flags (lacks k found)
    · rfl
  have latched : (r.latched config irq).Restless := h
  have chosen := latched.work work unset
  rcases le.lt_or_eq with lt | rfl
  · cases done.symm.trans (proceeds lt)
    exact ⟨same ▸ h.1, chosen⟩
  · cases done.symm.trans (enters rfl).2
    exact ⟨chosen, chosen⟩

end Registers

namespace Machine

variable {m : Machine Bus}

theorem restless_act (h : m.processor.Sound) (restless : m.processor.registers.Restless)
    (lacks : ∀ k ∈ Flag.bit? m.processor.config.variant .halt, m.processor.config.width ≤ k)
    (action : Action) : (m.act action).processor.registers.Restless := by
  cases action with
  | clock =>
    obtain ⟨bit, done⟩ := exists_transition h
    exact restless.transition h.registers lacks done
  | overwrite values =>
    exact List.foldlRecOn _ _ restless fun r still entry _ => still.set entry.1 _
  | interrupt | feed | setSwitches | readWord | writeWord => exact restless

theorem restless_after (h : m.processor.Sound) (restless : m.processor.registers.Restless)
    (lacks : ∀ k ∈ Flag.bit? m.processor.config.variant .halt, m.processor.config.width ≤ k)
    (actions : List Action) : (m.after actions).processor.registers.Restless := by
  induction actions generalizing m with
  | nil => exact restless
  | cons action rest ih =>
    obtain ⟨sound, config⟩ := sound_act h action
    exact ih sound (restless_act h restless lacks action) (config.symm ▸ lacks)

/-- Where a word has no room for the halt flag, nothing halts a machine. -/
theorem not_halted_after (lacks : ∀ k ∈ Flag.bit? m.processor.config.variant .halt,
    m.processor.config.width ≤ k) (actions : List Action) :
    (m.reset.1.after actions).processor.halted = false := by
  have begins : m.reset.1.processor.registers.Restless := ⟨by simp [reset], by simp [reset]⟩
  have restless := restless_after m.sound_reset begins lacks actions
  simpa [Processor.halted] using restless.1

end Machine

/-! ## One instruction -/

/-- The flags that keep the next instruction from being executed as it stands. -/
def Flag.governing : List Flag :=
  [.halt, .reset, .interruptEnable, .indirect]

/-- The bus delivers a word at an address, and no device takes notice. -/
def Bus.Supplies (bus : Bus) (address word : Int) : Prop :=
  (bus.read address).1 = word ∧ (bus.read address).2.1 = bus

namespace WordMachine

/-- What a program can rely on at its next instruction: accumulator, program counter and devices,
and that the instruction is executed. -/
structure Clear (config : Config) (acc pc : Int) (bus : Bus) (m : WordMachine) : Prop where
  acc : m.acc = acc
  pc : m.pc = pc
  bus : m.bus = bus
  flags : ∀ flag ∈ Flag.governing, m.isSet config flag = false

variable {config : Config} {acc pc : Int} {bus : Bus} {m : WordMachine} {w x : Int}

/-- A fetch changes the flags that describe the accumulator only. -/
theorem isSet_fetch {flag : Flag} (governs : flag ∈ Flag.governing) (m : WordMachine) :
    (m.fetch config).2.isSet config flag = m.isSet config flag := by
  have apart : flag ≠ .zero ∧ flag ≠ .parity ∧ flag ≠ .negative := by
    simp only [Flag.governing, List.mem_cons, List.not_mem_nil, or_false] at governs
    rcases governs with rfl | rfl | rfl | rfl <;> decide
  simp only [isSet, WordMachine.fetch, refresh, Flag.isSet_put_of_ne apart.1,
    Flag.isSet_put_of_ne apart.2.1, Flag.isSet_put_of_ne apart.2.2]
  rfl

theorem Clear.fetch (h : m.Clear config acc pc bus) (supplies : bus.Supplies pc w) :
    (m.fetch config).1 = w ∧ (m.fetch config).2.Clear config acc pc bus := by
  obtain ⟨rfl, rfl, rfl, flags⟩ := h
  exact ⟨supplies.1, rfl, rfl, supplies.2,
    fun flag governs => (isSet_fetch governs m).trans (flags flag governs)⟩

theorem clear_restart (config : Config) (m : WordMachine) :
    m.restart.Clear config 0 0 m.bus := by
  refine ⟨rfl, rfl, rfl, fun flag _ => ?_⟩
  unfold isSet Flag.isSet
  split
  · exact Bits.test_of_zero _
  · rfl

theorem Clear.load (h : m.Clear config acc pc bus) (supplies : bus.Supplies x w) :
    (m.execute config .load x).Clear config w (keep config.width (pc + 1)) bus := by
  obtain ⟨rfl, rfl, rfl, flags⟩ := h
  exact ⟨supplies.1, rfl, supplies.2, flags⟩

theorem Clear.setFlags (h : m.Clear config acc pc bus) :
    (m.execute config .set 1).flags = acc := by
  have wide := config.eight_le_width
  have below : Word.Fits (Word.selectPlace config.width) 1 :=
    Bits.fits_mono (m := 1) ⟨by decide, by decide⟩ (by rw [Word.selectPlace]; omega)
  have unselected : test (Word.selectPlace config.width) 1 = false :=
    Bits.test_of_fits below le_rfl
  have target : Instruction.target? config.variant config.width .set 1 = some .flags := by
    simp only [Instruction.target?, unselected, Bool.false_eq_true, if_false]
    cases config.variant <;> rfl
  simp only [execute, target]
  exact h.acc

end WordMachine

namespace Machine

variable {m : Machine Bus} {config : Config} {acc pc : Int} {bus : Bus} {w : Int}
  {reports : List Event}

/-- A sound machine is at the fetch of an instruction. -/
structure Poised (config : Config) (m : Machine Bus) : Prop where
  ready : m.Ready
  sound : m.processor.Sound
  config : m.processor.config = config
  atFetch : m.processor.atFetch = true

theorem poised_run (underway : m.Underway) (sound : m.processor.Sound)
    (same : m.processor.config = config) {level : Nat → Bool} {cycles : Nat}
    (atFetch : (m.run level cycles).processor.atFetch = true) :
    (m.run level cycles).Poised config := by
  obtain ⟨sound', same'⟩ := sound_run sound level cycles
  have first : (m.run level cycles).processor.registers.first = true := by
    simp only [Processor.atFetch, Bool.and_eq_true] at atFetch
    exact atFetch.1.2
  exact ⟨(underway_run underway level cycles).ready first, sound', same'.trans same, atFetch⟩

/-- An instruction that no flag keeps from being executed is executed. -/
theorem Poised.executes (h : m.Poised config) (clear : (m.view reports).Clear config acc pc bus)
    (supplies : bus.Supplies pc w) (level : Nat → Bool) :
    ∃ (cycles : Nat) (v : WordMachine) (seen : List Event), v.Clear config acc pc bus ∧
      (m.run level cycles).Poised config ∧ (m.run level cycles).view seen =
        v.execute config (config.decode w).operation (config.decode w).operand := by
  obtain ⟨w', s, v, f⟩ := h.ready.exists_fetches h.atFetch level reports
  have fetched := clear.fetch supplies
  rw [← h.config, f.fetch] at fetched
  obtain ⟨rfl, clear⟩ := fetched
  have unset (flag : Flag) (governs : flag ∈ Flag.governing) :=
    (f.isSet flag).trans (clear.flags flag governs)
  have chosen : Cycle.fetchChoice m.processor.config (bit (m.processor.config.width - 1) w') s =
      { s with choice := .execute } := by
    simp [Cycle.fetchChoice, unset .halt (by decide), unset .reset (by decide),
      unset .interruptEnable (by decide), unset .indirect (by decide)]
  obtain ⟨cycles, performs⟩ := f.runsOn_execute chosen
  rw [h.config] at clear performs
  exact ⟨cycles, v, _, clear,
    poised_run (Or.inl h.ready) h.sound h.config performs.atFetch, performs.machine⟩

/-- An instruction that is fetched while the halt flag is set halts the machine. -/
theorem Poised.halts (h : m.Poised config)
    (halt : Flag.isSet config.variant .halt m.processor.registers.flags = true)
    (level : Nat → Bool) : (m.run level (config.width + 1)).processor.halted = true := by
  obtain ⟨w, s, v, f⟩ := h.ready.exists_fetches h.atFetch level []
  have fetched : ((m.view []).fetch m.processor.config).2.isSet m.processor.config .halt =
      (m.view []).isSet m.processor.config .halt := WordMachine.isSet_fetch (by decide) _
  rw [f.fetch] at fetched
  rw [← h.config] at halt ⊢
  exact (f.performs_halt (fetched.trans halt)).halted

end Machine

/-! ## A program that halts -/

/-- Below the select bit the bus delivers what the memory holds. -/
theorem Bus.supplies_of_get {bus : Bus} {address word : Int}
    (below : Word.Fits (Word.selectPlace bus.width) address)
    (holds : bus.memory.get address = word) (fits : Word.Fits bus.width word) :
    bus.Supplies address word := by
  have unselected : bus.selects address = false := Bits.test_of_fits below le_rfl
  have decoded : bus.decoded address = address :=
    Bits.keep_eq_self (Bits.fits_mono below (by rw [Word.selectPlace]; omega))
  unfold Supplies read
  rw [if_neg (by simp [unselected]), decoded, Memory.read, holds]
  exact ⟨Bits.keep_eq_self fits, rfl⟩

/-- The word that holds an operation of the variant and an operand. -/
def Config.word (config : Config) (operation : Operation) (operand : Int) : Int :=
  ((Operation.opcode? config.variant operation).getD 0 : Nat) * weight (config.width - 4) + operand

/-- Operands of four bits have room in every word. -/
theorem Config.decode_word (config : Config) (operation : Operation) (operand : Int)
    (there : operation ∈ Operation.table config.variant) (fits : Word.Fits 4 operand) :
    Word.Fits config.width (config.word operation operand) ∧
      (config.decode (config.word operation operand)).operation = operation ∧
      (config.decode (config.word operation operand)).operand = operand := by
  have wide := config.eight_le_width
  obtain ⟨k, found⟩ := List.mem_iff_getElem?.1 there
  refine Instruction.decode_encode config.four_lt_width.le (Instruction.encode_eq_ok_iff.2
    ⟨k, found, Bits.fits_mono fits (by omega), ?_⟩)
  rw [word, Operation.opcode?_eq_some_iff.2 found, Option.getD_some]

/-- The first instruction of a program that loads its third word into the flags register. -/
theorem Config.decode_load (config : Config) :
    Word.Fits config.width (config.word .load 2) ∧
      (config.decode (config.word .load 2)).operation = .load ∧
      (config.decode (config.word .load 2)).operand = 2 :=
  config.decode_word .load 2 (by cases config.variant <;> decide) ⟨by decide, by decide⟩

/-- The second one. -/
theorem Config.decode_set (config : Config) :
    Word.Fits config.width (config.word .set 1) ∧
      (config.decode (config.word .set 1)).operation = .set ∧
      (config.decode (config.word .set 1)).operand = 1 :=
  config.decode_word .set 1 (by cases config.variant <;> decide) ⟨by decide, by decide⟩

/-- A program that loads the mask of the halt flag, which it brings along, and makes it the flags
register. -/
def Config.haltingImage (config : Config) : List Int :=
  [config.word .load 2, config.word .set 1, (Flag.mask config.variant .halt : Nat)]

theorem Config.fits_haltingImage {config : Config}
    (room : Flag.mask config.variant .halt < 2 ^ config.width) :
    ∀ word ∈ config.haltingImage, Word.Fits config.width word := by
  simp only [haltingImage, List.mem_cons, List.not_mem_nil, or_false]
  rintro word (rfl | rfl | rfl)
  · exact config.decode_load.1
  · exact config.decode_set.1
  · exact Bits.fits_natCast room

/-- There is room for the halt flag in a word that the number with its bit alone is a word of. -/
theorem Flag.mask_halt_lt_iff {config : Config} : mask config.variant .halt < 2 ^ config.width ↔
    ∀ k ∈ bit? config.variant .halt, k < config.width := by
  have power (k : Nat) : 1 <<< k < 2 ^ config.width ↔ k < config.width := by
    rw [Nat.one_shiftLeft]
    exact Nat.pow_lt_pow_iff_right (by decide)
  cases config.variant with
  | base => exact (power 7).trans (by simp [bit?])
  | extended => exact (power 9).trans (by simp [bit?])

theorem Flag.isSet_mask_halt (variant : Variant) :
    isSet variant .halt (mask variant .halt : Nat) = true := by
  cases variant <;> decide

/-- The program halts a machine that begins with it. -/
theorem Machine.Poised.halts_of_supplies {m : Machine Bus} {config : Config} {bus : Bus} {acc : Int}
    {reports : List Event} (h : m.Poised config)
    (clear : (m.view reports).Clear config acc 0 bus)
    (supplies : ∀ k (lt : k < config.haltingImage.length), bus.Supplies k config.haltingImage[k])
    (level : Nat → Bool) : ∃ n, (m.run level n).processor.halted = true := by
  have length : config.haltingImage.length = 3 := rfl
  have supplies₀ : bus.Supplies 0 (config.word .load 2) := supplies 0 (by omega)
  have supplies₁ : bus.Supplies 1 (config.word .set 1) := supplies 1 (by omega)
  have supplies₂ : bus.Supplies 2 (Flag.mask config.variant .halt : Nat) := supplies 2 (by omega)
  obtain ⟨-, loads, address⟩ := config.decode_load
  obtain ⟨-, sets, target⟩ := config.decode_set
  have one : keep config.width (0 + 1) = 1 :=
    Bits.keep_eq_self (Bits.fits_mono (m := 1) ⟨by decide, by decide⟩ config.width_pos)
  -- The mask of the halt flag is loaded.
  obtain ⟨a, v, seen, clear, poised, view⟩ := h.executes clear supplies₀ level
  rw [loads, address] at view
  replace clear := clear.load supplies₂
  rw [← view, one] at clear
  -- It becomes the flags register.
  obtain ⟨b, v, seen, clear, poised, view⟩ :=
    poised.executes clear supplies₁ fun k => level (a + k)
  rw [sets, target] at view
  have flags := (congrArg (·.flags) view).trans clear.setFlags
  -- The next fetch finds it there.
  have set : Flag.isSet config.variant .halt ((m.run level a).run (fun k => level (a + k))
      b).processor.registers.flags = true :=
    (congrArg _ flags).trans (Flag.isSet_mask_halt config.variant)
  refine ⟨a + (b + (config.width + 1)), ?_⟩
  rw [run_add, run_add]
  exact poised.halts set _

namespace Emulator

variable {config : Config}

/-- In the default memory any eight words find room, and the bus delivers them. -/
theorem exists_loaded {image : List Int} (short : image.length ≤ 8)
    (fits : ∀ word ∈ image, Word.Fits config.width word) :
    ∃ loaded, (make { config }).loadWords image 0 = .ok loaded ∧
      loaded.machine.processor.config = config ∧ loaded.machine.bus.width = config.width ∧
      ∀ k (lt : k < image.length), loaded.machine.bus.reset.Supplies k image[k] := by
  have wide := config.eight_le_width
  have eight : 8 ≤ Word.window config.width := by
    rw [Word.window, Nat.one_shiftLeft]
    exact Nat.pow_le_pow_right (n := 2) (by decide) (show 3 ≤ config.width - 5 by omega)
  have size : (make { config }).memory.size = Word.window config.width := rfl
  have inside : (0 : Int) + image.length ≤ (make { config }).memory.size := by omega
  have allowed : ¬((0 : Int) < 0 ∨ 0 + image.length > (make { config }).memory.size) := by omega
  refine ⟨(make { config }).withMemory ((make { config }).memory.putAll 0 image),
    congrArg (Except.map _) (if_neg allowed), rfl, rfl, fun k lt => ?_⟩
  have fit := fits _ (List.getElem_mem lt)
  refine Bus.supplies_of_get ?_ ?_ fit
  · exact Bits.fits_mono (Bits.fits_natCast (n := 3) (by omega))
      (show 3 ≤ config.width - 5 by omega)
  · have held := Memory.get_putAll (Int.le_refl 0) inside k
    rw [if_pos (by omega), Int.sub_zero, Int.toNat_natCast, List.getD_eq_getElem?_getD,
      List.getElem?_eq_getElem lt, Option.getD_some] at held
    exact held.trans (Bits.keep_eq_self fit)

theorem processor_of_loadWords {e loaded : Emulator} {image : List Int} {start : Int}
    (done : e.loadWords image start = .ok loaded) :
    loaded.machine.processor = e.machine.processor := by
  unfold loadWords at done
  cases placed : e.memory.loadWords image start with
  | error => simp [placed] at done
  | ok memory =>
    rw [placed] at done
    cases done
    rfl

/-- An emulator of the configuration can be built, with a memory that fills the addresses, and some
image makes it halt from its reset on, whatever the interrupt line does. -/
def Haltable (config : Config) : Prop :=
  ∃ fresh image loaded, build { config } = .ok fresh ∧ fresh.loadWords image 0 = .ok loaded ∧
    ∀ level, ∃ n, (loaded.machine.reset.1.run level n).processor.halted = true

/-- Where a word has room for the halt flag, the program halts. -/
theorem haltable_of_build {fresh : Emulator} (built : build { config } = .ok fresh)
    (room : Flag.mask config.variant .halt < 2 ^ config.width) : Haltable config := by
  obtain rfl := eq_make_of_build built
  have short : config.haltingImage.length ≤ 8 := by simp [Config.haltingImage]
  obtain ⟨loaded, done, same, width, supplies⟩ :=
    exists_loaded short (Config.fits_haltingImage room)
  refine ⟨_, _, loaded, built, done, fun level => ?_⟩
  have ready := Machine.ready_reset (m := loaded.machine) (width.trans (same ▸ rfl))
  -- The reset leaves every register zero.
  have begins := ready.performs_reset level [] rfl
  have poised := Machine.poised_run (Or.inl ready) loaded.machine.sound_reset same begins.atFetch
  have clear := WordMachine.clear_restart config (loaded.machine.reset.1.view [])
  rw [← show _ = (loaded.machine.reset.1.view []).restart from begins.machine] at clear
  obtain ⟨n, halted⟩ := poised.halts_of_supplies clear supplies _
  refine ⟨loaded.machine.reset.1.processor.config.width + 1 + n, ?_⟩
  rw [Machine.run_add]
  exact halted

/-- Where a word has no room for the halt flag, no session with any memory and any devices comes to
a halt. -/
theorem not_halted_of_cramped (cramped : ¬Flag.mask config.variant .halt < 2 ^ config.width)
    {m : Machine Bus} (same : m.processor.config = config) (actions : List Action) :
    (m.reset.1.after actions).processor.halted = false := by
  subst same
  refine Machine.not_halted_after (fun k found => not_lt.1 fun lt => cramped ?_) actions
  exact Flag.mask_halt_lt_iff.2 fun j other => Option.mem_unique other found ▸ lt

theorem room_of_haltable (haltable : Haltable config) :
    Flag.mask config.variant .halt < 2 ^ config.width := by
  obtain ⟨fresh, image, loaded, built, done, reaches⟩ := haltable
  obtain rfl := eq_make_of_build built
  by_contra cramped
  obtain ⟨n, halted⟩ := reaches fun _ => false
  rw [Machine.run_eq_after,
    not_halted_of_cramped cramped (processor_of_loadWords done ▸ rfl)] at halted
  cases halted

/-- Only what the host has no room for keeps an emulator with a memory that fills the addresses from
being built. -/
theorem overtaxesHost_of_build {cause : InvalidValue} (refused : build { config } = .error cause) :
    cause.overtaxesHost = true := by
  have wide := config.eight_le_width
  have filling := Memory.make_filling config.host (show (8 : Int) ≤ config.width by omega)
  unfold build at refused
  cases made : Memory.make config.host config.width none with
  | error problem =>
    rw [made] at filling refused
    exact Except.error.inj refused ▸ filling
  | ok memory =>
    rw [made] at refused
    cases refused

/-- A configuration that an emulator can be built of has a program that halts, whatever the
interrupt line does, exactly when its words have room for the halt flag. Without that room, no
session with any memory and any devices comes to a halt. -/
theorem halts_iff_room (config : Config) :
    (Flag.mask config.variant .halt < 2 ^ config.width ↔
      config.variant = .base ∨ 10 ≤ config.width) ∧
    (∀ fresh, build { config } = .ok fresh →
      (Haltable config ↔ Flag.mask config.variant .halt < 2 ^ config.width)) ∧
    (∀ cause, build { config } = .error cause →
      cause.overtaxesHost = true ∧ ¬Haltable config) ∧
    (¬Flag.mask config.variant .halt < 2 ^ config.width → ∀ m : Machine Bus,
      m.processor.config = config → ∀ actions,
        (m.reset.1.after actions).processor.halted = false) := by
  refine ⟨?_, fun fresh built => ⟨room_of_haltable, haltable_of_build built⟩,
    fun cause refused => ⟨overtaxesHost_of_build refused, ?_⟩,
    fun cramped m same => not_halted_of_cramped cramped same⟩
  · have wide := config.eight_le_width
    rw [Flag.mask_halt_lt_iff]
    cases config.variant <;> simp [Flag.bit?] <;> omega
  · rintro ⟨fresh, -, -, built, -⟩
    cases refused.symm.trans built

/-- Ten bits are enough for the halt flag of the extended variant, and nine are not. -/
theorem haltable_ten : Haltable { width := 10, variant := .extended } ∧
    ¬Haltable { width := 9, variant := .extended } :=
  ⟨((halts_iff_room { width := 10, variant := .extended }).2.1 _ rfl).2 (by decide),
    fun haltable => absurd
      (((halts_iff_room { width := 9, variant := .extended }).2.1 _ rfl).1 haltable) (by decide)⟩

/-- Words of eighty bits have room for the flag, and their addresses are too many for the memory of
any host. -/
theorem not_haltable_eighty : ¬∃ host : Host, ∀ config : Config, config.host = host →
    (Haltable config ↔ Flag.mask config.variant .halt < 2 ^ config.width) := by
  rintro ⟨host, settled⟩
  obtain ⟨fresh, -, -, built, -⟩ := (settled { width := 80, host } rfl).2
    (show Flag.mask .base .halt < 2 ^ 80 by decide)
  obtain ⟨memory, made, -⟩ := bind_eq_ok_iff.1 built
  have filling := Memory.make_filling host (show (8 : Int) ≤ 80 by decide)
  rw [show Memory.make host 80 none = .ok memory from made] at filling
  have few : ((2 ^ 75 : Nat) : Int) < Memory.indexLimit := filling.1 ▸ filling.2.1
  exact absurd few (by decide)

end Emulator

end SerialMachine
