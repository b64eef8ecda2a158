import SerialMachine.Proofs.Accesses
import SerialMachine.Proofs.Encoding
import SerialMachine.Proofs.Runs

/-!
# Decoders

An instruction word is taken apart twice: bit by bit while it arrives in a fetch, and all at once by
what lists it or encodes it. Main statement: whatever a machine's latches held before, the fetch
leaves in them the instruction that the word decodes to, its execution begins with what that
instruction exchanges, and encodings and listings mean the same instruction.
-/

namespace SerialMachine

open Bits (bit test)

namespace Registers

variable {config : Config} {r : Registers} {input : Nat → Int} {level : Nat → Bool} {w : Int}

/-! ## A state that any bits arrive in -/

/-- The record after `k` clock cycles, when cycle `i` brings the bit `input i` and finds the
interrupt line at `level i`. -/
def along (config : Config) (input : Nat → Int) (level : Nat → Bool) :
    Nat → Registers → Except Obstacle Registers
  | 0, r => .ok r
  | k + 1, r => (along config input level k r).bind (·.transition config (input k) (level k))

section

variable (h : r.Coherent config False)
include h

theorem opened_opening (level : Nat → Bool) (k : Nat) :
    (r.opening config level k).Opened config :=
  (opened_setUp (h.latched _)).latched _

theorem coherent_passed (level : Nat → Bool) (w : Int) :
    (r.passed config level w).Coherent config False := by
  have opened := opened_opening h level config.width
  exact (coherent_swept opened w le_rfl).entering (follows_swept opened w)

variable (begins : r = r.timed config 0)
  (arrives : ∀ k < config.width, input (k + 1) = bit k w)
include begins arrives

theorem along_data {k : Nat} (lt : k < config.width) : r.along config input level (k + 1) =
    .ok (((r.opening config level k).swept config w k).timed config (k + 1)) := by
  induction k with
  | zero =>
    -- The first cycle sets up and takes no bit in, whatever is on the line.
    rw [swept_zero (opened_opening h level 0), opening_zero, ← transition_first h (input 0),
      ← begins]
    rfl
  | succ k ih =>
    have arrived : test 0 (input (k + 1)) = test k w := by
      rw [arrives k (by omega), Bits.test_zero_bit]
    rw [along, ih (by omega), opening_succ]
    exact transition_data (opened_opening h level k) (fun _ => arrived) (level (k + 1)) lt

/-- When all bits of a word have arrived, the state has passed. -/
theorem along_passed : r.along config input level (config.width + 1) =
    .ok (r.passed config level w) := by
  obtain ⟨k, eq⟩ := Nat.exists_eq_add_one.2 config.width_pos
  have lt : k < config.width := by omega
  have arrived : test 0 (input (k + 1)) = test k w := by rw [arrives k lt, Bits.test_zero_bit]
  have last := transition_last (opened_opening h level k) (fun _ => arrived) (level (k + 1)) eq.symm
  rw [passed, eq, along, along_data h begins arrives lt, opening_succ]
  exact last

end

/-! ## A fetch -/

/-- The record holds an instruction when its fetch is over. -/
structure Decoded (config : Config) (i : Instruction) (r : Registers) : Prop where
  opcode : r.opcode = i.opcode
  operand : r.operand = i.operand
  operation : r.operation config = .ok i.operation
  /-- The first cycle of its execution picks what it exchanges. -/
  aimed : r.state = .execute → ∀ bit irq, ∃ next, r.transition config bit irq = .ok next ∧
    next.target = Instruction.target? config.variant config.width i.operation i.operand
  /-- If its operand is read first, it exchanges nothing. -/
  direct : r.state = .indirect → i.operation.aims = false

theorem latches_fetchChoice (config : Config) (b : Int) (r : Registers) :
    (Cycle.fetchChoice config b r).opcode = r.opcode ∧
      (Cycle.fetchChoice config b r).operand = r.operand := by
  rw [fetchChoice_eq]
  exact ⟨rfl, rfl⟩

theorem of_fetchChoice_indirect {b : Int}
    (chosen : (Cycle.fetchChoice config b r).choice = .indirect) :
    config.variant = .base ∧ test 0 b = false := by
  rw [fetchChoice_eq, State.afterFetch] at chosen
  simp only at chosen
  split_ifs at chosen with _ _ extended _ indirect
  rw [Bool.and_eq_true, Bool.not_eq_true'] at indirect
  exact ⟨(Config.extended_eq_false_iff config).1 (by simpa using extended), indirect.2⟩

/-- Only the lower half of the base variant's operations have their operand read first, and all
exchanges are in the other half. -/
theorem aims_of_lt_eight {k : Nat} (lower : k < 8) :
    ((Operation.table .base).getD k .unused).aims = false := by
  have all : ∀ k < 8, ((Operation.table .base).getD k .unused).aims = false := by decide
  exact all k lower

/-- Whatever the latches held before, a fetch leaves the instruction in them that has arrived. -/
theorem decoded_passed (coherent : r.Coherent config False) (fetch : r.state = .fetch)
    (plain : r.dispatch = false) (fits : Word.Fits config.width w) (level : Nat → Bool) :
    (r.passed config level w).Decoded config (config.decode w) := by
  have sound := coherent_passed coherent level w
  have left : r.passed config level w = _ :=
    passed_fetch coherent.words coherent.opcode fetch plain
  generalize hl : r.latched config (raised level 0 (config.width + 1)) = l at left
  generalize hc : Cycle.fetchChoice config (bit (config.width - 1) w) (l.arrived config w) = c
    at left
  obtain ⟨operand, selected, high⟩ := arrived_decode fits l
  obtain ⟨same, same'⟩ := latches_fetchChoice config (bit (config.width - 1) w) (l.arrived config w)
  rw [hc] at same same'
  rw [left] at sound ⊢
  have opcode : (c.entering config).opcode = (config.decode w).opcode :=
    same.trans (arrived_opcode fits l)
  have operand : (c.entering config).operand = (config.decode w).operand := same'.trans operand
  have selects : (c.entering config).selected config = (config.decode w).operation := by
    rw [← selected, Registers.selected, show (c.entering config).opcode = _ from same]
    rfl
  constructor
  case opcode => exact opcode
  case operand => exact operand
  case operation => rw [sound.operation, selects]
  case aimed =>
    -- The next cycle looks at the latches only, which hold the decoding already.
    intro execute bit irq
    refine ⟨_, transition_first sound bit irq, ?_⟩
    have executes : ((c.entering config).latched config irq).state = .execute := execute
    rw [← selects, ← operand, timed, setUp, executes]
    rfl
  case direct =>
    intro indirect
    obtain ⟨base, low⟩ := of_fetchChoice_indirect (hc ▸ indirect : _ = State.indirect)
    rw [Bits.test_zero_bit, high, Bool.not_eq_false', decide_eq_true_eq] at low
    rw [Config.decode, base] at low ⊢
    exact aims_of_lt_eight low

/-- In the base variant an instruction is executed at once when no flag says otherwise. -/
theorem execute_of_flags (coherent : r.Coherent config False) (fetch : r.state = .fetch)
    (base : config.variant = .base)
    (clear : ∀ flag ∈ [Flag.halt, .reset, .indirect],
      Flag.isSet config.variant flag r.flags = false) (level : Nat → Bool) (w : Int) :
    (r.passed config level w).state = .execute := by
  have basic := (Config.extended_eq_false_iff config).2 base
  generalize hl : r.latched config (raised level 0 (config.width + 1)) = l
  have arrived : (l.arrived config w).flags =
      Flag.counted config.variant config.width config.width r.acc r.flags := by
    rw [← hl, Registers.arrived, basic]
    rfl
  have unset : ∀ flag ∈ [Flag.halt, .reset, .indirect],
      Flag.isSet config.variant flag (l.arrived config w).flags = false := by
    intro flag control
    have apart : flag ∉ Flag.descriptive := by
      revert control
      cases flag <;> decide
    rw [arrived, Flag.isSet_counted_of_notMem _ _ _ _ apart, clear flag control]
  rw [passed_fetch coherent.words coherent.opcode fetch (coherent.plain basic).1, hl,
    Cycle.fetchChoice]
  simp only [unset .halt (by decide), unset .reset (by decide), unset .indirect (by decide), basic,
    Bool.false_eq_true, if_false, Bool.false_and]
  rfl

end Registers

/-! ## A machine -/

/-- In its first cycle a sound record is that of a state that begins. -/
theorem Processor.Sound.begins_of_first {p : Processor} (h : p.Sound)
    (first : p.registers.first = true) :
    p.registers.Coherent p.config False ∧ p.registers = p.registers.timed p.config 0 := by
  obtain ⟨c, -, timed, coherent⟩ := h.registers
  obtain rfl : c = 0 := by
    rw [timed] at first
    exact beq_iff_eq.1 first
  exact ⟨by simpa using coherent, timed⟩

theorem Processor.Sound.begins {p : Processor} (h : p.Sound) (fetch : p.atFetch = true) :
    p.registers.Coherent p.config False ∧ p.registers = p.registers.timed p.config 0 ∧
      p.registers.state = .fetch ∧ p.registers.dispatch = false := by
  simp only [Processor.atFetch, Bool.and_eq_true, beq_iff_eq, Bool.not_eq_true'] at fetch
  obtain ⟨⟨state, first⟩, plain⟩ := fetch
  obtain ⟨coherent, timed⟩ := h.begins_of_first first
  exact ⟨coherent, timed, state, plain⟩

/-- At any fetch of any session, and whatever its latches hold, a machine takes the arriving word
apart as the decoding does. -/
theorem Machine.fetch_decoded (m : Machine Bus) (actions : List Action)
    (fetch : (m.reset.1.after actions).processor.atFetch = true) {w : Int}
    (fits : Word.Fits m.processor.config.width w) {input : Nat → Int}
    (arrives : ∀ k < m.processor.config.width, input (k + 1) = bit k w) (level : Nat → Bool) :
    ∃ r, (m.reset.1.after actions).processor.registers.along m.processor.config input level
        (m.processor.config.width + 1) = .ok r ∧
      r.Decoded m.processor.config (m.processor.config.decode w) := by
  obtain ⟨sound, config⟩ := sound_after m.sound_reset actions
  obtain ⟨coherent, begins, state, plain⟩ := sound.begins fetch
  rw [show (m.reset.1.after actions).processor.config = m.processor.config from config]
    at coherent begins
  exact ⟨_, Registers.along_passed coherent begins arrives,
    Registers.decoded_passed coherent state plain fits level⟩

/-- The first instruction after a reset of a base machine is executed, whatever it is. -/
theorem Machine.first_executed {m : Machine Bus} (width : m.bus.width = m.processor.config.width)
    (base : m.processor.config.variant = .base) (input : Nat → Int) {w : Int}
    (arrives : ∀ k < m.processor.config.width, input (k + 1) = bit k w) (level : Nat → Bool) :
    (m.reset.1.clocks (m.processor.config.width + 1)).processor.atFetch = true ∧
      ∃ r, (m.reset.1.clocks (m.processor.config.width + 1)).processor.registers.along
          m.processor.config input level (m.processor.config.width + 1) = .ok r ∧
        r.state = .execute := by
  obtain ⟨run, sound, -⟩ := clocks_eq_run m.sound_reset (m.processor.config.width + 1)
  have performs := (ready_reset width).performs_reset (fun _ => m.processor.irq) [] rfl
  have config : (m.reset.1.clocks (m.processor.config.width + 1)).processor.config =
      m.processor.config := by
    rw [run]
    exact ((ready_reset width).stage _).2.1
  have fetch : (m.reset.1.clocks (m.processor.config.width + 1)).processor.atFetch = true := by
    rw [run]
    exact performs.atFetch
  have flags : (m.reset.1.clocks (m.processor.config.width + 1)).processor.registers.flags = 0 := by
    rw [run]
    exact congrArg (·.flags) performs.machine
  obtain ⟨coherent, begins, state, plain⟩ := sound.begins fetch
  rw [config] at coherent begins
  refine ⟨fetch, _, Registers.along_passed coherent begins arrives,
    Registers.execute_of_flags coherent state base ?_ level w⟩
  intro flag _
  rw [flags]
  unfold Flag.isSet
  split
  · exact Bits.test_of_zero _
  · rfl

/-! ## Listings -/

/-- Only a host with room for the words lists any. -/
theorem Listing.roomy_of_line {config : Config} {listing : Listing} {line : ListingLine}
    {word address : Int} (wide : listing.width = config.width)
    (done : listing.line word address = .ok line) : (config.width : Int) < listing.host.bits := by
  unfold Listing.line AnyWidth.decode at done
  cases room : AnyWidth.roomy listing.host 0 listing.width with
  | error cause => simp [room, bind, Except.bind] at done
  | ok n =>
    have small := ((AnyWidth.roomy_zero_eq_ok_iff (by omega)).1 room).1
    rwa [wide] at small

theorem Listing.shows_of_line {config : Config} {listing : Listing} {line : ListingLine}
    {word address : Int} (alike : listing.variant = config.variant)
    (wide : listing.width = config.width) (done : listing.line word address = .ok line) :
    line.Shows config (config.decode word) := by
  rcases line_shows alike wide (roomy_of_line wide done) word address with
    ⟨line', done', shows, -⟩ | ⟨refused, -⟩
  · obtain rfl := Except.ok.inj (done.symm.trans done')
    exact shows
  · rw [refused] at done
    cases done

theorem Listing.exists_line_iff {config : Config} {listing : Listing}
    (alike : listing.variant = config.variant) (wide : listing.width = config.width)
    (room : (config.width : Int) < listing.host.bits) (word address : Int) :
    (∃ line, listing.line word address = .ok line) ↔
      ∀ offset, (config.decode word).offset? config = some offset →
        ¬Peripheral.Unwritable offset := by
  rcases line_shows alike wide room word address with
    ⟨line, done, -, written⟩ | ⟨refused, offset, named, unwritable⟩
  · exact ⟨fun _ => written, fun _ => ⟨line, done⟩⟩
  · constructor
    · rintro ⟨line, done⟩
      rw [refused] at done
      cases done
    · exact fun written => absurd unwritable (written offset named)

/-! ## All of them -/

/-- Everything that takes instruction words apart or puts them together means the same by them. -/
structure Decoders (config : Config) : Prop where
  /-- What a machine holds when a fetch is over. -/
  fetched : ∀ (m : Machine Bus) (actions : List Action), m.processor.config = config →
    (m.reset.1.after actions).processor.atFetch = true →
    ∀ w, Word.Fits config.width w →
    ∀ input : Nat → Int, (∀ k < config.width, input (k + 1) = bit k w) → ∀ level : Nat → Bool,
    ∃ r, (m.reset.1.after actions).processor.registers.along config input level
        (config.width + 1) = .ok r ∧ r.Decoded config (config.decode w)
  encoded : Codes config (Instruction.encode config.variant config.width)
  /-- On a host with room for the words, too. -/
  hosted : ∀ host : Host, (config.width : Int) < host.bits →
    Codes config (AnyWidth.encode host config.variant config.width)
  /-- What a listing says when it lists a word. -/
  listed : ∀ listing : Listing, listing.variant = config.variant → listing.width = config.width →
    ∀ word address line, listing.line word address = .ok line →
      line.Shows config (config.decode word)
  /-- When a host with room for the words can list one. -/
  listable : ∀ listing : Listing, listing.variant = config.variant →
    listing.width = config.width → (config.width : Int) < listing.host.bits → ∀ word address,
      (∃ line, listing.line word address = .ok line) ↔
        ∀ offset, (config.decode word).offset? config = some offset →
          ¬Peripheral.Unwritable offset

theorem decoders_agree (config : Config) : Decoders config where
  fetched := by
    rintro m actions rfl fetch w fits input arrives level
    exact m.fetch_decoded actions fetch fits arrives level
  encoded := Instruction.codes_encode config
  hosted _ := AnyWidth.codes_encode
  listed _ alike wide _ _ _ := Listing.shows_of_line alike wide
  listable _ alike wide room := Listing.exists_line_iff alike wide room

/-- A machine with words so wide that a listing cannot name every register of the peripherals. -/
def Machine.wide : Machine Bus :=
  (Emulator.make Emulator.wideTraced).machine

/-- The machine goes on to execute an instruction that a listing has no line for. -/
theorem Machine.executes_unlisted :
    Word.Fits wide.processor.config.width (Word.mask 14300) ∧
      (wide.reset.1.clocks (wide.processor.config.width + 1)).processor.atFetch = true ∧
      (∃ r, (wide.reset.1.clocks (wide.processor.config.width + 1)).processor.registers.along
          wide.processor.config (fun k => bit (k - 1) (Word.mask 14300)) (fun _ => false)
          (wide.processor.config.width + 1) = .ok r ∧ r.state = .execute) ∧
      ({ variant := .base, width := 14300 } : Listing).line (Word.mask 14300) 0 =
        .error .longNumeral := by
  have fits : Word.Fits 14300 (Word.mask 14300) := by
    have pos := Bits.weight_pos 14300
    exact ⟨by rw [Word.mask]; omega, by rw [Word.mask]; omega⟩
  obtain ⟨fetch, executes⟩ := first_executed (m := wide) rfl rfl
    (fun k => bit (k - 1) (Word.mask 14300)) (fun k _ => rfl) (fun _ => false)
  exact ⟨fits, fetch, executes, by decide +kernel⟩

end SerialMachine
