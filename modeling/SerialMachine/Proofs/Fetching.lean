import SerialMachine.Proofs.Operations

/-!
# What a fetch finds out

While the instruction word arrives, the accumulator goes once around for the flags that describe it,
and with the last bit it is settled which state follows. Main statement: from any record whose words
are words, whatever its latches hold, a fetch leaves the three flags that describe the accumulator,
changes no other word that programs see but the timer, and is followed by the state that the flags,
the interrupt latch and the last bit ask for.
-/

namespace SerialMachine

open Bits (bit keep ones test)

/-- There is a word with any given bits. -/
theorem Bits.exists_fits_test (bits : Nat → Bool) (n : Nat) :
    ∃ w, Word.Fits n w ∧ ∀ k < n, test k w = bits k := by
  induction n with
  | zero => exact ⟨0, fits_zero 0, fun k lt => absurd lt (Nat.not_lt_zero k)⟩
  | succ n ih =>
    obtain ⟨w, fits, same⟩ := ih
    refine ⟨assign n (bits n) w, fits_assign n.lt_succ_self _ (fits_mono fits n.le_succ), ?_⟩
    intro k lt
    rcases Nat.lt_succ_iff_lt_or_eq.1 lt with below | rfl
    · rw [test_assign_of_ne below.ne, same k below]
    · exact test_assign_self k _ w

namespace Registers

variable {config : Config} {r : Registers} {input : Nat → Int} {level : Nat → Bool} {w : Int}

/-! ## The opcode latch

Nothing else in a fetch looks at the opcode latch, which may hold any number.
-/

/-- The opcode latch, which has held `old`, after `k` data cycles of a fetch. -/
def takenOpcode (config : Config) (input : Nat → Int) (old : Int) : Nat → Int
  | 0 => old
  | k + 1 =>
    if config.width - 4 ≤ k then Shift.enter 4 (takenOpcode config input old k) (input (k + 1))
    else takenOpcode config input old k

theorem fetch_opcode {m : Timing.Markers} (plain : r.dispatch = false) (data : m.first = false)
    (b c : Int) : Cycle.fetch config b m (r.set .opcode c) =
      (Cycle.fetch config b m r).set .opcode (if m.lastFour then Shift.enter 4 c b else c) := by
  simp only [set, Cycle.fetch, plain, data, Bool.false_eq_true, if_false, fetchBit_fetchFlags,
    fetchChoice_eq]
  cases config.extended <;> cases m.last <;> rfl

/-- The record of a fetch after `k` data cycles, when its opcode latch held `c`. -/
def fetching (config : Config) (input : Nat → Int) (level : Nat → Bool) (w c : Int) (r : Registers)
    (k : Nat) : Registers :=
  (((r.latched config (raised level 0 (k + 1))).setUp config).fetched config w k).set .opcode
    (takenOpcode config input c k)

section

variable (state : r.state = .fetch) (plain : r.dispatch = false)
include state plain

theorem setUp_opcode (c : Int) :
    (r.set .opcode c).setUp config = (r.setUp config).set .opcode c := by
  have state' : (r.set .opcode c).state = .fetch := state
  have plain' : (r.set .opcode c).dispatch = false := plain
  simp only [setUp, state, plain, state', plain', Bool.false_eq_true, if_false]
  rfl

theorem opcode_setUp_fetch : (r.setUp config).opcode = r.opcode := by
  simp only [setUp, state, plain, Bool.false_eq_true, if_false]

theorem words_setUp_fetch (words : r.Words config.width) : (r.setUp config).Words config.width := by
  simp only [setUp, state, plain, Bool.false_eq_true, if_false]
  exact { words with flags := fits_counted config 0 r.acc words.flags }

/-- The first cycle of a fetch. -/
theorem work_fetching_first (level : Nat → Bool) (w c b : Int) :
    ((r.set .opcode c).latched config (level 0)).work config b
        (Timing.markers (0 : Nat) config.width) =
      .ok (r.fetching config input level w c 0) := by
  have counted := @counted_setUp config (r.latched config (level 0)) state plain
  have timer := @timer_setUp config (r.latched config (level 0)) state plain
  have opened : raised level 0 (0 + 1) = level 0 := Bool.or_false _
  have worked := @work_setUp_fetch config ((r.latched config (level 0)).set .opcode c) state plain b
  rw [fetching, opened, fetched_zero counted timer w]
  rw [setUp_opcode (r := r.latched config (level 0)) state plain c] at worked
  exact worked

/-- A data cycle of a fetch, whatever the interrupt line has raised so far. -/
theorem work_fetching (words : r.Words config.width) (nibble : Word.Fits 4 r.opcode) {k : Nat}
    (lt : k < config.width) (level : Nat → Bool) (c : Int)
    (arrives : test 0 (input (k + 1)) = test k w) :
    ((r.fetching config input level w c k).latched config (level (k + 1))).work config
        (input (k + 1)) (Timing.markers (k + 1 : Nat) config.width) =
      .ok (r.fetching config input level w c (k + 1)) := by
  obtain ⟨first, last, lastFour⟩ := markers_data k config
  have raised_next : raised level 0 (k + 1 + 1) = (raised level 0 (k + 1) || level (k + 1)) := by
    rw [raised_succ, zero_add]
  have early : (r.fetching config input level w c k).latched config (level (k + 1)) =
      (((r.latched config (raised level 0 (k + 1 + 1))).setUp config).fetched config w k).set
        .opcode (takenOpcode config input c k) := by
    rw [raised_next, ← latched_latched, setUp_latched_fetch (r := r.latched config _) state plain,
      fetched_latched lt]
    rfl
  rw [early, fetching]
  generalize raised level 0 (k + 1 + 1) = pending
  have words' := @words_setUp_fetch config (r.latched config pending) state plain { words with }
  have nibble' : Word.Fits 4 ((r.latched config pending).setUp config).opcode := by
    rw [opcode_setUp_fetch (r := r.latched config pending) state plain]
    exact nibble
  obtain ⟨fetches, -, -, dispatches⟩ := setUp_frame config (r.latched config pending)
  generalize (r.latched config pending).setUp config = s at words' nibble' fetches dispatches
  have plain' : s.dispatch = false := by
    rw [dispatches]
    exact congrArg (· && _) plain
  have fetching : ((s.fetched config w k).set .opcode (takenOpcode config input c k)).state =
      .fetch := by
    rw [fetched, if_neg lt.ne]
    split <;> exact fetches.trans state
  have still : (s.fetched config w k).dispatch = false := by
    rw [fetched, if_neg lt.ne]
    split <;> exact plain'
  rw [work, fetching]
  simp only
  rw [fetch_opcode still first, fetch_fetched lt first last lastFour words' nibble' plain' arrives,
    lastFour]
  simp only [takenOpcode, decide_eq_true_eq]

theorem fetching_width (words : r.Words config.width) (nibble : Word.Fits 4 r.opcode)
    (level : Nat → Bool) (w c : Int) :
    r.fetching config input level w c config.width =
      (Cycle.fetchChoice config (bit (config.width - 1) w)
        ((r.latched config (raised level 0 (config.width + 1))).arrived config w)).set .opcode
          (takenOpcode config input c config.width) := by
  rw [fetching, fetched_width (r := r.latched config _) { words with } nibble state plain]

end

/-! ## A whole fetch -/

/-- A record has become another one by a fetch, whose last bit was `top`. The flags describe the
accumulator, and of what programs see only the timer has changed besides. -/
structure Surveys (config : Config) (level : Nat → Bool) (top : Bool) (r e : Registers) : Prop where
  acc : e.acc = r.acc
  pc : e.pc = r.pc
  shadow : e.shadow = r.shadow
  compare : e.compare = r.compare
  timer : e.timer = if config.extended then keep config.width (r.timer + 1) else r.timer
  zero : Flag.isSet config.variant .zero e.flags = (r.acc == 0)
  negative : Flag.isSet config.variant .negative e.flags = test (config.width - 1) r.acc
  parity : Flag.isSet config.variant .parity e.flags = (ones config.width r.acc % 2 == 1)
  flags : ∀ k, (∀ f ∈ Flag.descriptive, Flag.bit? config.variant f ≠ some k) →
    test k e.flags = test k r.flags
  /-- The latch has taken in the interrupt line and a match of the timer. -/
  pending : e.irq = (r.irq || config.extended && (raised level 0 (config.width + 1) ||
    Flag.isSet config.variant .timerEnable r.flags && e.timer == r.compare))
  follows : e.Begins (State.afterFetch config r.flags e.irq top)
  dispatch : e.dispatch = (State.afterFetch config r.flags e.irq top == .fetch)

/-- The flags that a choice looks at do not describe the accumulator. -/
theorem afterFetch_counted (config : Config) (n k : Nat) (acc flags : Int) (pending top : Bool) :
    State.afterFetch config (Flag.counted config.variant n k acc flags) pending top =
      State.afterFetch config flags pending top := by
  have kept {f : Flag} (h : f ∉ Flag.descriptive) :
      Flag.isSet config.variant f (Flag.counted config.variant n k acc flags) =
        Flag.isSet config.variant f flags :=
    Flag.isSet_counted_of_notMem n k acc flags h
  simp only [State.afterFetch, kept (f := .halt) (by decide), kept (f := .reset) (by decide),
    kept (f := .interruptEnable) (by decide), kept (f := .indirect) (by decide)]

theorem frame_arrived (config : Config) (w : Int) (r : Registers) :
    (r.arrived config w).state = r.state ∧ (r.arrived config w).acc = r.acc ∧
      (r.arrived config w).pc = r.pc ∧ (r.arrived config w).shadow = r.shadow ∧
      (r.arrived config w).compare = r.compare ∧
      (r.arrived config w).timer =
        (if config.extended then keep config.width (r.timer + 1) else r.timer) ∧
      (r.arrived config w).flags =
        Flag.counted config.variant config.width config.width r.acc r.flags := by
  rw [arrived]
  cases config.extended <;> exact ⟨rfl, rfl, rfl, rfl, rfl, rfl, rfl⟩

/-- What a fetch leaves when it has taken in the word `w`. -/
theorem surveys_arrived (plain : r.dispatch = false) (words : r.Words config.width)
    (level : Nat → Bool) (w c : Int) :
    Surveys config level (test (config.width - 1) w) r
      (((Cycle.fetchChoice config (bit (config.width - 1) w)
        ((r.latched config (raised level 0 (config.width + 1))).arrived config w)).set .opcode
          c).entering config) := by
  obtain ⟨-, acc, pc, shadow, compare, timer, flags⟩ :=
    frame_arrived config w (r.latched config (raised level 0 (config.width + 1)))
  obtain ⟨dispatch, -, irq⟩ :=
    arrived_latches (r := r.latched config (raised level 0 (config.width + 1))) { words with } w
  rw [fetchChoice_eq, Bits.test_zero_bit]
  generalize (r.latched config (raised level 0 (config.width + 1))).arrived config w = a at *
  have chosen : State.afterFetch config a.flags a.irq (test (config.width - 1) w) =
      State.afterFetch config r.flags a.irq (test (config.width - 1) w) := by
    rw [flags]
    exact afterFetch_counted ..
  constructor
  case acc => exact acc
  case pc => exact pc
  case shadow => exact shadow
  case compare => exact compare
  case timer => exact timer
  case zero =>
    show Flag.isSet config.variant .zero a.flags = _
    rw [flags, Flag.isSet_counted_zero]
    exact Bits.ones_beq_zero words.acc
  case negative =>
    show Flag.isSet config.variant .negative a.flags = _
    rw [flags, Flag.isSet_counted_negative]
    rfl
  case parity =>
    show Flag.isSet config.variant .parity a.flags = _
    rw [flags, Flag.isSet_counted_parity]
    rfl
  case flags =>
    intro k apart
    show test k a.flags = _
    rw [flags, Flag.test_counted_of_ne _ _ _ _ apart]
    rfl
  case pending =>
    show a.irq = (r.irq || config.extended && (raised level 0 (config.width + 1) ||
      Flag.isSet config.variant .timerEnable r.flags && a.timer == r.compare))
    rw [irq, flags, Flag.isSet_counted_of_notMem _ _ _ _ (by decide), compare, latched,
      Bool.and_or_distrib_left, Bool.or_assoc]
  case follows => exact begins_entering chosen
  case dispatch =>
    show (a.dispatch || State.afterFetch config a.flags a.irq _ == .fetch) = _
    rw [chosen, dispatch, show (r.latched config _).dispatch = r.dispatch from rfl, plain,
      Bool.false_or]
    rfl

section

variable (begins : r.Begins .fetch) (plain : r.dispatch = false) (words : r.Words config.width)
include begins plain words

/-- A fetch into latches of which the opcode latch, which has held a number of four bits, holds any
other number. -/
theorem along_fetch (nibble : Word.Fits 4 r.opcode) (c : Int)
    (arrives : ∀ k < config.width, test 0 (input (k + 1)) = test k w) :
    (r.set .opcode c).along config input level (config.width + 1) =
      .ok ((r.fetching config input level w c config.width).entering config) := by
  obtain ⟨state, cycle, first, lastFour⟩ := begins
  have timed : r.set .opcode c = (r.set .opcode c).timed config 0 :=
    (Begins.mk (r := r.set .opcode c) state cycle first lastFour).timed config
  refine (along_of_work (f := fun k => r.fetching config input level w c k) timed ?native
    (work_fetching_first state plain level w c (input 0))
    (fun k lt => work_fetching state plain words nibble lt level c (arrives k lt)) ?follows).2
  case native =>
    refine ⟨native_of_state .fetch rfl state, fun k lt => native_of_state .fetch rfl ?_⟩
    have fetches := (setUp_frame config (r.latched config (raised level 0 (k + 1)))).1
    rw [fetching, fetched, if_neg lt.ne]
    split <;> exact fetches.trans state
  case follows =>
    have fetches := (frame_arrived config w
      (r.latched config (raised level 0 (config.width + 1)))).1.trans state
    rw [fetching_width state plain words nibble, fetchChoice_eq]
    show State.Follows config (Registers.arrived ..).state _
    rw [fetches]
    exact State.follows_afterFetch ..

end

/-- Whatever arrives, and whatever the latches hold, a fetch finds out what the accumulator is and
goes on as flags, interrupt latch and last bit ask for. -/
theorem fetch_surveys (config : Config) (r : Registers) (input : Nat → Int) (level : Nat → Bool)
    (begins : r.Begins .fetch) (plain : r.dispatch = false) (words : r.Words config.width) :
    ∃ e, r.along config input level (config.width + 1) = .ok e ∧
      Surveys config level (test 0 (input config.width)) r e := by
  obtain ⟨w, -, bits⟩ :=
    Bits.exists_fits_test (fun k => test 0 (input (k + 1))) config.width
  have top : test 0 (input config.width) = test (config.width - 1) w := by
    rw [bits _ (Nat.sub_lt config.width_pos Nat.one_pos), Nat.sub_add_cancel config.width_pos]
  -- The opcode latch is cleared first, and what it holds is put back.
  have cleared : (r.set .opcode 0).Words config.width := { words with }
  have begins' : (r.set .opcode 0).Begins .fetch :=
    ⟨begins.state, begins.cycle, begins.first, begins.lastFour⟩
  refine ⟨_, along_fetch (w := w) begins' plain cleared (Bits.fits_zero 4) r.opcode
    fun k lt => (bits k lt).symm, ?_⟩
  rw [fetching_width begins'.state plain cleared (Bits.fits_zero 4), top]
  have surveys := @surveys_arrived config (r.set .opcode 0) plain cleared level w
    (takenOpcode config input r.opcode config.width)
  exact { surveys with }

/-- On eight bits, a zero accumulator and an operand to be read first; and three ones, of which the
highest bit is one, and an interrupt that comes in the sixth cycle. -/
theorem fetch_surveys_bytes :
    let base : Config := { width := 8 }
    let extended : Config := { width := 8, variant := .extended }
    let line (k : Nat) : Int := k
    let irq (k : Nat) : Bool := k == 5
    let zero : Registers := { state := .fetch, opcode := 77, flags := 0x44 }
    let three : Registers := { state := .fetch, acc := 0xE0, flags := 0x83, timer := 255 }
    (∃ e, zero.along base line irq 9 = .ok e ∧ Surveys base irq false zero e ∧
        Flag.isSet .base .zero e.flags = true ∧ Flag.isSet .base .negative e.flags = false ∧
        e.state = .indirect) ∧
      ∃ e, three.along extended line irq 9 = .ok e ∧ Surveys extended irq false three e ∧
        Flag.isSet .extended .negative e.flags = true ∧
        Flag.isSet .extended .parity e.flags = true ∧ e.state = .fetch ∧ e.dispatch = true := by
  intro base extended line irq zero three
  have none := Bits.fits_zero 8
  have top : test 0 (line 8) = false := by decide
  constructor
  · obtain ⟨e, along, surveys⟩ := fetch_surveys base zero line irq ⟨rfl, rfl, rfl, rfl⟩ rfl
      ⟨none, none, none, ⟨by decide, by decide⟩, none, none, none⟩
    rw [show test 0 (line base.width) = false from top] at surveys
    have chosen : State.afterFetch base zero.flags e.irq false = .indirect := by
      cases e.irq <;> decide
    exact ⟨e, along, surveys, surveys.zero, surveys.negative.trans (by decide),
      surveys.follows.state.trans chosen⟩
  · obtain ⟨e, along, surveys⟩ := fetch_surveys extended three line irq ⟨rfl, rfl, rfl, rfl⟩ rfl
      ⟨⟨by decide, by decide⟩, none, none, ⟨by decide, by decide⟩, none, ⟨by decide, by decide⟩,
        none⟩
    rw [show test 0 (line extended.width) = false from top] at surveys
    have called : raised irq 0 (extended.width + 1) = true := by decide
    have chosen : State.afterFetch extended three.flags e.irq false = .fetch := by
      rw [surveys.pending, called]
      rfl
    have serves := surveys.dispatch
    rw [chosen] at serves
    exact ⟨e, along, surveys, surveys.negative.trans (by decide), surveys.parity.trans (by decide),
      surveys.follows.state.trans chosen, serves⟩

end Registers

end SerialMachine
