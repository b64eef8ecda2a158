import SerialMachine.Proofs.Fetching
import SerialMachine.Proofs.Requests

/-!
# The timer

In a fetch that serves no interrupt the timer counts up by one, and each of its new bits is compared
with one of the compare register, which goes once around. Main statement: in any session in which no
state resets the machine and no instruction exchanges one of the two registers, the timer has
counted such fetches, modulo the word, and only the last cycle of one requests an interrupt by
itself, when what has been counted is the compare register's word.
-/

namespace SerialMachine

open Bits (keep)
open Shift (midway)

namespace Registers

/-- Whether the cycle completes a fetch that serves no interrupt. -/
def completesFetch (config : Config) (r : Registers) : Bool :=
  r.plainFetch && r.cycle == config.width

/-- Whether the cycle resets the machine, or moves a bit between the accumulator and the timer or
the compare register. -/
def disturbsTimer (r : Registers) : Bool :=
  r.state == .reset ||
    (r.state == .execute && !r.first && (r.target == some .timer || r.target == some .compare))

/-- Of the timer `t`, `k` bits have been counted up and compared with those of `c`. -/
structure Ticking (n k : Nat) (t c : Int) (r : Registers) : Prop where
  timer : r.timer = midway n k t (t + 1)
  compare : r.compare = midway n k c c
  carry : r.carry = Adder.carryInto k t 0 1
  matching : r.matching = (keep k (t + 1) == keep k c)

/-- The timer holds `t` and the compare register `c`, or they are in the middle of the fetch that
counts `t` up. -/
structure Ticks (n : Nat) (t c : Int) (r : Registers) : Prop where
  amid : r.plainFetch = true → r.first = false →
    ∃ k : Nat, r.cycle = (k + 1 : Nat) ∧ r.Ticking n k t c
  rests : r.plainFetch = false ∨ r.first = true → r.timer = t ∧ r.compare = c

variable {config : Config} {m : Timing.Markers} {r worked next : Registers} {b t c : Int}
  {irq : Bool} {k n : Nat}

theorem Ticks.of_ticking (plain : r.plainFetch = true) (data : r.first = false)
    (place : r.cycle = (k + 1 : Nat)) (ticking : r.Ticking n k t c) : r.Ticks n t c where
  amid _ _ := ⟨k, place, ticking⟩
  rests apart := by simp [plain, data] at apart

theorem Ticks.of_rests (apart : r.plainFetch = false ∨ r.first = true) (timer : r.timer = t)
    (compare : r.compare = c) : r.Ticks n t c where
  amid plain data := by simp [plain, data] at apart
  rests _ := ⟨timer, compare⟩

/-! ## A cycle that counts -/

theorem Ticking.eq_fetchedTimer (h : r.Ticking config.width k t c) (lt : k < config.width) :
    r = { r with timer := t, compare := c }.fetchedTimer config k := by
  have early : (k == config.width) = false := by simpa using lt.ne
  obtain ⟨timer, compare, carry, matching⟩ := h
  simp only [fetchedTimer, early, Bool.false_and, Bool.or_false, ← timer, ← compare, ← carry,
    ← matching]

/-- One more bit is counted up and compared, and after the last one a match may request an
interrupt. -/
theorem Ticking.fetchTimer (h : r.Ticking config.width k t c) (lt : k < config.width)
    (last : m.last = decide (k + 1 = config.width)) (timer : Word.Fits config.width t)
    (compare : Word.Fits config.width c) :
    (Cycle.fetchTimer config m r).Ticking config.width (k + 1) t c ∧
      (Cycle.fetchTimer config m r).irq = (r.irq || (k + 1 == config.width &&
        (keep (k + 1) (t + 1) == keep (k + 1) c) &&
        Flag.isSet config.variant .timerEnable r.flags)) := by
  have counted := fetchTimer_fetchedTimer (r := { r with timer := t, compare := c }) lt last timer
    compare
  rw [← h.eq_fetchedTimer lt] at counted
  rw [counted]
  exact ⟨⟨rfl, rfl, rfl, rfl⟩, rfl⟩

theorem timerEnable_fetchBit (r : Registers) :
    Flag.isSet config.variant .timerEnable
        (Cycle.fetchBit config b m (Cycle.fetchFlags config r)).flags =
      Flag.isSet config.variant .timerEnable r.flags := by
  rw [fetchBit_fetchFlags]
  simp only
  split
  · rw [Flag.toggle_eq_put, Flag.isSet_put_of_ne (by decide), Flag.isSet_put_of_ne (by decide)]
  · rfl

/-- What a data cycle of a fetch makes of the timer and the interrupt latch. -/
theorem Ticking.fetch (h : r.Ticking config.width k t c) (extended : config.extended = true)
    (plain : r.dispatch = false) (data : m.first = false) (lt : k < config.width)
    (last : m.last = decide (k + 1 = config.width)) (timer : Word.Fits config.width t)
    (compare : Word.Fits config.width c) (b : Int) :
    (Cycle.fetch config b m r).Ticking config.width (k + 1) t c ∧
      (Cycle.fetch config b m r).irq = (r.irq || (k + 1 == config.width &&
        (keep (k + 1) (t + 1) == keep (k + 1) c) &&
        Flag.isSet config.variant .timerEnable r.flags)) ∧
      (k + 1 < config.width → (Cycle.fetch config b m r).dispatch = false) := by
  have ticking : (Cycle.fetchBit config b m (Cycle.fetchFlags config r)).Ticking config.width k
      t c := by
    rw [fetchBit_fetchFlags]
    exact ⟨h.timer, h.compare, h.carry, h.matching⟩
  obtain ⟨counted, irq⟩ := ticking.fetchTimer (m := m) lt last timer compare
  rw [timerEnable_fetchBit, irq_fetchBits] at irq
  simp only [Cycle.fetch, plain, data, extended, Bool.false_eq_true, if_false, if_true, last,
    decide_eq_true_eq]
  split
  · next done =>
    rw [fetchChoice_eq]
    exact ⟨⟨counted.timer, counted.compare, counted.carry, counted.matching⟩, irq, by omega⟩
  · refine ⟨counted, irq, fun _ => ?_⟩
    rw [fetchBit_fetchFlags]
    exact plain

/-! ## A cycle that does not count -/

theorem timer_work (done : r.work config b m = .ok worked) (first : m.first = r.first)
    (apart : r.plainFetch = false) (spared : r.disturbsTimer = false) :
    worked.timer = r.timer ∧ worked.compare = r.compare := by
  unfold work at done
  cases state : r.state with
  | reset => simp [disturbsTimer, state] at spared
  | fetch =>
    have dispatch : r.dispatch = true := by simpa [plainFetch, state] using apart
    simp only [state, Cycle.fetch, dispatch, if_true, Cycle.dispatch] at done
    obtain rfl := Except.ok.inj done
    split <;> exact ⟨rfl, rfl⟩
  | execute =>
    simp only [state, Cycle.execute] at done
    cases found : r.operation config with
    | error absent => simp [found, bind, Except.bind] at done
    | ok operation =>
      simp only [found] at done
      cases begins : m.first with
      | true =>
        simp only [begins] at done
        obtain rfl := Except.ok.inj done
        exact ⟨rfl, rfl⟩
      | false =>
        simp only [begins] at done
        obtain ⟨timer, compare⟩ : r.target ≠ some .timer ∧ r.target ≠ some .compare := by
          simpa [disturbsTimer, state, ← first, begins] using spared
        obtain ⟨-, -, keepsTimer, keepsCompare⟩ := frame_executeBit done
        exact ⟨keepsTimer timer, keepsCompare compare⟩
  | indirect | operand | store | load | advance | halt =>
    simp only [state] at done
    obtain rfl := Except.ok.inj done
    simp only [Cycle.indirect, Cycle.operand, Cycle.store, Cycle.load, Cycle.advance, Cycle.halt]
    split <;> exact ⟨rfl, rfl⟩

/-- Before its last cycle no state becomes a fetch that serves no interrupt. -/
theorem plainFetch_work (done : r.work config b m = .ok worked) (same : worked.state = r.state)
    (apart : r.plainFetch = false) (early : m.last = false) : worked.plainFetch = false := by
  unfold plainFetch at apart ⊢
  rw [same]
  cases state : r.state with
  | fetch =>
    have dispatch : r.dispatch = true := by simpa [state] using apart
    simp only [work, state, Cycle.fetch, dispatch, if_true, Cycle.dispatch] at done
    obtain rfl := Except.ok.inj done
    split
    · simp
    · simp [early]
  | _ => rfl

/-! ## Whole clock cycles -/

theorem completesFetch_of_first (sound : r.Sound config) (first : r.first = true) :
    r.completesFetch config = false := by
  have := config.width_pos
  obtain ⟨k, -, timed, -⟩ := sound
  rw [timed] at first ⊢
  obtain rfl : k = 0 := beq_iff_eq.1 first
  have early : ((0 : Nat) : Int) ≠ config.width := by omega
  exact (Bool.and_eq_false_iff).2 (.inr (beq_false_of_ne early))

theorem irq_latched (extended : config.extended = true) (r : Registers) (irq : Bool) :
    (r.latched config irq).irq = (r.irq || irq) := by
  rw [latched, extended, Bool.true_and]

theorem irq_transition_of_not_plainFetch (done : r.transition config b irq = .ok next)
    (apart : r.plainFetch = false) (clear : r.irq = false) (low : irq = false) :
    next.irq = false := by
  obtain ⟨first, worked, work, same⟩ := exists_worked done
  rw [same, irq_work_of_not_plainFetch work first.symm apart, latched, clear, low, Bool.and_false]
  rfl

theorem Ticks.transition_of_not_plainFetch (ticks : r.Ticks config.width t c)
    (sound : r.Sound config) (apart : r.plainFetch = false) (spared : r.disturbsTimer = false)
    (done : r.transition config b irq = .ok next) : next.Ticks config.width t c := by
  obtain ⟨first, -⟩ := exists_worked done
  obtain ⟨k, le, worked, cycle, work, same, -, proceeds, enters⟩ := sound.exists_worked b irq
  rw [cycle] at first
  obtain ⟨timer, compare⟩ := ticks.rests (.inl apart)
  obtain ⟨keepsTimer, keepsCompare⟩ :=
    timer_work (r := r.latched config irq) work first.symm apart spared
  rcases le.lt_or_eq with lt | rfl
  · have early : (Timing.markers k config.width).last = false := by
      rw [markers_cast]
      exact beq_false_of_ne lt.ne
    have still : worked.plainFetch = false :=
      plainFetch_work (r := r.latched config irq) work same apart early
    obtain rfl := Except.ok.inj (done.symm.trans (proceeds lt))
    exact .of_rests (.inl still) (keepsTimer.trans timer) (keepsCompare.trans compare)
  · obtain rfl := Except.ok.inj (done.symm.trans (enters rfl).2)
    exact .of_rests (.inr rfl) (keepsTimer.trans timer) (keepsCompare.trans compare)

section

variable (sound : r.Sound config) (extended : config.extended = true)
  (plain : r.plainFetch = true) (done : r.transition config b irq = .ok next)
include sound extended plain done

/-- The first cycle of a fetch sets the timer up to count. -/
theorem Ticks.transition_first (ticks : r.Ticks config.width t c) (first : r.first = true) :
    next.Ticks config.width t c ∧ next.irq = (r.irq || irq) := by
  obtain ⟨state, dispatch⟩ : r.state = .fetch ∧ r.dispatch = false := by
    simpa [plainFetch] using plain
  obtain ⟨timer, compare⟩ := ticks.rests (.inr first)
  obtain ⟨k, -, worked, cycle, work, -, -, proceeds, -⟩ := sound.exists_worked b irq
  obtain rfl : k = 0 := by
    have marker := (exists_worked done).1
    rw [first, cycle, markers_cast] at marker
    exact beq_iff_eq.1 marker.symm
  have setUp : (r.latched config irq).setUp config = worked :=
    Except.ok.inj ((work_setUp_fetch (r := r.latched config irq) state dispatch b).symm.trans work)
  rw [setUp_fetch (r := r.latched config irq) state dispatch, fetchSetUp_eq, extended] at setUp
  obtain rfl := Except.ok.inj (done.symm.trans (proceeds config.width_pos))
  rw [← setUp]
  refine ⟨.of_ticking plain rfl rfl ⟨?_, ?_, ?_, ?_⟩, ?_⟩
  · exact timer.trans (Shift.midway_zero ..).symm
  · exact compare.trans (Shift.midway_zero ..).symm
  · exact (Adder.carryInto_zero ..).symm
  · simp [timed]
  · exact irq_latched extended r irq

/-- A data cycle of a fetch counts one bit up; the last one has counted the timer up. -/
theorem Ticking.transition (ticking : r.Ticking config.width k t c)
    (place : r.cycle = (k + 1 : Nat)) (timer : Word.Fits config.width t)
    (compare : Word.Fits config.width c) :
    next.Ticks config.width
        (if r.completesFetch config then keep config.width (t + 1) else t) c ∧
      next.irq = (r.irq || irq || (r.completesFetch config &&
        keep config.width (t + 1) == c && Flag.isSet config.variant .timerEnable r.flags)) := by
  obtain ⟨state, dispatch⟩ : r.state = .fetch ∧ r.dispatch = false := by
    simpa [plainFetch] using plain
  have completes : r.completesFetch config = (k + 1 == config.width) := by
    rw [completesFetch, plain, place, Bool.true_and, Bool.eq_iff_iff, beq_iff_eq, beq_iff_eq,
      Nat.cast_inj]
  obtain ⟨j, le, worked, cycle, work, same, -, proceeds, enters⟩ := sound.exists_worked b irq
  obtain rfl : j = k + 1 := Nat.cast_inj.1 (cycle.symm.trans place)
  obtain ⟨data, last, -⟩ := markers_data k config
  have latched : (r.latched config irq).Ticking config.width k t c :=
    ⟨ticking.timer, ticking.compare, ticking.carry, ticking.matching⟩
  obtain ⟨counted, latch, still⟩ :=
    latched.fetch (b := b) extended dispatch data le last timer compare
  rw [Registers.work, show (r.latched config irq).state = .fetch from state] at work
  rw [Except.ok.inj work] at counted latch still
  rw [irq_latched extended] at latch
  -- Inside the fetch no match counts yet; its last cycle hands both registers on whole.
  rcases le.lt_or_eq with lt | eq
  · have early : (k + 1 == config.width) = false := beq_false_of_ne lt.ne
    have plain' : worked.plainFetch = true := by
      rw [plainFetch, same, state, still lt]
      rfl
    obtain rfl := Except.ok.inj (done.symm.trans (proceeds lt))
    rw [completes, early, if_neg (by simp), Bool.false_and, Bool.false_and, Bool.or_false]
    rw [early, Bool.false_and, Bool.false_and, Bool.or_false] at latch
    exact ⟨.of_ticking plain' rfl rfl ⟨counted.timer, counted.compare, counted.carry,
      counted.matching⟩, latch⟩
  · obtain rfl := Except.ok.inj (done.symm.trans (enters eq).2)
    rw [completes, eq, beq_self_eq_true, if_pos rfl]
    rw [eq, Bits.keep_eq_self compare, beq_self_eq_true] at latch
    obtain ⟨counted, matched, -, -⟩ := counted
    rw [eq, Shift.midway_self timer] at counted
    rw [eq, Shift.midway_eq_new compare compare] at matched
    exact ⟨.of_rests (.inr rfl) counted matched, latch⟩

end

section

variable (ticks : r.Ticks config.width t c) (sound : r.Sound config)
  (extended : config.extended = true) (timer : Word.Fits config.width t)
  (compare : Word.Fits config.width c)
include ticks sound extended timer compare

/-- A cycle that completes a fetch has counted the timer up, and any other one leaves it. -/
theorem Ticks.transition (spared : r.disturbsTimer = false)
    (done : r.transition config b irq = .ok next) :
    next.Ticks config.width
      (if r.completesFetch config then keep config.width (t + 1) else t) c := by
  cases plain : r.plainFetch with
  | false =>
    rw [completesFetch, plain, Bool.false_and, if_neg (by simp)]
    exact ticks.transition_of_not_plainFetch sound plain spared done
  | true =>
    cases first : r.first with
    | true =>
      rw [completesFetch_of_first sound first, if_neg (by simp)]
      exact (ticks.transition_first sound extended plain done first).1
    | false =>
      obtain ⟨k, place, ticking⟩ := ticks.amid plain first
      exact (ticking.transition sound extended plain done place timer compare).1

/-- While the interrupt line is low, an empty latch is filled by a match alone. -/
theorem Ticks.irq_transition (clear : r.irq = false)
    (done : r.transition config b false = .ok next) :
    next.irq = (r.completesFetch config && keep config.width (t + 1) == c &&
      Flag.isSet config.variant .timerEnable r.flags) := by
  cases plain : r.plainFetch with
  | false =>
    rw [completesFetch, plain, Bool.false_and, Bool.false_and, Bool.false_and]
    exact irq_transition_of_not_plainFetch done plain clear rfl
  | true =>
    cases first : r.first with
    | true =>
      rw [completesFetch_of_first sound first, Bool.false_and, Bool.false_and]
      rw [(ticks.transition_first sound extended plain done first).2, clear, Bool.false_or]
    | false =>
      obtain ⟨k, place, ticking⟩ := ticks.amid plain first
      rw [(ticking.transition sound extended plain done place timer compare).2, clear,
        Bool.false_or, Bool.false_or]

end

end Registers

/-! ## Sessions -/

namespace Machine

/-- How many fetches that serve no interrupt a session completes. -/
def fetchCount (m : Machine Bus) : List Action → Nat
  | [] => 0
  | .clock :: rest =>
    (if m.processor.registers.completesFetch m.processor.config then 1 else 0) +
      (m.act .clock).fetchCount rest
  | action :: rest => (m.act action).fetchCount rest

variable {m : Machine Bus} {t c : Int}

theorem fetchCount_of_ne_clock (m : Machine Bus) {action : Action} (idle : action ≠ .clock)
    (rest : List Action) : m.fetchCount (action :: rest) = (m.act action).fetchCount rest := by
  cases action <;> first | exact absurd rfl idle | rfl

/-- A cycle more counts a completed fetch before the others. -/
theorem keep_add_fetchCount (m : Machine Bus) (t : Int) (rest : List Action) :
    let n := m.processor.config.width
    let completes := m.processor.registers.completesFetch m.processor.config
    keep n ((if completes then keep n (t + 1) else t) + (m.act .clock).fetchCount rest) =
      keep n (t + m.fetchCount (.clock :: rest)) := by
  intro n completes
  rw [fetchCount]
  split
  · rw [Nat.cast_add, Nat.cast_one, ← add_assoc]
    exact Int.emod_add_emod ..
  · rw [zero_add]

/-- In a session that leaves timer and compare register to the fetches, every fetch counts. -/
theorem ticks_after (h : m.processor.Sound) (extended : m.processor.config.extended = true)
    (timer : Word.Fits m.processor.config.width t) (compare : Word.Fits m.processor.config.width c)
    (ticks : m.processor.registers.Ticks m.processor.config.width t c) {actions : List Action}
    (spares : ∀ action ∈ actions, action.sparesRegisters = true)
    (undisturbed : ∀ done rest, actions = done ++ .clock :: rest →
      (m.after done).processor.registers.disturbsTimer = false) :
    (m.after actions).processor.registers.Ticks m.processor.config.width
      (keep m.processor.config.width (t + m.fetchCount actions)) c := by
  -- Every completed fetch is a new start, so the induction is on the session for any `t`.
  induction actions generalizing m t with
  | nil => simpa [fetchCount, after, Bits.keep_eq_self timer] using ticks
  | cons action rest ih =>
    obtain ⟨sound, config⟩ := sound_act h action
    have later : ∀ done after, rest = done ++ .clock :: after →
        ((m.act action).after done).processor.registers.disturbsTimer = false := by
      intro done after split
      exact undisturbed (action :: done) after (by rw [split]; rfl)
    have along {t : Int} (timer : Word.Fits m.processor.config.width t)
        (ticks : (m.act action).processor.registers.Ticks m.processor.config.width t c) :
        ((m.act action).after rest).processor.registers.Ticks m.processor.config.width
          (keep m.processor.config.width (t + (m.act action).fetchCount rest)) c := by
      have counted := @ih (m.act action) t sound
      rw [config] at counted
      exact counted extended timer compare ticks
        (fun other member => spares other (List.mem_cons_of_mem action member)) later
    by_cases clock : action = .clock
    · subst clock
      obtain ⟨bit, done⟩ := exists_transition h
      have ticked := ticks.transition h.registers extended timer compare
        (undisturbed [] rest rfl) done
      rw [← keep_add_fetchCount]
      refine along ?_ ticked
      split
      · exact Bits.fits_keep _ _
      · exact timer
    · rw [fetchCount_of_ne_clock m clock]
      refine along timer ?_
      rw [(registers_act (spares action List.mem_cons_self) clock).1]
      exact ticks

/-- The timer of `e` is that of `s` after `n` fetches that served no interrupt. -/
structure Counts (n : Nat) (s e : Machine Bus) : Prop where
  /-- Between two states the timer has counted the fetches. -/
  timer : e.processor.registers.first = true → e.processor.registers.timer =
    keep s.processor.config.width (s.processor.registers.timer + n)
  compare : e.processor.registers.first = true →
    e.processor.registers.compare = s.processor.registers.compare
  /-- By itself a cycle requests an interrupt when it completes one fetch more, and the timer, if it
  is enabled, has come to the compare register's word. -/
  due : e.processor.irq = false → e.processor.registers.irq = false →
    ((e.act .clock).processor.registers.irq = true ↔
      e.processor.registers.completesFetch s.processor.config = true ∧
        Flag.isSet .extended .timerEnable e.processor.registers.flags = true ∧
        keep s.processor.config.width (s.processor.registers.timer + (n + 1)) =
          s.processor.registers.compare)

/-- From any fetch on that a session of an extended machine has come to, the timer counts every
fetch, and requests an interrupt when it has come to the compare register's word, for as long as no
state resets the machine and no instruction exchanges one of the two registers. -/
theorem timer_counts_fetches (m : Machine Bus) (extended : m.processor.config.variant = .extended)
    (before later : List Action) (fetch : (m.reset.1.after before).processor.atFetch = true)
    (spares : ∀ action ∈ later, action.sparesRegisters = true)
    (undisturbed : ∀ done rest, later = done ++ .clock :: rest →
      ((m.reset.1.after before).after done).processor.registers.disturbsTimer = false) :
    Counts ((m.reset.1.after before).fetchCount later) (m.reset.1.after before)
      ((m.reset.1.after before).after later) := by
  obtain ⟨sound, config⟩ := sound_after m.sound_reset before
  have variant : (m.reset.1.after before).processor.config.variant = .extended := by
    rw [config]
    exact extended
  generalize m.reset.1.after before = s at fetch undisturbed sound variant
  have wired := (Config.extended_eq_true_iff s.processor.config).2 variant
  obtain ⟨coherent, timed, -, -⟩ := sound.begins fetch
  have first : s.processor.registers.first = true := by rw [timed]; rfl
  have ticks := ticks_after sound wired coherent.words.timer coherent.words.compare
    (.of_rests (.inr first) rfl rfl) spares undisturbed
  obtain ⟨sound', config'⟩ := sound_after sound later
  generalize s.after later = e at ticks sound' config'
  constructor
  case timer => exact fun boundary => (ticks.rests (.inr boundary)).1
  case compare => exact fun boundary => (ticks.rests (.inr boundary)).2
  case due =>
    intro low clear
    obtain ⟨bit, done⟩ := exists_transition sound'
    have registers := sound'.registers
    rw [low] at done
    rw [config'] at done registers
    have irq := ticks.irq_transition registers wired (Bits.fits_keep _ _) coherent.words.compare
      clear done
    have next (n : Nat) (t k : Int) : keep n (keep n (t + k) + 1) = keep n (t + (k + 1)) := by
      rw [← add_assoc]
      exact Int.emod_add_emod ..
    rw [act, irq, next, variant, Bool.and_eq_true, Bool.and_eq_true, beq_iff_eq, and_assoc,
      and_comm (a := keep _ _ = _)]

/-- A machine with words of eleven bits and nothing in its memory. -/
def blank : Machine Bus :=
  (Emulator.make { config := { width := 11, variant := .extended } }).machine

/-- The session that brings `blank` to a fetch with the timer enabled and two below its wrap, where
the compare register is. -/
def twoToGo : List Action :=
  List.replicate 12 .clock ++
    [.overwrite [(⟨.flags, by decide⟩, 256), (⟨.timer, by decide⟩, 2046)]]

/-- The last cycle of the second fetch takes the timer around to zero and requests an interrupt. -/
theorem blank_counts :
    (blank.reset.1.after twoToGo).processor.atFetch = true ∧
      Counts 1 (blank.reset.1.after twoToGo)
        ((blank.reset.1.after twoToGo).after (List.replicate 47 .clock)) ∧
      (((blank.reset.1.after twoToGo).after
        (List.replicate 47 .clock)).act .clock).processor.registers.irq = true ∧
      ((blank.reset.1.after twoToGo).after
        (List.replicate 48 .clock)).processor.registers.timer = 0 := by
  have fetch : (blank.reset.1.after twoToGo).processor.atFetch = true := by decide +kernel
  have quiet : ∀ k < 48, ((blank.reset.1.after twoToGo).after
      (List.replicate k .clock)).processor.registers.disturbsTimer = false := by
    decide +kernel
  have counts (n : Nat) (le : n ≤ 48) :
      Counts ((blank.reset.1.after twoToGo).fetchCount (List.replicate n .clock))
        (blank.reset.1.after twoToGo)
        ((blank.reset.1.after twoToGo).after (List.replicate n .clock)) := by
    refine timer_counts_fetches blank rfl twoToGo _ fetch ?_ ?_
    · intro action member
      rw [List.eq_of_mem_replicate member]
      rfl
    · intro done rest split
      obtain ⟨total, clocks, -⟩ := List.append_eq_replicate_iff.1 split.symm
      rw [List.length_cons] at total
      rw [clocks]
      exact quiet done.length (by omega)
  have once := counts 47 (by decide)
  have twice := counts 48 (by decide)
  rw [show (blank.reset.1.after twoToGo).fetchCount (List.replicate 47 .clock) = 1 by
    decide +kernel] at once
  rw [show (blank.reset.1.after twoToGo).fetchCount (List.replicate 48 .clock) = 2 by
    decide +kernel] at twice
  exact ⟨fetch, once, (once.due (by decide +kernel) (by decide +kernel)).2 (by decide +kernel),
    (twice.timer (by decide +kernel)).trans (by decide +kernel)⟩

end Machine

end SerialMachine
