import SerialMachine.Proofs.Stage

/-!
# Interrupt requests

The interrupt latch remembers a request. The first cycle of a dispatch takes the request and the
first cycle of a reset forgets it; every other cycle keeps what the latch holds and takes in the
interrupt line. Main statement: between those cycles no session loses a request. One that arrives in
the very cycle in which a dispatch takes the request before it is not kept.
-/

namespace SerialMachine

namespace Registers

/-- Whether the cycle belongs to a fetch that serves no interrupt. -/
def plainFetch (r : Registers) : Bool :=
  r.state == .fetch && !r.dispatch

/-- Whether the cycle empties the interrupt latch. -/
def emptiesLatch (r : Registers) : Bool :=
  r.first && (r.state == .reset || (r.state == .fetch && r.dispatch))

variable {config : Config} {m : Timing.Markers} {r worked next : Registers} {bit : Int} {irq : Bool}

/-! ## One cycle -/

theorem irq_fetchBits (r : Registers) :
    (Cycle.fetchBit config bit m (Cycle.fetchFlags config r)).irq = r.irq := by
  rw [fetchBit_fetchFlags]

theorem irq_fetchChoice (r : Registers) : (Cycle.fetchChoice config bit r).irq = r.irq := by
  rw [fetchChoice_eq]

theorem irq_fetch (plain : r.dispatch = false) (held : r.irq = true) :
    (Cycle.fetch config bit m r).irq = true := by
  unfold Cycle.fetch
  rw [if_neg (by simp [plain])]
  split
  · unfold Cycle.fetchSetUp
    split <;> exact held
  · have bits : (Cycle.fetchBit config bit m (Cycle.fetchFlags config r)).irq = true :=
      (irq_fetchBits r).trans held
    split_ifs <;> simp [irq_fetchChoice, Cycle.fetchTimer, bits]

/-- Outside the fetches that serve none, nothing requests an interrupt. -/
theorem irq_work_of_not_plainFetch (done : r.work config bit m = .ok worked)
    (first : m.first = r.first) (apart : r.plainFetch = false) :
    worked.irq = (r.irq && !r.emptiesLatch) := by
  unfold work at done
  cases state : r.state with
  | reset =>
    have empties : r.emptiesLatch = m.first := by simp [emptiesLatch, state, first]
    simp only [state] at done
    obtain rfl := Except.ok.inj done
    rw [empties, Cycle.reset]
    cases m.first <;> simp
  | fetch =>
    have dispatch : r.dispatch = true := by simpa [plainFetch, state] using apart
    have empties : r.emptiesLatch = m.first := by simp [emptiesLatch, state, dispatch, first]
    simp only [state, Cycle.fetch, dispatch, if_true] at done
    obtain rfl := Except.ok.inj done
    rw [empties, Cycle.dispatch]
    cases m.first <;> simp
  | execute =>
    have keeps : (r.irq && !r.emptiesLatch) = r.irq := by simp [emptiesLatch, state]
    rw [keeps]
    simp only [state, Cycle.execute] at done
    cases found : r.operation config with
    | error absent => simp [found, bind, Except.bind] at done
    | ok operation =>
      simp only [found] at done
      cases begins : m.first with
      | true =>
        simp only [begins] at done
        obtain rfl := Except.ok.inj done
        rfl
      | false =>
        simp only [begins] at done
        exact (frame_executeBit done).2.1
  | indirect | operand | store | load | advance | halt =>
    have keeps : (r.irq && !r.emptiesLatch) = r.irq := by simp [emptiesLatch, state]
    rw [keeps]
    simp only [state] at done
    obtain rfl := Except.ok.inj done
    simp only [Cycle.indirect, Cycle.operand, Cycle.store, Cycle.load, Cycle.advance, Cycle.halt]
    split <;> rfl

theorem irq_work (done : r.work config bit m = .ok worked) (first : m.first = r.first)
    (kept : r.emptiesLatch = false) (held : r.irq = true) : worked.irq = true := by
  cases plain : r.plainFetch with
  | true =>
    obtain ⟨state, dispatch⟩ : r.state = .fetch ∧ r.dispatch = false := by
      simpa [plainFetch] using plain
    rw [work, state] at done
    obtain rfl := Except.ok.inj done
    exact irq_fetch dispatch held
  | false => rw [irq_work_of_not_plainFetch done first plain, held, kept]; rfl

theorem irq_commit (done : r.commit config = .ok next) : next.irq = r.irq := by
  unfold commit at done
  split_ifs at done
  obtain rfl := Except.ok.inj done
  rfl

theorem first_of_checkStart (done : r.checkStart config = .ok ()) :
    r.first = (Timing.markers r.cycle config.width).first := by
  by_contra wrong
  have check : Timing.check r.cycle r.first r.lastFour config.width ≠ .ok () := by
    unfold Timing.check
    split_ifs <;> simp_all
  cases checked : Timing.check r.cycle r.first r.lastFour config.width with
  | error violation => simp [checkStart, checked, bind, Except.bind] at done
  | ok u => exact check checked

/-- A cycle that completes has begun with a true marker, and the latch is as its work leaves it. -/
theorem exists_worked (done : r.transition config bit irq = .ok next) :
    r.first = (Timing.markers r.cycle config.width).first ∧
      ∃ worked, (r.latched config irq).work config bit (Timing.markers r.cycle config.width) =
        .ok worked ∧ next.irq = worked.irq := by
  rw [transition_eq] at done
  cases start : r.checkStart config with
  | error violation => simp [start, bind, Except.bind] at done
  | ok u =>
    refine ⟨first_of_checkStart start, ?_⟩
    cases work : (r.latched config irq).work config bit (Timing.markers r.cycle config.width) with
    | error absent => simp [start, work, Except.mapError, bind, Except.bind] at done
    | ok worked =>
      refine ⟨worked, rfl, ?_⟩
      simp only [start, work, Except.mapError, bind, Except.bind] at done
      split at done
      · cases commit : worked.commit config with
        | error violation => simp [commit] at done
        | ok entered =>
          simp only [commit, Except.ok.injEq] at done
          rw [← done]
          exact irq_commit commit
      · obtain rfl := Except.ok.inj done
        rfl

/-- Where the latch is not emptied, a cycle keeps a request and takes in the interrupt line. -/
theorem irq_transition (done : r.transition config bit irq = .ok next)
    (kept : r.emptiesLatch = false) (pending : (r.latched config irq).irq = true) :
    next.irq = true := by
  obtain ⟨first, worked, work, same⟩ := exists_worked done
  rw [same]
  exact irq_work work first.symm kept pending

end Registers

/-! ## Sessions -/

namespace Machine

variable {m : Machine Bus}

theorem irq_clock (h : m.processor.Sound) (kept : m.processor.registers.emptiesLatch = false)
    (pending : (m.processor.registers.latched m.processor.config m.processor.irq).irq = true) :
    (m.act .clock).processor.registers.irq = true := by
  obtain ⟨bit, done⟩ := exists_transition h
  exact Registers.irq_transition done kept pending

theorem irq_overwrite (r : Registers) (config : Config)
    (values : List ({ x : Register // x ∈ Register.words } × Int)) :
    (({ config, registers := r } : Processor).setRegisters
      (values.map fun e => (e.1.1, e.2))).registers.irq = r.irq := by
  induction values generalizing r with
  | nil => rfl
  | cons entry rest ih =>
    obtain ⟨⟨x, -⟩, value⟩ := entry
    refine (ih (r.set x (Bits.keep config.width value))).trans ?_
    cases x <;> rfl

/-- Only a clock cycle can empty the latch. -/
theorem irq_idle (m : Machine Bus) {action : Action} (idle : action ≠ .clock) :
    (m.act action).processor.registers.irq = m.processor.registers.irq := by
  cases action with
  | clock => exact absurd rfl idle
  | overwrite values => exact irq_overwrite m.processor.registers m.processor.config values
  | _ => rfl

/-- A request stays in the latch as long as no clock cycle empties it. -/
theorem irq_after (h : m.processor.Sound) (held : m.processor.registers.irq = true)
    {actions : List Action}
    (kept : ∀ done rest, actions = done ++ .clock :: rest →
      (m.after done).processor.registers.emptiesLatch = false) :
    (m.after actions).processor.registers.irq = true := by
  induction actions generalizing m with
  | nil => exact held
  | cons action rest ih =>
    apply ih (sound_act h action).1
    · by_cases clock : action = .clock
      · subst clock
        apply irq_clock h (kept [] rest rfl)
        simp [Registers.latched, held]
      · exact (irq_idle m clock).trans held
    · intro done after split
      exact kept (action :: done) after (by rw [split]; rfl)

/-- After any session of an extended machine that begins with a reset, a request on the interrupt
line is in the latch after the cycle, unless the machine stands in a reset or begins a dispatch; and
what is in the latch stays there through any session in which no dispatch and no reset begins. -/
theorem request_kept (m : Machine Bus) (extended : m.processor.config.variant = .extended)
    (before later : List Action) :
    ((m.reset.1.after before).processor.registers.state ≠ .reset →
        (m.reset.1.after before).processor.registers.emptiesLatch = false →
        (m.reset.1.after before).processor.irq = true →
        ((m.reset.1.after before).act .clock).processor.registers.irq = true) ∧
      ((m.reset.1.after before).processor.registers.irq = true →
        (∀ done rest, later = done ++ .clock :: rest →
          ((m.reset.1.after before).after done).processor.registers.emptiesLatch = false) →
        ((m.reset.1.after before).after later).processor.registers.irq = true) := by
  obtain ⟨sound, config⟩ := sound_after m.sound_reset before
  constructor
  · intro _ kept line
    apply irq_clock sound kept
    have wired : (m.reset.1.after before).processor.config.extended = true := by
      rw [config]
      exact (Config.extended_eq_true_iff _).2 extended
    simp [Registers.latched, line, wired]
  · intro held kept
    exact irq_after sound held kept

/-- An eight-bit extended machine that enables interrupts: `LITERAL 8`, `LSHIFT 15`, `SET 1`, and a
jump to itself. -/
def listening : Machine Bus :=
  { literalThree .extended with
    bus :=
      { (literalThree .extended).bus with
        memory := { width := 8, size := 8, cells := #[0xA8, 0x6F, 0xE1, 0xC3] } } }

/-- The session in which a request comes to `listening` as it begins to fetch the jump. -/
def callArrives : List Action :=
  List.replicate 90 .clock ++ [.interrupt true]

/-- The session in which `listening` takes that request into its latch. -/
def firstRequest : List Action :=
  callArrives ++ [.clock]

/-- The session that goes on to the dispatch, with another request on the line. -/
def secondRequest : List Action :=
  firstRequest ++ [.interrupt false] ++ List.replicate 8 .clock ++ [.interrupt true]

theorem request_kept_listening :
    listening.processor.config.variant = .extended ∧
      ((listening.reset.1.after callArrives).act .clock).processor.registers.irq = true ∧
      ((listening.reset.1.after firstRequest).after
        [.interrupt false, .clock]).processor.registers.irq = true := by
  refine ⟨rfl, (request_kept listening rfl callArrives []).1 ?_ ?_ ?_,
    (request_kept listening rfl firstRequest _).2 (by decide +kernel) ?_⟩
  · decide +kernel
  · decide +kernel
  · decide +kernel
  · intro done rest split
    match done with
    | [] => simp at split
    | [action] =>
      rw [List.singleton_append] at split
      obtain rfl := (List.cons.inj split).1
      decide +kernel
    | _ :: _ :: _ => simp at split

/-- The cycle in which a dispatch takes one request loses another. -/
theorem request_lost_at_dispatch :
    ¬∀ (m : Machine Bus) (before : List Action), m.processor.config.variant = .extended →
      (m.reset.1.after before).processor.registers.state ≠ .reset →
      (m.reset.1.after before).processor.irq = true →
      ((m.reset.1.after before).act .clock).processor.registers.irq = true := by
  intro latched
  have kept := latched listening secondRequest rfl (by decide +kernel) (by decide +kernel)
  exact absurd kept (by decide +kernel)

end Machine

end SerialMachine
