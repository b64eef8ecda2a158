import SerialMachine.Proofs.Runs

/-!
# Runs of a single instruction

A run of a single instruction ends at the next fetch or in a halt, and is given the cycles of
sixteen states. Main statements: an instruction takes no more than six, so that such a run of a
sound emulator goes exactly as far as the instruction does.
-/

namespace SerialMachine

namespace Registers

/-- The number of states before the next fetch of an instruction, or before a halt, at most. -/
def statesLeft (r : Registers) : Nat :=
  match r.state with
  | .halt => 0
  | .fetch => if r.dispatch then 1 else 0
  | .reset | .advance => 1
  | .load | .store => 2
  | .execute => 3
  | .operand => 4
  | .indirect => 5

theorem statesLeft_le (r : Registers) : r.statesLeft ≤ 5 := by
  unfold statesLeft
  split <;> first | omega | (split <;> omega)

variable {config : Config} {r : Registers}

/-- An execution leaves a load or a store and an advance at most. -/
theorem statesLeft_passed_execute (h : r.Coherent config False) (state : r.state = .execute)
    (level : Nat → Bool) (w : Int) : (r.passed config level w).statesLeft ≤ 2 := by
  have choice := ((opened_setUp h).execute ((setUp_frame config r).1.trans state)).2.2
  have next : (r.passed config level w).state = (r.setUp config).choice := by
    rw [passed_execute state]
    exact (executed_latches ..).2.1
  have follows : (r.passed config level w).state ∈ State.successors .execute := by
    rw [next, choice]
    exact (follows_executeChoice _ _).1
  simp only [State.successors, List.mem_cons, List.not_mem_nil, or_false] at follows
  unfold statesLeft
  rcases follows with next | next | next | next <;> rw [next] <;> simp only
  · decide
  · split <;> decide

end Registers

namespace Machine

variable {m : Machine Bus} {level : Nat → Bool}

/-- Every state of an instruction leaves fewer states than it found. -/
theorem Ready.statesLeft_passed (h : m.Ready) (going : m.processor.settled = false)
    (level : Nat → Bool) :
    (m.passed level).processor.registers.statesLeft < m.processor.registers.statesLeft := by
  obtain ⟨-, -, registers, -, -, -⟩ := h.stage level
  have words := h.coherent.words
  rw [registers]
  cases state : m.processor.registers.state with
  | reset =>
    rw [Registers.passed_reset level _ state words]
    simp [Registers.statesLeft, state, Registers.timed, Registers.latched]
  | fetch =>
    have first : m.processor.registers.first = true := congrArg Registers.first h.timed
    have dispatch : m.processor.registers.dispatch = true := by
      simpa [Processor.settled, Processor.atFetch, Processor.halted, state, first] using going
    rw [Registers.passed_dispatch level _ state dispatch words]
    simp [Registers.statesLeft, state, dispatch, Registers.timed, Registers.latched]
  | indirect =>
    rw [Registers.passed_indirect state words]
    simp [Registers.statesLeft, state, Registers.timed, Registers.latched]
  | operand =>
    rw [Registers.passed_operand state words h.fits_read]
    simp [Registers.statesLeft, state, Registers.timed, Registers.latched]
  | execute =>
    have few := Registers.statesLeft_passed_execute h.coherent state level
      (m.bus.read m.bus.address).1
    rw [show m.processor.registers.statesLeft = 3 by rw [Registers.statesLeft, state]]
    omega
  | store =>
    rw [Registers.passed_store state words]
    simp [Registers.statesLeft, state, Registers.timed, Registers.latched]
  | load =>
    rw [Registers.passed_load state words h.fits_read]
    simp [Registers.statesLeft, state, Registers.timed, Registers.latched]
  | advance =>
    rw [Registers.passed_advance state words]
    simp [Registers.statesLeft, state, Registers.timed, Registers.latched,
      h.undispatched (by simp [state])]
  | halt => simp [Processor.settled, Processor.halted, state] at going

/-- From the beginning of any state it is not far to the next fetch or to a halt. -/
theorem Ready.exists_settled (h : m.Ready) (level : Nat → Bool) :
    ∃ k ≤ m.processor.registers.statesLeft * (m.processor.config.width + 1),
      (m.run level k).processor.settled = true := by
  induction left : m.processor.registers.statesLeft using Nat.strong_induction_on
    generalizing m level with
  | _ n ih =>
    cases settled : m.processor.settled with
    | true => exact ⟨0, Nat.zero_le _, settled⟩
    | false =>
      obtain ⟨ready, config, -, -, -, -⟩ := h.stage level
      have fewer := h.statesLeft_passed settled level
      obtain ⟨k, le, there⟩ := ih _ (left ▸ fewer) ready (m.later level) rfl
      refine ⟨m.processor.config.width + 1 + k, ?_, ?_⟩
      · rw [config] at le
        have more : (m.passed level).processor.registers.statesLeft + 1 ≤ n := left ▸ fewer
        calc m.processor.config.width + 1 + k
            ≤ ((m.passed level).processor.registers.statesLeft + 1) *
                (m.processor.config.width + 1) := by
              rw [Nat.add_mul, Nat.one_mul]
              omega
          _ ≤ n * (m.processor.config.width + 1) := Nat.mul_le_mul_right _ more
      · rw [run_add]
        exact there

/-- An instruction is over when the machine has come to a fetch or to a halt. -/
theorem Performs.le_of_settled {cycles k : Nat} {reports : List Event}
    {outcome : WordMachine.Outcome} (h : m.Performs level cycles reports outcome) (pos : 0 < k)
    (settled : (m.run level k).processor.settled = true) : cycles ≤ k := by
  by_contra lt
  simp [h.unsettled k pos (by omega)] at settled

end Machine

namespace Emulator

variable {e : Emulator}

/-- A run from `e` on has come in `n` cycles to the end of an instruction; `before` were counted
when it began. -/
structure Finished (e : Emulator) (before n : Nat) (r : Run Emulator) : Prop where
  machine : r.state.machine = e.machine.clocks n
  executed : r.executed = before + n
  ending : r.ending =
    .ok (if (e.machine.clocks n).processor.halted then .halted else .stopped)

theorem processor_moved (e : Emulator) (lastEvent : Option BreakEvent) (transferStop : Bool) :
    (e.moved lastEvent transferStop).processor = (e.machine.act .clock).processor := rfl

/-- A run with enough cycles goes to the next fetch or halt, whatever transfers are watched. -/
theorem Sound.finished_extend (h : e.Sound) {n budget : Nat} (pos : 0 < n) (le : n ≤ budget)
    (unsettled : ∀ k, 0 < k → k < n → (e.machine.clocks k).processor.settled = false)
    (settled : (e.machine.clocks n).processor.settled = true) (before : Nat)
    (events : Array Event) :
    e.Finished before n (Run.extend Emulator.stepUnwatched (fun e => e.processor.atFetch) budget e
      before events) := by
  induction n, pos using Nat.le_induction generalizing e budget before events with
  | base =>
    obtain ⟨budget, rfl⟩ := Nat.exists_eq_add_one.2 le
    obtain ⟨lastEvent, transferStop, _, turn, -, -⟩ := h.exists_stepUnwatched_eq
    have settled : (e.machine.act .clock).processor.settled = true := settled
    unfold Run.extend
    simp only [turn, processor_moved]
    cases halted : (e.machine.act .clock).processor.halted with
    | true => exact ⟨rfl, rfl, by simp [Machine.clocks, halted]⟩
    | false =>
      have fetch : (e.machine.act .clock).processor.atFetch = true := by
        simpa [Processor.settled, halted] using settled
      simp only [Bool.false_eq_true, if_false, fetch, if_true]
      exact ⟨rfl, rfl, by simp [Machine.clocks, halted]⟩
  | succ n pos ih =>
    obtain ⟨budget, rfl⟩ := Nat.exists_eq_add_one.2 (n.succ_pos.trans_le le)
    obtain ⟨lastEvent, transferStop, reported, turn, -, -⟩ := h.exists_stepUnwatched_eq
    have sound := h.stepUnwatched
    have inside : (e.machine.act .clock).processor.settled = false :=
      unsettled 1 Nat.one_pos (by omega)
    rw [Processor.settled, Bool.or_eq_false_iff] at inside
    rw [turn] at sound
    unfold Run.extend
    simp only [turn, processor_moved, inside.1, inside.2, Bool.false_eq_true, if_false]
    have enough : n ≤ budget := by omega
    have rest := ih sound enough (fun k pos lt => unsettled (k + 1) k.succ_pos (by omega)) settled
      (before + 1) (events ++ reported)
    exact ⟨rest.machine, rest.executed.trans (by omega), rest.ending⟩

/-- A single-instruction run of an emulator goes to the end of the instruction. -/
theorem Sound.finished_stepInstruction (h : e.Sound) {n : Nat} (pos : 0 < n)
    (le : n ≤ 16 * (e.processor.config.width + 1))
    (unsettled : ∀ k, 0 < k → k < n → (e.machine.clocks k).processor.settled = false)
    (settled : (e.machine.clocks n).processor.settled = true) :
    e.Finished 0 n (Clocked.stepInstruction none e) := by
  have limit : (Clocked.instructionLimit e.processor.config.width).toNat =
      16 * (e.processor.config.width + 1) := by
    rw [Clocked.instructionLimit]
    omega
  have finished := h.finished_extend pos (limit ▸ le) unsettled settled 0 #[]
  exact finished

end Emulator

end SerialMachine
