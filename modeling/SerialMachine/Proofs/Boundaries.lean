import SerialMachine.Proofs.Pacing
import SerialMachine.Proofs.Resumption
import SerialMachine.Proofs.SingleSteps
import SerialMachine.Proofs.Stops
import SerialMachine.Proofs.UntilPc

/-!
# The end of an instruction

A host may ask for the rest of an instruction in any cycle, with registers overwritten as it likes.
Every clock cycle then lowers the number of cycles that the states ahead can still take, and no
instruction has more than six states ahead. Main statement: a run of a single instruction goes, in
at least one and at most `6 * (n + 1)` cycles, exactly to the next fetch of an instruction or to a
halt, as the same number of single cycles does, and uses up no request of the debugger on the way.
-/

namespace SerialMachine

namespace Registers

/-- A fetch that serves an interrupt goes on with the fetch of the handler. -/
def Serving (r : Registers) : Prop :=
  r.dispatch = true → r.state = .fetch ∧ (r.first = false → r.choice = .fetch)

/-- The number of states before the next boundary of an instruction, the state in progress among
them, at most. The fetch of an instruction leads to the longest way. -/
def statesAhead (r : Registers) : Nat :=
  if r.state = .fetch ∧ r.dispatch = false then 6 else r.statesLeft

/-- The number of clock cycles before the next boundary of an instruction, at most. -/
def cyclesAhead (config : Config) (r : Registers) : Nat :=
  r.statesAhead * (config.width + 1) - r.cycle.toNat

variable {config : Config} {r worked next : Registers} {m : Timing.Markers} {bit : Int}

theorem statesAhead_le (r : Registers) : r.statesAhead ≤ 6 := by
  have := r.statesLeft_le
  unfold statesAhead
  split <;> omega

theorem statesAhead_pos (going : r.state ≠ .halt) : 0 < r.statesAhead := by
  unfold statesAhead statesLeft
  split
  · decide
  · next other =>
    cases state : r.state with
    | halt => exact absurd state going
    | fetch =>
      have dispatch : r.dispatch = true := by simpa [state] using other
      simp [dispatch]
    | _ => simp

theorem cyclesAhead_le (config : Config) (r : Registers) :
    r.cyclesAhead config ≤ 6 * (config.width + 1) :=
  (Nat.sub_le _ _).trans (Nat.mul_le_mul_right _ r.statesAhead_le)

/-! ## The latch of a dispatch -/

theorem work_dispatch (done : r.work config bit m = .ok worked) (fetch : r.state = .fetch)
    (serves : r.dispatch = true) :
    worked.choice = (if m.first then .fetch else r.choice) ∧
      (m.first = false → worked.dispatch = !m.last) := by
  rw [work, fetch] at done
  obtain rfl := Except.ok.inj done
  rw [Cycle.fetch, if_pos serves, Cycle.dispatch]
  cases m.first <;> simp

/-- A data cycle that is neither of a fetch nor of a halt leaves the latch alone. -/
theorem dispatch_work_data (done : r.work config bit m = .ok worked) (data : m.first = false)
    (fetch : r.state ≠ .fetch) (halt : r.state ≠ .halt) : worked.dispatch = r.dispatch := by
  unfold work at done
  cases state : r.state with
  | fetch => exact absurd state fetch
  | halt => exact absurd state halt
  | execute =>
    simp only [state, Cycle.execute] at done
    cases found : r.operation config with
    | error absent => simp [found, bind, Except.bind] at done
    | ok operation =>
      simp only [found, data] at done
      exact dispatch_executeBit done
  | reset | indirect | operand | store | load | advance =>
    simp only [state] at done
    obtain rfl := Except.ok.inj done
    simp only [Cycle.reset, Cycle.indirect, Cycle.operand, Cycle.store, Cycle.load, Cycle.advance,
      data]
    rfl

/-! ## One cycle -/

theorem statesAhead_of_same {s : Registers} (state : s.state = r.state)
    (dispatch : r.state = .fetch → s.dispatch = r.dispatch) : s.statesAhead = r.statesAhead := by
  unfold statesAhead statesLeft
  rw [state]
  cases fetch : r.state with
  | fetch => rw [dispatch fetch]
  | _ => rfl

/-- Whether the record is at the first cycle of the fetch of an instruction, or in a halt. -/
def bounds (r : Registers) : Bool :=
  r.state == .fetch && r.first && !r.dispatch || r.state == .halt

/-- A state that is entered, unless at a boundary, has fewer states ahead than the one before. -/
theorem statesAhead_lt {s : Registers} (follows : s.state ∈ r.state.successors)
    (first : s.first = true) (inside : s.bounds = false)
    (serving : r.state = .fetch → r.dispatch = true → s.state = .fetch ∧ s.dispatch = false)
    (served : s.dispatch = true → s.state = .fetch ∧ r.state = .fetch ∧ r.dispatch = false) :
    s.statesAhead < r.statesAhead := by
  cases dispatch : s.dispatch with
  | true =>
    obtain ⟨fetch, fetch', plain⟩ := served dispatch
    simp [statesAhead, statesLeft, fetch, fetch', plain, dispatch]
  | false =>
    have apart : s.state ≠ .fetch ∧ s.state ≠ .halt := by
      simpa [bounds, first, dispatch] using inside
    have left : s.statesAhead = s.statesLeft := if_neg fun both => apart.1 both.1
    have few := s.statesLeft_le
    rw [left]
    cases state : r.state with
    | fetch =>
      cases serves : r.dispatch with
      | true => exact absurd (serving state serves).1 apart.1
      | false =>
        rw [statesAhead, if_pos ⟨state, serves⟩]
        omega
    | _ =>
      rw [state] at follows
      simp only [State.successors, List.mem_cons, List.not_mem_nil, or_false] at follows
      rw [statesAhead, if_neg (by simp [state])]
      unfold statesLeft
      rw [state]
      revert follows apart
      cases s.state <;> simp

/-- The work of a cycle, and what comes of it with the markers that the cycle has. -/
theorem Sound.exists_marked (h : r.Sound config) (bit : Int) (irq : Bool) :
    ∃ (c : Nat) (worked : Registers), c ≤ config.width ∧ r.cycle = c ∧ r.first = (c == 0) ∧
      (r.latched config irq).work config bit
        { first := c == 0, lastFour := (c : Int) > (config.width : Int) - 4
          last := c == config.width } = .ok worked ∧ worked.state = r.state ∧
      (c < config.width → r.transition config bit irq = .ok (worked.timed config (c + 1))) ∧
      (c = config.width → State.Follows config worked.state worked.choice ∧
        r.transition config bit irq = .ok (worked.entering config)) := by
  obtain ⟨c, le, timed, -⟩ := id h
  obtain ⟨c', -, worked, cycle, work, same, -, proceeds, enters⟩ := h.exists_worked bit irq
  obtain rfl : c' = c := by
    have := congrArg Registers.cycle timed
    simp only [Registers.timed] at this
    omega
  rw [markers_cast] at work
  exact ⟨c', worked, le, cycle, congrArg Registers.first timed, work, same, proceeds, enters⟩

/-- A fetch goes on serving an interrupt once it does, and the last cycle before it sees to that. -/
theorem Serving.transition (serving : r.Serving) (h : r.Sound config) {irq : Bool}
    (done : r.transition config bit irq = .ok next) : next.Serving := by
  obtain ⟨c, worked, le, -, start, work, same, proceeds, enters⟩ := h.exists_marked bit irq
  rcases le.lt_or_eq with lt | rfl
  · obtain rfl := Except.ok.inj (done.symm.trans (proceeds lt))
    intro serves
    have kept := dispatch_work work (by simpa using lt.ne)
    have serves : worked.dispatch = true := serves
    rw [kept, Bool.and_eq_true] at serves
    obtain ⟨fetch, chosen⟩ := serving serves.1
    refine ⟨same.trans fetch, fun _ => ?_⟩
    show worked.choice = .fetch
    rw [(work_dispatch work fetch serves.1).1]
    split
    · rfl
    · next data => exact chosen (by simpa [start] using data)
  · obtain ⟨-, entered⟩ := enters rfl
    obtain rfl := Except.ok.inj (done.symm.trans entered)
    have wide := config.width_pos
    exact fun serves => ⟨choice_of_dispatch work (by simp; omega) (by simp)
      (fun held => (serving held).1) serves, fun again => by cases again⟩

/-- The last cycle of a state enters another one, which has fewer states ahead. -/
theorem statesAhead_entering_lt (serving : r.Serving) (going : r.state ≠ .halt) {irq : Bool}
    (work : (r.latched config irq).work config bit m = .ok worked) (data : m.first = false)
    (last : m.last = true) (begun : r.first = false)
    (follows : worked.choice ∈ r.state.successors) (after : (worked.entering config).Serving)
    (inside : (worked.entering config).bounds = false) :
    (worked.entering config).statesAhead < r.statesAhead := by
  refine statesAhead_lt follows rfl inside (fun fetch serves => ?_) fun serves => ?_
  · obtain ⟨choice, served⟩ := work_dispatch work fetch serves
    simp only [data, Bool.false_eq_true, if_false] at choice
    exact ⟨choice.trans ((serving serves).2 begun), (served data).trans (by simp [last])⟩
  · refine ⟨(after serves).1, ?_⟩
    by_cases fetch : r.state = .fetch
    · refine ⟨fetch, ?_⟩
      by_contra held
      have held : r.dispatch = true := by simpa using held
      have served : worked.dispatch = false :=
        ((work_dispatch work fetch held).2 data).trans (by simp [last])
      exact absurd (served.symm.trans serves) (by decide)
    · have kept := dispatch_work_data work data fetch going
      exact absurd (serving (kept.symm.trans serves)).1 fetch

/-- A clock cycle comes to a boundary or lowers the number of cycles ahead. -/
theorem Sound.cyclesAhead_lt (h : r.Sound config) (serving : r.Serving) (going : r.state ≠ .halt)
    {irq : Bool} (done : r.transition config bit irq = .ok next) (inside : next.bounds = false) :
    next.cyclesAhead config < r.cyclesAhead config := by
  have after := serving.transition h done
  obtain ⟨c, worked, le, cycle, start, work, same, proceeds, enters⟩ := h.exists_marked bit irq
  have ahead : config.width + 1 ≤ r.statesAhead * (config.width + 1) :=
    Nat.le_mul_of_pos_left _ (statesAhead_pos going)
  rw [cyclesAhead, cyclesAhead, cycle, Int.toNat_natCast]
  rcases le.lt_or_eq with lt | rfl
  · obtain rfl := Except.ok.inj (done.symm.trans (proceeds lt))
    have alike : (worked.timed config (c + 1)).statesAhead = r.statesAhead :=
      statesAhead_of_same same fun fetch => by
        rw [show (worked.timed config (c + 1)).dispatch = worked.dispatch from rfl,
          dispatch_work work (by simpa using lt.ne)]
        simp [latched, fetch]
    rw [alike, show (worked.timed config (c + 1)).cycle = ((c + 1 : Nat) : Int) from rfl,
      Int.toNat_natCast]
    omega
  · obtain ⟨follows, entered⟩ := enters rfl
    obtain rfl := Except.ok.inj (done.symm.trans entered)
    have data : (config.width == 0) = false := by simpa using config.width_pos.ne'
    have fewer := statesAhead_entering_lt serving going work data (beq_self_eq_true _)
      (start.trans data) (same ▸ follows.1) after inside
    have more := Nat.mul_le_mul_right (config.width + 1) (Nat.succ_le_of_lt fewer)
    rw [Nat.succ_mul] at more
    rw [show (worked.entering config).cycle = 0 from rfl, Int.toNat_zero]
    omega

theorem Serving.set (serving : r.Serving) (x : Register) (value : Int) :
    (r.set x value).Serving := by
  cases x <;> exact serving

theorem cyclesAhead_pos (h : r.Sound config) (going : r.state ≠ .halt) :
    0 < r.cyclesAhead config := by
  obtain ⟨c, le, timed, -⟩ := h
  have ahead : config.width + 1 ≤ r.statesAhead * (config.width + 1) :=
    Nat.le_mul_of_pos_left _ (statesAhead_pos going)
  rw [cyclesAhead, show r.cycle = c from congrArg Registers.cycle timed, Int.toNat_natCast]
  omega

end Registers

namespace Machine

variable {m : Machine Bus}

theorem serving_act (serving : m.processor.registers.Serving) (sound : m.processor.Sound)
    (action : Action) : (m.act action).processor.registers.Serving := by
  cases action with
  | clock =>
    obtain ⟨bit, done⟩ := exists_transition sound
    exact serving.transition sound.registers done
  | overwrite values =>
    exact List.foldlRecOn _ _ serving fun r still entry _ => still.set entry.1 _
  | _ => exact serving

/-- From any cycle outside a halt the clock comes to a boundary of an instruction, and the states
ahead bound the number of cycles. -/
theorem exists_boundary (sound : m.processor.Sound) (serving : m.processor.registers.Serving)
    (going : m.processor.halted = false) :
    ∃ n, 0 < n ∧ n ≤ m.processor.registers.cyclesAhead m.processor.config ∧
      (m.clocks n).processor.settled = true ∧
      ∀ k, 0 < k → k < n → (m.clocks k).processor.settled = false := by
  induction ahead : m.processor.registers.cyclesAhead m.processor.config using
    Nat.strong_induction_on generalizing m with
  | _ left ih =>
    have open_ : m.processor.registers.state ≠ .halt := by simpa [Processor.halted] using going
    have pos := Registers.cyclesAhead_pos sound.registers open_
    cases settled : (m.act .clock).processor.settled with
    | true => exact ⟨1, Nat.one_pos, ahead ▸ pos, settled, fun k pos lt => by omega⟩
    | false =>
      obtain ⟨bit, done⟩ := exists_transition sound
      obtain ⟨sound', config⟩ := sound_act sound .clock
      have inside := settled
      rw [Processor.settled, Bool.or_eq_false_iff] at inside
      have fewer := sound.registers.cyclesAhead_lt serving open_ done settled
      rw [ahead, ← config] at fewer
      obtain ⟨n, pos, le, there, before⟩ :=
        ih _ fewer sound' (serving_act serving sound .clock) inside.2 rfl
      refine ⟨n + 1, n.succ_pos, by omega, there, ?_⟩
      rintro (_ | _ | k) pos lt
      · omega
      · exact settled
      · exact before (k + 1) k.succ_pos (by omega)

end Machine

namespace Emulator

variable {e : Emulator}

theorem serving_after (settings : Settings) (requests : List Request) :
    ((make settings).after requests).machine.processor.registers.Serving := by
  refine machine_after (fun _ action sound serving => Machine.serving_act serving sound action)
    (fun _ _ _ _ _ serving => serving) (fun _ _ serving => serving)
    (fun _ _ serves => ?_) (fun serves => ?_) requests
  · cases serves
  · cases serves

theorem machine_steps (e : Emulator) (n : Nat) :
    (e.after (List.replicate n .step)).machine = e.machine.clocks n := by
  induction n generalizing e with
  | zero => rfl
  | succ n ih =>
    rw [Machine.clocks, show e.machine.act .clock = e.step.state.machine from e.machine_step.1.symm]
    exact ih e.step.state

/-- A run with nobody watching fetches may note word transfers, and changes nothing else around the
machine. -/
theorem exists_stepInstruction_eq (e : Emulator) : ∃ machine lastEvent transferStop,
    e.stepInstruction.state =
      { e with machine, breakpoints := e.breakpoints.withLast lastEvent, transferStop } := by
  refine state_extend (P := fun s : Emulator => ∃ machine lastEvent transferStop,
    s = { e with machine, breakpoints := e.breakpoints.withLast lastEvent, transferStop })
    (fun s kept => ?_) _ _ ⟨e.machine, e.breakpoints.lastEvent, e.transferStop, rfl⟩ 0 #[]
  obtain ⟨machine, lastEvent, transferStop, rfl⟩ := kept
  obtain ⟨lastEvent', transferStop', watched, -⟩ :=
    exists_foldl_noteTransfer_eq { e with
      machine := machine.step.state, breakpoints := e.breakpoints.withLast lastEvent, transferStop }
      machine.step.events
  exact ⟨machine.step.state, lastEvent', transferStop', watched⟩

/-- The answer of a run of a single instruction that has come to its end. -/
theorem Finished.answer {n : Nat} (h : e.Finished 0 n (Clocked.stepInstruction none e))
    (sound : e.Sound) : ∃ event, e.stepInstruction.answer = .ok event ∧ event.cycles = n ∧
      event.reason = (if (e.machine.clocks n).processor.halted then .halted else .step) ∧
      event.address = some (e.machine.clocks n).processor.registers.pc := by
  obtain ⟨machine, executed, ending⟩ := h
  have running : (e.machine.clocks n).processor.fault = none :=
    (Machine.clocks_eq_run sound.processor n).2.1.running
  simp only [stepInstruction, ending, Except.map, processor, machine, running, executed, here,
    Option.isSome_none, Bool.false_eq_true, if_false, Nat.zero_add]
  split <;> exact ⟨_, rfl, rfl, rfl, rfl⟩

end Emulator

/-! ## An observer left out for one instruction -/

namespace Station

variable {s : Station Bus}

theorem exists_stepUnwatched_eq (sound : s.machine.processor.Sound)
    (roomy : s.machine.processor.config.roomy = true) :
    ∃ events, s.stepUnwatched = {
      state := { s with machine := s.machine.act .clock }
      events
      status := .ok (if (s.machine.act .clock).processor.halted then .halted else .normal) } := by
  obtain ⟨signals, next, -, step⟩ := Machine.exists_step sound
  refine ⟨s.machine.step.events, ?_⟩
  simp only [stepUnwatched, turn, Machine.crampedStep?_eq_none roomy, Option.getD_none, Machine.act,
    step]
  rfl

theorem state_extend (sound : s.machine.processor.Sound)
    (roomy : s.machine.processor.config.roomy = true) {n budget : Nat} (pos : 0 < n)
    (le : n ≤ budget)
    (inside : ∀ k, 0 < k → k < n → (s.machine.clocks k).processor.settled = false)
    (boundary : (s.machine.clocks n).processor.settled = true) (executed : Nat)
    (events : Array Event) :
    (Run.extend stepUnwatched (fun s => s.machine.processor.atFetch) budget s executed
      events).state = { s with machine := s.machine.clocks n } := by
  induction n, pos using Nat.le_induction generalizing s budget executed events with
  | base =>
    obtain ⟨budget, rfl⟩ := Nat.exists_eq_add_one.2 le
    obtain ⟨_, turn⟩ := exists_stepUnwatched_eq sound roomy
    have settled : (s.machine.act .clock).processor.settled = true := boundary
    have last : ¬Run.Passes stepUnwatched (fun s => s.machine.processor.atFetch) s := by
      rintro ⟨status, away⟩
      rw [turn] at status away
      simp_all [Processor.settled]
    obtain ⟨_, _, -, -, ends⟩ := Run.extend_of_not_passes last
    rw [ends, turn]
    rfl
  | succ n pos ih =>
    obtain ⟨budget, rfl⟩ := Nat.exists_eq_add_one.2 (n.succ_pos.trans_le le)
    obtain ⟨reported, turn⟩ := exists_stepUnwatched_eq sound roomy
    obtain ⟨sound', config⟩ := Machine.sound_act sound .clock
    have roomy' : (s.machine.act .clock).processor.config.roomy = true := by
      rw [config]
      exact roomy
    have within : (s.machine.act .clock).processor.settled = false :=
      inside 1 Nat.one_pos (by omega)
    rw [Processor.settled, Bool.or_eq_false_iff] at within
    have passes : Run.Passes stepUnwatched (fun s => s.machine.processor.atFetch) s := by
      rw [Run.Passes, turn]
      simp [within.1, within.2]
    rw [Run.extend_of_passes passes, turn]
    exact ih (s := { s with machine := s.machine.act .clock }) sound' roomy' (by omega)
      (fun k pos lt => inside (k + 1) k.succ_pos (by omega)) boundary (executed + 1)
      (events ++ reported)

/-- The observer is there again after the run, and has seen nothing of it. -/
theorem state_stepInstruction (sound : s.machine.processor.Sound)
    (roomy : s.machine.processor.config.roomy = true) {n : Nat} (pos : 0 < n)
    (le : n ≤ 16 * (s.machine.processor.config.width + 1))
    (inside : ∀ k, 0 < k → k < n → (s.machine.clocks k).processor.settled = false)
    (boundary : (s.machine.clocks n).processor.settled = true) :
    (Clocked.stepInstruction none s).state = { s with machine := s.machine.clocks n } := by
  have limit : (Clocked.instructionLimit s.machine.processor.config.width).toNat =
      16 * (s.machine.processor.config.width + 1) := by
    rw [Clocked.instructionLimit]
    omega
  exact state_extend sound roomy pos (limit ▸ le) inside boundary 0 #[]

end Station

/-! ## The rest of an instruction -/

namespace Emulator

variable {e : Emulator}

/-- A run of a single instruction from `e` on takes `n` cycles, and comes to this. -/
structure EndsInstruction (e : Emulator) (n : Nat) : Prop where
  positive : 0 < n
  within : n ≤ 6 * (e.processor.config.width + 1)
  /-- The last cycle comes to the fetch of an instruction or to a halt. -/
  boundary : (e.machine.clocks n).processor.settled = true
  /-- No cycle before does. -/
  inside : ∀ k, 0 < k → k < n → (e.machine.clocks k).processor.settled = false
  steps : ∀ k, (e.after (List.replicate k .step)).machine = e.machine.clocks k
  /-- Around the machine nothing changes but what a watched word transfer leaves. -/
  state : ∃ lastEvent transferStop, e.stepInstruction.state =
    { e with
      machine := e.machine.clocks n, breakpoints := e.breakpoints.withLast lastEvent
      transferStop }
  cycles : e.stepInstruction.state.processor.cycles = e.processor.cycles + n
  answer : ∃ event, e.stepInstruction.answer = .ok event ∧ event.cycles = n ∧
    event.reason = (if (e.machine.clocks n).processor.halted then .halted else .step) ∧
    event.address = some (e.machine.clocks n).processor.registers.pc
  /-- The cycles that a run is given are not what ends it. -/
  limit : (Clocked.stepInstruction none e).ending ≠ .ok .exhausted
  /-- Fetches are watched again. -/
  watched : ∀ maxCycles, ∃ k, e.stepInstruction.state.StopsAtFetches maxCycles k
  /-- So they are where another observer of the same machine was left out. -/
  observed : ∀ s : Station Bus, s.machine = e.machine →
    s.machine.processor.config.roomy = true →
      (Clocked.stepInstruction none s).state = { s with machine := e.machine.clocks n }

theorem Sound.exists_endsInstruction (h : e.Sound)
    (serving : e.machine.processor.registers.Serving) (going : e.processor.halted = false) :
    ∃ n, e.EndsInstruction n := by
  obtain ⟨n, pos, le, boundary, inside⟩ := Machine.exists_boundary h.processor serving going
  have within : n ≤ 6 * (e.processor.config.width + 1) :=
    le.trans (Registers.cyclesAhead_le ..)
  have enough : n ≤ 16 * (e.processor.config.width + 1) := by omega
  have finished := h.finished_stepInstruction pos enough inside boundary
  have machine : e.stepInstruction.state.machine = e.machine.clocks n := finished.machine
  refine ⟨n, pos, within, boundary, inside, e.machine_steps, ?_, ?_, finished.answer h, ?_, ?_, ?_⟩
  · obtain ⟨machine', lastEvent, transferStop, kept⟩ := e.exists_stepInstruction_eq
    refine ⟨lastEvent, transferStop, ?_⟩
    rw [kept] at machine ⊢
    rw [← machine]
  · rw [Emulator.processor, machine, Machine.cycles_clocks h.processor n]
    rfl
  · rw [finished.ending]
    split <;> simp
  · exact fun maxCycles => (h.handle (.stepInstruction none)).stopsAtFetches maxCycles
  · intro s same roomy
    obtain ⟨machine, stopAt, stopRequested, fetched⟩ := s
    obtain rfl : machine = e.machine := same
    exact Station.state_stepInstruction h.processor roomy pos enough inside boundary

/-- In every session, from any cycle outside a halt, a run of a single instruction goes exactly to
the end of the instruction. -/
theorem step_instruction_ends (settings : Settings) (requests : List Request)
    (going : ((make settings).after requests).processor.halted = false) :
    ∃ n, ((make settings).after requests).EndsInstruction n :=
  (sound_after settings requests).exists_endsInstruction (serving_after settings requests) going

/-- The rest of a reset whose program counter has been overwritten on the way. -/
theorem step_instruction_ends_reset :
    ((make {}).after [.step, .step, .act (.overwrite [(⟨.pc, by decide⟩, 5)])]).processor.halted =
        false ∧
      ∃ n, ((make {}).after
        [.step, .step, .act (.overwrite [(⟨.pc, by decide⟩, 5)])]).EndsInstruction n := by
  have going : ((make {}).after
      [.step, .step, .act (.overwrite [(⟨.pc, by decide⟩, 5)])]).processor.halted = false := by rfl
  exact ⟨going, step_instruction_ends {} _ going⟩

end Emulator

end SerialMachine
