import SerialMachine.Proofs.Emulation
import SerialMachine.ScriptedBus
import SerialMachine.Station

/-!
# Faults

A processor may be attached to anything that answers its lines, and its registers may hold anything.
Main statement: the cycle that meets a fault leaves the processor as it was but for the fault, which
carries registers and count of cycles, and from then on nothing moves until a reset.
-/

namespace SerialMachine

/-! ## A clock cycle -/

/-- How a clock cycle of a machine may go. -/
inductive Machine.Turns {β : Type} (m : Machine β) : Step (Machine β) → Prop
  /-- A fault has stopped the processor. -/
  | stopped (fault : m.processor.fault.isSome = true) :
    m.Turns { state := m, events := [], status := .ok .faulted }
  /-- The cycle meets a violation, before the bus has been through it or after. -/
  | failed (running : m.processor.fault = none) (bus : β) (events : List Event) (fault : Fault)
      (snapshot : fault.snapshot = some m.processor.registers)
      (cycle : fault.cycle = some (m.processor.cycles : Int)) :
    m.Turns {
      state := { processor := { m.processor with fault := some fault }, bus }
      events := events ++ [.faulted fault.text]
      status := .ok .faulted }
  | refused (running : m.processor.fault = none) (bus : β) (events : List Event)
      (refusal : Refusal) :
    m.Turns (refused m.processor bus events refusal)
  | completed (running : m.processor.fault = none) (bus : β) (events : List Event)
      (signals : Signals) (next : Registers) :
    m.Turns {
      state := { processor := m.processor.commit signals next, bus }
      events
      status := .ok (if next.state == .halt then .halted else .normal) }

/-- A fault, if there is one, carries the registers and the count of cycles. -/
def Processor.FaultInContext (p : Processor) : Prop :=
  ∀ fault, p.fault = some fault →
    fault.snapshot = some p.registers ∧ fault.cycle = some (p.cycles : Int)

namespace Machine

variable {β : Type} {m : Machine β}

/-- A violation stops the processor, unless it cannot be reported. -/
theorem turns_failed (running : m.processor.fault = none) (bus : β) (events : List Event)
    (violation : Violation) : m.Turns (failed m.processor bus events violation) := by
  unfold failed Processor.fail
  cases made : Fault.withContext violation m.processor.registers m.processor.cycles with
  | error cause => exact .refused running bus events (.invalid cause)
  | ok fault =>
    obtain rfl := Fault.eq_of_make made
    exact .failed running bus events _ rfl rfl

theorem turns_answered (running : m.processor.fault = none) (bus : β) (events : List Event)
    (signals : Signals) (bit : Int) : m.Turns (answered m.processor bus events signals bit) := by
  unfold answered
  split
  · exact turns_failed running bus events .strayInput
  · split
    · next violation _ => exact turns_failed running bus events violation
    · next absent _ => exact .refused running bus events (.absent absent)
    · next cause _ => exact .refused running bus events (.invalid cause)
    · next next _ => exact .completed running bus _ signals next

theorem turns_step [SerialBus β] (m : Machine β) : m.Turns m.step := by
  unfold step
  simp only
  split
  · next fault => exact .stopped fault
  · next running =>
    have running : m.processor.fault = none := by simpa using running
    split
    · next absent _ => exact .refused running m.bus [] (.absent absent)
    · split
      · next violation _ => exact turns_failed running m.bus [] violation
      · split
        · next violation _ => exact turns_failed running _ _ violation
        · exact turns_answered running _ _ _ _

theorem turns_cramped [SerialBus β] {cramped : Step (Machine β)}
    (h : m.crampedStep? = some cramped) : m.Turns cramped := by
  simp only [crampedStep?] at h
  split at h
  · cases h
  · next open_ =>
    have running : m.processor.fault = none := by
      simp only [Bool.or_eq_true, not_or, Bool.not_eq_true, Option.isSome_eq_false_iff,
        Option.isNone_iff_eq_none] at open_
      exact open_.2
    repeat' split at h
    all_goals first
      | cases h
      | obtain ⟨cause, -, made⟩ := Option.bind_eq_some_iff.1 h
        obtain rfl := Option.some.inj made
        exact .refused running _ _ (.invalid cause)

namespace Turns

variable {turn : Step (Machine β)} (h : m.Turns turn)
include h

theorem faultInContext (context : m.processor.FaultInContext) :
    turn.state.processor.FaultInContext := by
  cases h with
  | stopped => exact context
  | failed _ _ _ fault snapshot cycle =>
    intro other met
    obtain rfl := Option.some.inj met
    exact ⟨snapshot, cycle⟩
  | refused => exact context
  | completed running _ _ signals next =>
    intro fault met
    exact absurd (running.symm.trans met) (by simp)

/-- A cycle that meets a fault has changed nothing else in the processor. -/
theorem processor_of_faulted (faulted : turn.status = .ok .faulted) :
    ∃ fault, turn.state.processor = { m.processor with fault := some fault } := by
  cases h with
  | stopped fault =>
    obtain ⟨fault, met⟩ := Option.isSome_iff_exists.1 fault
    exact ⟨fault, by rw [← met]⟩
  | failed => exact ⟨_, rfl⟩
  | refused => cases faulted
  | completed running _ _ signals next =>
    simp only [Except.ok.injEq] at faulted
    split at faulted <;> cases faulted

end Turns

end Machine

/-! ## Calls -/

/-- What a host asks of a processor that it clocks. -/
inductive Call
  | step
  | execute (budget : Int)
  | stepInstruction (limit : Option Int)

/-- What a host is answered. -/
inductive Answer
  | status (status : Status)
  | cycles (executed : Nat)

namespace Call

/-- What a call comes to: the state after it and, unless a cycle was refused, the answer. -/
def perform {σ : Type} [Clocked σ] (state : σ) : Call → σ × Except Refusal Answer
  | step =>
    let turn := Clocked.step state
    (turn.state, turn.status.map .status)
  | execute budget =>
    let run := Clocked.execute budget state
    (run.state, run.ending.map fun _ => .cycles run.executed)
  | stepInstruction limit =>
    let run := Clocked.stepInstruction limit state
    (run.state, run.ending.map fun _ => .cycles run.executed)

/-- The answer of a processor that a fault has stopped. -/
def stopped : Call → Answer
  | step => .status .faulted
  | _ => .cycles 0

end Call

/-- A run whose first cycle meets a fault. -/
theorem Run.start_of_faulted {σ : Type} {step : σ → Step σ} {s : σ}
    (faulted : (step s).status = .ok .faulted) (stop : σ → Bool) (budget : Nat) :
    (start step stop budget s).executed = 0 ∧
      (∃ ending, (start step stop budget s).ending = .ok ending) ∧
      ((start step stop budget s).state = s ∨
        (start step stop budget s).state = (step s).state) := by
  unfold start
  cases budget with
  | zero => exact ⟨rfl, ⟨_, rfl⟩, .inl rfl⟩
  | succ budget =>
    simp only [extend, faulted]
    simp

namespace Station

variable {β : Type}

theorem machine_observed (s : Station β) (events : List Event) :
    (events.foldl observe s).machine = s.machine := by
  induction events generalizing s with
  | nil => rfl
  | cons event rest ih =>
    rw [List.foldl_cons, ih]
    unfold observe
    split
    · split <;> rfl
    · rfl

section

-- Evaluating a turn compares the width with a huge number, so these two keep it a variable.
variable {s : Station β} {turn : Step (Machine β)} {t : Step (Station β)}

theorem observed
    (h : t = { turn with state := turn.events.foldl observe { s with machine := turn.state } }) :
    t.state.machine = turn.state ∧ t.status = turn.status := by
  subst h
  exact ⟨machine_observed { s with machine := turn.state } turn.events, rfl⟩

theorem unobserved (h : t = { turn with state := { s with machine := turn.state } }) :
    t.state.machine = turn.state ∧ t.status = turn.status := by
  subst h
  exact ⟨rfl, rfl⟩

end

variable [SerialBus β]

/-- The station after calls. -/
def after (s : Station β) (calls : List Call) : Station β :=
  calls.foldl (fun s call => (call.perform s).1) s

/-- What the calls are answered. -/
def answers (s : Station β) : List Call → List (Except Refusal Answer)
  | [] => []
  | call :: calls => (call.perform s).2 :: answers (call.perform s).1 calls

theorem turns_turn (s : Station β) : s.machine.Turns s.turn := by
  unfold turn
  cases h : s.machine.crampedStep? with
  | none => exact Machine.turns_step s.machine
  | some cramped => exact Machine.turns_cramped h

theorem step_turn (s : Station β) :
    (Clocked.step s).state.machine = s.turn.state ∧ (Clocked.step s).status = s.turn.status :=
  observed (s := s) (t := Clocked.step s) rfl

theorem stepUnwatched_turn (s : Station β) :
    (Clocked.stepUnwatched s).state.machine = s.turn.state ∧
      (Clocked.stepUnwatched s).status = s.turn.status :=
  unobserved (s := s) (t := Clocked.stepUnwatched s) rfl

/-! ## Fault-free so far -/

theorem faultInContext_perform {s : Station β} (context : s.machine.processor.FaultInContext)
    (call : Call) : (call.perform s).1.machine.processor.FaultInContext := by
  have turned (s : Station β) (context : s.machine.processor.FaultInContext) :
      (Clocked.stepUnwatched s).state.machine.processor.FaultInContext := by
    rw [(stepUnwatched_turn s).1]
    exact s.turns_turn.faultInContext context
  have stepped (s : Station β) (context : s.machine.processor.FaultInContext) :
      (Clocked.step s).state.machine.processor.FaultInContext := by
    rw [(step_turn s).1]
    exact s.turns_turn.faultInContext context
  cases call with
  | step =>
    simp only [Call.perform]
    exact stepped s context
  | execute budget =>
    exact Emulator.state_extend stepped _ _ (s := Clocked.clearStop s) context 0 #[]
  | stepInstruction limit => exact Emulator.state_extend turned _ _ context 0 #[]

theorem faultInContext_after {s : Station β} (context : s.machine.processor.FaultInContext)
    (calls : List Call) : (s.after calls).machine.processor.FaultInContext := by
  induction calls generalizing s with
  | nil => exact context
  | cons call calls ih => exact ih (faultInContext_perform context call)

/-! ## Stopped by a fault -/

section

variable {s : Station β} (stopped : s.machine.processor.fault.isSome = true)
include stopped

theorem turn_of_stopped :
    s.turn = { state := s.machine, events := [], status := .ok .faulted } := by
  have turns := s.turns_turn
  generalize s.turn = turn at turns
  cases turns with
  | stopped => rfl
  | failed running | refused running | completed running => simp [running] at stopped

theorem perform_of_stopped (call : Call) :
    (call.perform s).1.machine = s.machine ∧ (call.perform s).2 = .ok call.stopped := by
  -- For any station about the machine, since a run begins where the stop request is cleared.
  have stays (s' : Station β) (same : s'.machine = s.machine) :
      (Clocked.step s').status = .ok .faulted ∧ (Clocked.step s').state.machine = s.machine ∧
        (Clocked.stepUnwatched s').status = .ok .faulted ∧
        (Clocked.stepUnwatched s').state.machine = s.machine := by
    have turn := turn_of_stopped (s := s') (same ▸ stopped)
    rw [(step_turn s').1, (step_turn s').2, (stepUnwatched_turn s').1,
      (stepUnwatched_turn s').2, turn]
    exact ⟨rfl, same, rfl, same⟩
  cases call with
  | step =>
    obtain ⟨status, machine, -⟩ := stays s rfl
    exact ⟨machine, by simp only [Call.perform, status]; rfl⟩
  | execute budget =>
    obtain ⟨status, machine, -⟩ := stays (Clocked.clearStop s) rfl
    obtain ⟨executed, ⟨ending, ended⟩, state⟩ :=
      Run.start_of_faulted status Clocked.stopRequested budget.toNat
    simp only [Call.perform, Clocked.execute, executed, ended]
    refine ⟨?_, rfl⟩
    -- Without a budget not even the first cycle is tried.
    rcases state with waiting | turned
    · rw [waiting]
      rfl
    · rw [turned, machine]
  | stepInstruction limit =>
    obtain ⟨-, -, status, machine⟩ := stays s rfl
    obtain ⟨executed, ⟨ending, ended⟩, state⟩ := Run.start_of_faulted status
      (fun s => (Clocked.processor s).atFetch)
      (limit.getD (Clocked.instructionLimit (Clocked.processor s).config.width)).toNat
    simp only [Call.perform, Clocked.stepInstruction, executed, ended]
    refine ⟨?_, rfl⟩
    rcases state with waiting | turned
    · rw [waiting]
    · rw [turned, machine]

theorem after_of_stopped (calls : List Call) :
    (s.after calls).machine = s.machine ∧
      s.answers calls = calls.map fun call => .ok call.stopped := by
  induction calls generalizing s with
  | nil => exact ⟨rfl, rfl⟩
  | cons call calls ih =>
    obtain ⟨same, answer⟩ := perform_of_stopped stopped call
    obtain ⟨machine, answers⟩ := ih (s := (call.perform s).1) (same ▸ stopped)
    exact ⟨machine.trans same, congrArg₂ _ answer answers⟩

end

theorem fault_reset (s : Station β) : s.reset.1.machine.processor.fault = none := rfl

theorem stands_of_faulted {s t : Station β} {turn : Step (Machine β)}
    (turns : s.machine.Turns turn) (faulted : turn.status = .ok .faulted)
    (context : s.machine.processor.FaultInContext) (machine : t.machine = turn.state) :
    (∃ fault, t.machine.processor = { s.machine.processor with fault := some fault } ∧
      fault.snapshot = some s.machine.processor.registers ∧
      fault.cycle = some (s.machine.processor.cycles : Int)) ∧
    ∀ calls : List Call, (t.after calls).machine = t.machine ∧
      (t.answers calls = calls.map fun call => .ok call.stopped) ∧
      (t.after calls).reset.1.machine.processor.fault = none := by
  obtain ⟨fault, processor⟩ := turns.processor_of_faulted faulted
  have carries := turns.faultInContext context fault (by rw [processor])
  rw [← machine] at processor carries
  rw [processor] at carries
  refine ⟨⟨fault, processor, carries⟩, fun calls => ?_⟩
  have stopped : t.machine.processor.fault.isSome = true := by
    rw [processor]
    rfl
  obtain ⟨same, answers⟩ := after_of_stopped stopped calls
  exact ⟨same, answers, fault_reset _⟩

/-- In a session with a processor that began without a fault, whatever its registers and whatever
it is attached to, the cycle that reports a fault has changed nothing else in the processor. The
fault carries the registers and the count of cycles, and stops all calls until a reset. -/
theorem faults_stand (s : Station β) (running : s.machine.processor.fault = none)
    (before : List Call) (faulted : (Clocked.step (s.after before)).status = .ok .faulted) :
    let met := (s.after before).machine.processor
    let t := (Clocked.step (s.after before)).state
    (∃ fault, t.machine.processor = { met with fault := some fault } ∧
      fault.snapshot = some met.registers ∧ fault.cycle = some (met.cycles : Int)) ∧
    ∀ calls : List Call, (t.after calls).machine = t.machine ∧
      (t.answers calls = calls.map fun call => .ok call.stopped) ∧
      (t.after calls).reset.1.machine.processor.fault = none := by
  have context := faultInContext_after (s := s)
    (fun fault met => absurd (running.symm.trans met) (by simp)) before
  obtain ⟨machine, status⟩ := step_turn (s.after before)
  exact stands_of_faulted (turns_turn _) (status ▸ faulted) context machine

/-- A bus that drives the input line in the second cycle of a reset, when nothing is being read. -/
theorem faults_stand_noise :
    let s : Station ScriptedBus := { machine := {
      processor := { config := {}, registers := { acc := 0x1234 } }, bus := { bits := #[0, 1] } } }
    (Clocked.step (s.after [.step])).status = .ok .faulted ∧
      ∃ fault, (Clocked.step (s.after [.step])).state.machine.processor.fault = some fault ∧
        fault.cycle = some 1 ∧
        (Clocked.step (s.after [.step])).state.answers
            [.execute 100, .step, .stepInstruction none] =
          [.ok (.cycles 0), .ok (.status .faulted), .ok (.cycles 0)] := by
  intro s
  have faulted : (Clocked.step (s.after [.step])).status = .ok .faulted := by decide +kernel
  obtain ⟨⟨fault, processor, -, cycle⟩, stopped⟩ := faults_stand s rfl [.step] faulted
  refine ⟨faulted, fault, congrArg Processor.fault processor, ?_, (stopped _).2.1⟩
  rw [cycle]
  decide +kernel

end Station

end SerialMachine
