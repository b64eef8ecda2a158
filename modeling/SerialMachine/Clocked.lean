import SerialMachine.Machine

/-!
# Runs of clock cycles

Anything that can be clocked and asked to stop can be run for a number of cycles or up to the next
instruction. Where an observer watches fetches and may ask for a stop, the single-instruction run
leaves it out.
-/

namespace SerialMachine

/-- Something driven by clock cycles. -/
class Clocked (σ : Type) where
  /-- One clock cycle under observation. -/
  step : σ → Step σ
  /-- One clock cycle with nobody watching fetches. -/
  stepUnwatched : σ → Step σ
  /-- The processor inside. -/
  processor : σ → Processor
  /-- The same with another processor inside. -/
  withProcessor : σ → Processor → σ
  /-- Whether an observer has asked for a stop. -/
  stopRequested : σ → Bool
  /-- The same with no stop asked for. -/
  clearStop : σ → σ

/-- Why a run of clock cycles ended. -/
inductive Ending
  /-- The cycles are used up. -/
  | exhausted
  /-- A cycle ended in a halt. -/
  | halted
  /-- A cycle met a fault. -/
  | faulted
  /-- The run's own condition held after a cycle. -/
  | stopped
  deriving DecidableEq, Repr, Inhabited

/-- The outcome of a run: the state after it, the cycles executed, what happened, and why it ended,
unless a step was refused. -/
structure Run (σ : Type) where
  state : σ
  executed : Nat
  events : Array Event
  ending : Except Refusal Ending

namespace Run

variable {σ : Type}

/-- Continues a run by at most `budget` steps. A step that faults does not count as executed; a halt
ends the run before `stop` is asked. -/
def extend (step : σ → Step σ) (stop : σ → Bool) :
    (budget : Nat) → σ → (executed : Nat) → Array Event → Run σ
  | 0, state, executed, events => { state, executed, events, ending := .ok .exhausted }
  | budget + 1, state, executed, events =>
    let turn := step state
    let events := events ++ turn.events
    match turn.status with
    | .error refusal => { state := turn.state, executed, events, ending := .error refusal }
    | .ok .faulted => { state := turn.state, executed, events, ending := .ok .faulted }
    | .ok .halted =>
      { state := turn.state, executed := executed + 1, events, ending := .ok .halted }
    | .ok .normal =>
      if stop turn.state then
        { state := turn.state, executed := executed + 1, events, ending := .ok .stopped }
      else
        extend step stop budget turn.state (executed + 1) events

/-- At most `budget` steps, until a halt, a fault, or a state in which `stop` holds. -/
def start (step : σ → Step σ) (stop : σ → Bool) (budget : Nat) (state : σ) : Run σ :=
  extend step stop budget state 0 #[]

end Run

namespace Clocked

variable {σ : Type} [Clocked σ]

/-- At most `budget` cycles, until an observer asks for a stop. -/
def execute (budget : Int) (state : σ) : Run σ :=
  Run.start step stopRequested budget.toNat (clearStop state)

/-- The most cycles that one instruction is given. -/
def instructionLimit (width : Nat) : Int :=
  16 * (width + 1)

/-- Cycles up to the beginning of the next instruction fetch. -/
def stepInstruction (limit : Option Int) (state : σ) : Run σ :=
  let budget := limit.getD (instructionLimit (processor state).config.width)
  Run.start stepUnwatched (fun s => (processor s).atFetch) budget.toNat state

/-- The state with the processor changed. -/
def mapProcessor (f : Processor → Processor) (state : σ) : σ :=
  withProcessor state (f (processor state))

end Clocked

/-- The outcome of a fixed number of cycles. -/
structure Steps (σ α : Type) where
  state : σ
  events : Array Event
  /-- What was noted after each cycle, in order; an error if a step was refused. -/
  notes : Except Refusal (Array α)

/-- Exactly `n` cycles, with a note taken after each. -/
def Clocked.steps {σ α : Type} [Clocked σ] (note : Status → σ → α) (n : Nat) (state : σ) :
    Steps σ α :=
  go n state #[] #[]
where
  go : Nat → σ → Array Event → Array α → Steps σ α
    | 0, state, events, notes => { state, events, notes := .ok notes }
    | n + 1, state, events, notes =>
      let turn := Clocked.step state
      let events := events ++ turn.events
      match turn.status with
      | .error refusal => { state := turn.state, events, notes := .error refusal }
      | .ok status => go n turn.state events (notes.push (note status turn.state))

end SerialMachine
