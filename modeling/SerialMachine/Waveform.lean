import SerialMachine.Clocked

/-!
# Waveforms

One row for each clock cycle: how it ended, the lines that were driven last, and the registers after
it.
-/

namespace SerialMachine

/-- A row of a waveform. -/
structure WaveRow where
  status : Status
  signals : Signals
  registers : Registers
  deriving DecidableEq, Repr

namespace WaveRow

/-- The row of a cycle that ended with a status and left a processor behind. -/
def ofCycle (status : Status) (p : Processor) : WaveRow :=
  { status, signals := p.signals, registers := p.registers }

/-- The registers that a row shows, in order. -/
def shown : List Register :=
  [.cycle, .acc, .pc, .operand, .flags, .opcode, .carry, .shadow, .timer, .compare]

/-- The texts that head a row: status, lines and state. -/
def heading (row : WaveRow) : List String :=
  [row.status.name, row.signals.label, row.registers.state.name]

/-- The numbers of a row. -/
def numbers (row : WaveRow) : List Int :=
  shown.map row.registers.get

end WaveRow

/-- The waveform of `n` cycles. -/
def Clocked.waveform {σ : Type} [Clocked σ] (n : Nat) (state : σ) : Steps σ WaveRow :=
  Clocked.steps (fun status s => .ofCycle status (Clocked.processor s)) n state

end SerialMachine
