import SerialMachine.Fault

/-!
# The cycles of a state

A state of an `n`-bit machine has the cycles `0, 1, …, n`: one to set up, then one for each bit of a
word. The machine keeps two markers of the current cycle beside its number; `check` refuses records
in which they disagree.
-/

namespace SerialMachine.Timing

/-- What the number of a cycle says about its place in the state. -/
structure Markers where
  /-- The cycle that sets up. -/
  first : Bool
  /-- One of the last four cycles. -/
  lastFour : Bool
  /-- The cycle on which the next state is taken up. -/
  last : Bool
  deriving DecidableEq, Repr

/-- The markers of a cycle. -/
def markers (cycle width : Int) : Markers :=
  { first := cycle == 0, lastFour := cycle > width - 4, last := cycle == width }

/-- The number of the cycle that follows. -/
def next (cycle width : Int) : Int :=
  if width ≤ cycle then 0 else cycle + 1

/-- Refuses a cycle outside the state, and markers that disagree with the cycle. -/
def check (cycle : Int) (first lastFour : Bool) (width : Int) : Except Obstacle Unit :=
  if ¬(0 ≤ cycle ∧ cycle ≤ width) then
    .error (Violation.cycleOutOfRange cycle width).obstacle
  else if first != (markers cycle width).first then
    .error (Violation.wrongFirst first cycle).obstacle
  else if lastFour != (markers cycle width).lastFour then
    .error (Violation.wrongLastFour lastFour cycle).obstacle
  else
    .ok ()

end SerialMachine.Timing
