import SerialMachine.Fault

/-!
# The bus lines

What the processor drives onto the serial bus in one cycle: an address bit, a data bit, and the
strobes that say which of them counts. At most one strobe may be asserted at a time.
-/

namespace SerialMachine

/-- The lines that the processor drives in one cycle. -/
structure Signals where
  /-- The address bit. -/
  a : Int := 0
  /-- The output bit. -/
  o : Int := 0
  /-- Strobe: the address bit counts. -/
  ae : Bool := false
  /-- Strobe: an input bit is wanted. -/
  ie : Bool := false
  /-- Strobe: the output bit counts. -/
  oe : Bool := false
  /-- The machine is halted. -/
  stop : Bool := false
  deriving DecidableEq, Repr, Inhabited

namespace Signals

/-- The names of the strobes that are asserted. -/
def strobes (s : Signals) : List String :=
  (if s.ae then ["ae"] else []) ++ (if s.ie then ["ie"] else []) ++ (if s.oe then ["oe"] else [])

/-- The number of strobes that are asserted. -/
def enables (s : Signals) : Nat :=
  s.ae.toNat + s.ie.toNat + s.oe.toNat

/-- Refuses more than one strobe. -/
def check (s : Signals) : Except Violation Unit :=
  if s.enables > 1 then .error (.strobesTogether s.strobes) else .ok ()

/-- The lines as a waveform shows them: the strobe with its bit, or nothing. -/
def label (s : Signals) : String :=
  if s.ae then s!"ae{s.a}"
  else if s.ie then "ie"
  else if s.oe then s!"oe{s.o}"
  else if s.stop then "stop"
  else ""

/-- Drives an address bit. -/
def address (bit : Int) : Signals := { ae := true, a := bit }

/-- Asks for an input bit. -/
def input : Signals := { ie := true }

/-- Drives an output bit. -/
def output (bit : Int) : Signals := { oe := true, o := bit }

end Signals

end SerialMachine
