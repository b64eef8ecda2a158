import SerialMachine.Bus

/-!
# A scripted bus

A bus with no devices that answers from a list of bits, over and over. It can be told to answer only
where a bit is asked for; otherwise it drives the input line in every cycle, which a processor must
refuse when the bit is not zero.
-/

namespace SerialMachine

/-- A bus that answers from a script. -/
structure ScriptedBus where
  bits : Array Int
  /-- Bits are used up only by cycles that ask for one. -/
  askedOnly : Bool := false
  /-- The place in the script. -/
  next : Nat := 0
  deriving DecidableEq, Repr

namespace ScriptedBus

/-- One clock cycle. -/
def cycle (bus : ScriptedBus) (signals : Signals) : BusCycle ScriptedBus :=
  if bus.askedOnly && !signals.ie then
    { bus, events := [], reply := .ok 0 }
  else
    { bus := { bus with next := (bus.next + 1) % bus.bits.size }
      events := []
      reply := .ok (bus.bits.getD bus.next 0) }

instance : SerialBus ScriptedBus where
  cycle := cycle
  reset bus := bus

end ScriptedBus

end SerialMachine
