import SerialMachine.Bits

/-!
# The shift unit

Every register takes one bit a cycle: the word moves one place to the right and the new bit enters
at the top, so that after as many cycles as the word has bits the new bits are the word.
-/

namespace SerialMachine.Shift

/-- `value` one place to the right, with the lowest bit of `bit` entering at the top of `n` bits. -/
def enter (n : Nat) (value bit : Int) : Int :=
  if Bits.test 0 bit then Bits.set (n - 1) (Bits.drop 1 value) else Bits.drop 1 value

/-- `value` one place to the right, its lowest bit entering at the top. -/
def rotate (n : Nat) (value : Int) : Int :=
  enter n value value

/-- `value` one place to the left in `n` bits; with `around`, its top bit enters at the bottom. -/
def left (n : Nat) (value : Int) (around : Bool) : Int :=
  let moved := Bits.keep n (2 * value)
  if around && Bits.test (n - 1) value then Bits.set 0 moved else moved

/-- `value` one place to the right; with `around`, its lowest bit enters at the top of `n` bits. -/
def right (n : Nat) (value : Int) (around : Bool) : Int :=
  if around then rotate n value else Bits.drop 1 value

end SerialMachine.Shift
