import SerialMachine.Bits

/-!
# The adder

The machine's only arithmetic element adds one bit of each of two numbers and a carry.
-/

namespace SerialMachine.Adder

/-- The sum bit and the carry out of two bits and a carry in. -/
def add (x y carry : Int) : Int × Int :=
  (Bits.xor (Bits.xor x y) carry,
    Bits.or (Bits.or (Bits.and x y) (Bits.and x carry)) (Bits.and y carry))

end SerialMachine.Adder
