import SerialMachine.Bits
import SerialMachine.InvalidValue

/-!
# The host

The simulation runs on a host that has room for numbers and memories up to some size. The sizes
differ from host to host; that a number can have too many digits to be counted does not.
-/

namespace SerialMachine

/-- The number of bits from which on the digits of a number cannot be counted: its digits have
thirty bits each. -/
def Host.digitLimit : Int := 30 * (Bits.weight 61 - 8) + 1

/-- What a host has room for: the narrowest machine words at least. A word of a memory takes more
room than a bit of a number. The defaults are those of an ordinary host. -/
structure Host where
  /-- The number of bits from which on there is no room for a number. -/
  bits : Int := Bits.weight 33
  /-- The number of words from which on there is no room for a memory. -/
  words : Int := Bits.weight 31
  eight_le_bits : 8 ≤ bits := by decide
  bits_le_digitLimit : bits ≤ Host.digitLimit := by decide
  words_le_bits : words ≤ bits := by decide
  deriving DecidableEq, Repr

namespace Host

instance : Inhabited Host := ⟨{}⟩

variable {host : Host} {place : Int}

/-- Why a host cannot hold a number with a one at a place; none when it can. -/
def roomProblem? (host : Host) (place : Int) : Option InvalidValue :=
  if digitLimit ≤ place then some .tooManyDigits
  else if host.bits ≤ place then some .noRoom
  else none

theorem roomProblem?_eq_none_iff : host.roomProblem? place = none ↔ place < host.bits := by
  have lower := host.bits_le_digitLimit
  unfold roomProblem?
  split
  · simp only [reduceCtorEq, false_iff]
    omega
  · split <;> simp <;> omega

theorem le_of_roomProblem? {cause : InvalidValue}
    (problem : host.roomProblem? place = some cause) : host.bits ≤ place := by
  rw [← Int.not_lt, ← roomProblem?_eq_none_iff, problem]
  simp

theorem overtaxesHost_of_roomProblem? {cause : InvalidValue}
    (problem : host.roomProblem? place = some cause) : cause.overtaxesHost = true := by
  unfold roomProblem? at problem
  split at problem
  · obtain rfl := Option.some.inj problem
    rfl
  · split at problem
    · obtain rfl := Option.some.inj problem
      rfl
    · cases problem

end Host

end SerialMachine
