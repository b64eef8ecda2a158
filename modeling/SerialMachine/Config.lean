import SerialMachine.Host
import SerialMachine.VariantName

/-!
# Machine configurations

The build options of a machine: word width, instruction-set variant and the sense of the conditional
jump, and the host that it is simulated on. The width is at least eight, so that a word has room for
an opcode, the select bit and flags.
-/

namespace SerialMachine

/-- The build options of a machine. -/
structure Config where
  /-- The number of bits in a word. -/
  width : Nat := 16
  variant : Variant := .base
  /-- The conditional jump is taken when the zero flag is clear instead of set. -/
  jumpzOnNonzero : Bool := false
  host : Host := default
  eight_le_width : 8 ≤ width := by decide
  deriving DecidableEq, Repr

namespace Config

instance : Inhabited Config := ⟨{}⟩

/-- Whether the machine is of the extended variant. -/
def extended (config : Config) : Bool :=
  config.variant == .extended

/-- The configuration with the given options, refused for a width below eight. -/
def make (host : Host) (width : Int) (variant : Variant) (jumpzOnNonzero : Bool) :
    Except InvalidValue Config :=
  if h : 8 ≤ width then
    .ok { width := width.toNat, variant, jumpzOnNonzero, host, eight_le_width := by omega }
  else do
    let _ ← InvalidValue.decimal width
    throw (.narrowWord width)

/-- The configuration with the given options; the width is examined before the variant's name. -/
def ofNames (host : Host) (width : Int) (variant : String) (jumpzOnNonzero : Bool) :
    Except InvalidValue Config := do
  let config ← make host width .base jumpzOnNonzero
  return { config with variant := ← Variant.ofName variant }

end Config

end SerialMachine
