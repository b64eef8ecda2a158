import SerialMachine.Config
import SerialMachine.Text.Numeral

/-!
# Settings

The options of an emulated machine, and how they are read from environment variables. Unset
variables leave the defaults; the width is read first, then the variant, and then the width is
examined.
-/

namespace SerialMachine

/-- The options of an emulated machine. -/
structure Settings where
  config : Config := {}
  /-- The size of the memory; without it the memory fills the addresses below the select bit. -/
  memoryWords : Option Int := none
  /-- Every instruction fetch is logged. -/
  trace : Bool := false
  deriving DecidableEq, Repr, Inhabited

/-- The environment variables that hold settings, as far as they are set. -/
structure Environment where
  width : Option String := none
  variant : Option String := none
  jumpzNonzero : Option String := none
  trace : Option String := none

namespace Settings

/-- Whether a text means yes. -/
def isYes (text : String) : Bool :=
  let word := String.ofList (Text.lower (Text.trim text.toList))
  ["1", "true", "yes", "on"].contains word

/-- The width that a text gives; an empty text gives the default. -/
def readWidth : Option String → Except InvalidValue Int
  | none | some "" => .ok 16
  | some text =>
    match Text.readDecimal? text.toList with
    | some width => .ok width
    | none => .error (.widthNotInteger text)

/-- The settings that the environment gives. -/
def ofEnvironment (host : Host) (env : Environment) : Except InvalidValue Settings := do
  let width ← readWidth env.width
  let variant ← Variant.ofName (env.variant.getD "base")
  let config ← Config.make host width variant (isYes (env.jumpzNonzero.getD ""))
  return { config, trace := isYes (env.trace.getD "") }

end Settings

end SerialMachine
