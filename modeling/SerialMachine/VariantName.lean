import SerialMachine.InvalidValue
import SerialMachine.Text.Blank

/-!
# Reading variant names

A variant is chosen by name, in any letter case and with blanks around it.
-/

namespace SerialMachine.Variant

/-- The variant that a text names. -/
def ofName (text : String) : Except InvalidValue Variant :=
  let wanted := Text.lower (Text.trim text.toList)
  match all.find? fun variant => variant.name.toList == wanted with
  | some variant => .ok variant
  | none => .error (.unknownVariant text)

end SerialMachine.Variant
