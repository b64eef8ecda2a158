import SerialMachine.PathName
import SerialMachine.Text.Case

/-!
# Image formats

A program image is a file of words, binary or hexadecimal text. Without a choice the suffix of the
file's name decides.
-/

namespace SerialMachine

/-- The format of a program image. -/
inductive ImageFormat
  | binary
  | hexadecimal
  deriving DecidableEq, Repr, Inhabited

namespace ImageFormat

/-- The name of a format. -/
def name : ImageFormat → String
  | binary => "bin"
  | hexadecimal => "hex"

/-- The format with a name. -/
def ofName? (text : String) : Option ImageFormat :=
  [binary, hexadecimal].find? (·.name == text)

/-- The format that the name of a file suggests. -/
def ofPath (path : String) : ImageFormat :=
  if Text.lower (PathName.suffix (PathName.fileName path).toList) == ['.', 'h', 'e', 'x'] then
    hexadecimal
  else
    binary

end ImageFormat

end SerialMachine
