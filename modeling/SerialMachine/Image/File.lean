import SerialMachine.Event
import SerialMachine.Image.Binary
import SerialMachine.Image.Format
import SerialMachine.Image.Hexadecimal

/-!
# Image files

Program images as the bytes of files. Text images are UTF-8; the line ends of other systems are read
as `\n`. The format is the one asked for, or else the one that the file's name suggests. Reports
give the name in normal form.
-/

namespace SerialMachine.Image

/-- The words in a file of the given name, with the content that was found under it. -/
def load (host : Host) (name : String) (content : Except FileProblem ByteArray) (width : Int)
    (format : Option ImageFormat) : Except ImageFailure (List Int) := do
  let bytes ← content.mapError ImageFailure.file
  let shown := some (PathName.normal name)
  match format.getD (.ofPath name) with
  | .binary => Binary.parse host width shown bytes.toList
  | .hexadecimal =>
    let some text := String.fromUTF8? bytes | throw .undecodable
    Hexadecimal.parse host width shown (String.ofList (Text.unifyLineEnds text.toList))

/-- What is reported when words have been read from a file. -/
def loadEvent (name : String) (format : Option ImageFormat) (words : List Int) : Event :=
  .imageLoaded words.length (PathName.normal name) (format.getD (.ofPath name)).name

/-- The content of the file that holds words. -/
def save (host : Host) (name : String) (words : List Int) (width : Int)
    (format : Option ImageFormat) : Except InvalidValue ByteArray :=
  match format.getD (.ofPath name) with
  | .binary => (fun bytes => ⟨bytes.toArray⟩) <$> Binary.format host width words
  | .hexadecimal => String.toUTF8 <$> Hexadecimal.format host width words

end SerialMachine.Image
