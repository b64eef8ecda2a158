/-!
# Path names

The parts of a path that matter here: its components, its last component and the suffix of that.
Empty components and single dots say nothing. A suffix begins at the last dot of a name, unless the
dot is the first or the last character of the name. A path that ends in a slash or in dots alone can
only mean a folder. Names and whole paths are bounded in length.
-/

namespace SerialMachine.PathName

/-- The components of a path. -/
def components (path : List Char) : List (List Char) :=
  (path.splitOn '/').filter fun part => part != [] && part != ['.']

/-- The last component of a path. -/
def fileName (path : String) : String :=
  String.ofList ((components path.toList).getLast?.getD [])

/-- The suffix of a file name with its dot; empty when the name has none. -/
def suffix (name : List Char) : List Char :=
  let suffix := '.' :: (name.reverse.takeWhile (· != '.')).reverse
  if name.contains '.' && suffix.length < name.length && 1 < suffix.length then suffix else []

/-- The slashes that a path from the root begins with: two where exactly two are given. -/
def root : List Char → List Char
  | ['/', '/'] => ['/', '/']
  | '/' :: '/' :: c :: _ => if c == '/' then ['/'] else ['/', '/']
  | '/' :: _ => ['/']
  | _ => []

/-- The path of components below the root of another path. -/
def ofComponents (path : List Char) (parts : List (List Char)) : String :=
  let text := root path ++ ['/'].intercalate parts
  if text.isEmpty then "." else String.ofList text

/-- A path without the components that say nothing. -/
def normal (path : String) : String :=
  ofComponents path.toList (components path.toList)

/-- The component that leads to the folder above. -/
def up : List Char := ['.', '.']

/-- The components that lead to folders above, and those that go on from there. -/
def split (path : String) : List (List Char) × List (List Char) :=
  (components path.toList).span (· == up)

/-- Whether a path leads nowhere but to the folder it starts from, or to one above. -/
def leadsUp (path : String) : Bool :=
  (split path).2.isEmpty

/-- Whether a path is written as that of a folder. -/
def namesFolder (path : String) : Bool :=
  [[], ['.'], up].contains ((path.toList.splitOn '/').getLast?.getD [])

/-! ## Lengths -/

/-- The number of bytes that a name may have. -/
def nameLimit : Nat := 255

/-- Whether a component is longer than any name. -/
def isLongName (part : List Char) : Bool :=
  nameLimit < (String.ofList part).utf8ByteSize

/-- The number of bytes that a path may have. -/
def pathLimit : Nat := 4095

/-- Whether a path as it is written is longer than any path. -/
def isLong (path : String) : Bool :=
  pathLimit < path.utf8ByteSize

/-- Whether a path holds the character that ends names. -/
def endsEarly (path : String) : Bool :=
  path.toList.contains (Char.ofNat 0)

example : normal ".//./bad.hex/." = "bad.hex" := by decide +kernel
example : split "../a/b//c" = ([up], [['a'], ['b'], ['c']]) := by decide +kernel

end SerialMachine.PathName
