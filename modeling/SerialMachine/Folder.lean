import SerialMachine.PathName
import SerialMachine.Text.Quoted

/-!
# Folders

A folder with files in it, and no folder besides those above it. Paths that differ only in
components that say nothing lead to the same file. A path is followed component by component, and
the first obstacle on the way is the one that counts.
-/

namespace SerialMachine

/-- Why a path leads to no file. -/
inductive FileProblem
  /-- There is nothing. -/
  | missing
  /-- There is a folder. -/
  | folder
  /-- The path goes on behind a file. -/
  | behindFile
  /-- A component is longer than any name, or the whole longer than any path. -/
  | longName
  /-- The path holds the character that ends names. -/
  | endedName
  deriving DecidableEq, Repr, Inhabited

/-- The text that reports a problem with a path. -/
def FileProblem.message (path : String) (problem : FileProblem) : String :=
  let shown := Text.quoted (PathName.normal path)
  match problem with
  | missing => "[Errno 2] No such file or directory: " ++ shown
  | folder => "[Errno 21] Is a directory: " ++ shown
  | behindFile => "[Errno 20] Not a directory: " ++ shown
  | longName => "[Errno 36] File name too long: " ++ shown
  | endedName => "embedded null byte"

/-- A folder of files. -/
structure Folder where
  /-- The contents under their normal paths; of two with one path the first counts. -/
  files : List (String × ByteArray) := []

namespace Folder

/-- The content that is stored under a path. -/
def find? (folder : Folder) (path : String) : Option ByteArray :=
  folder.files.lookup (PathName.normal path)

/-- Why no file can be at the end of a path; none when one can. The first component that leads to no
folder above is a name in this folder, and one that is not the last has to be a folder. -/
def problem? (folder : Folder) (path : String) : Option FileProblem :=
  if PathName.endsEarly path then some .endedName
  else if PathName.isLong (PathName.normal path) then some .longName
  else
    match PathName.split path with
    | (_, []) => some .folder
    | (above, name :: rest) =>
      if PathName.isLongName name then some .longName
      else if rest.isEmpty then none
      else if (folder.find? (PathName.ofComponents path.toList (above ++ [name]))).isSome then
        some .behindFile
      else some .missing

/-- The content of the file that a path leads to. -/
def read (folder : Folder) (path : String) : Except FileProblem ByteArray :=
  match folder.problem? path with
  | some problem => .error problem
  | none => (folder.find? path).elim (.error .missing) .ok

/-- The folder with a file of the given content. -/
def write (folder : Folder) (path : String) (content : ByteArray) : Except FileProblem Folder :=
  match folder.problem? path with
  | some problem => .error problem
  | none => .ok { folder with files := (PathName.normal path, content) :: folder.files }

/-- A file is no obstacle on the way to a file. -/
theorem problem?_cons {folder : Folder} {path : String} (h : folder.problem? path = none)
    (file : String × ByteArray) :
    Folder.problem? { folder with files := file :: folder.files } path = none := by
  revert h
  unfold problem?
  split
  · simp
  split
  · simp
  split
  · simp
  · next above name rest _ =>
    cases rest <;> split <;> simp
    split <;> simp

theorem read_write {folder after : Folder} {path : String} {content : ByteArray}
    (h : folder.write path content = .ok after) : after.read path = .ok content := by
  unfold write at h
  split at h
  · cases h
  · next free =>
    cases h
    simp [read, problem?_cons free, find?]

end Folder

end SerialMachine
