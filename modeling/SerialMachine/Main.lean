import SerialMachine.Command.Arguments

/-!
# The program

Reads the image file that the command line names, carries the request out and writes what it leaves
behind.
-/

open SerialMachine.Command

/-- The content of a file; none when it cannot be read. -/
def contentOf (name : String) : IO (Option ByteArray) := do
  try
    return some (← IO.FS.readBinFile name)
  catch _ =>
    return none

/-- Writes what a command leaves behind and gives its exit code. -/
def deliver (outputName : Option String) (report : Report) : IO UInt32 := do
  IO.print report.stdout
  IO.eprint report.stderr
  if let (some name, some text) := (outputName, report.file) then
    IO.FS.writeFile name text
  return report.exit.toUInt32

/-- The entry point. -/
def main (words : List String) : IO UInt32 := do
  match Request.ofWords? words with
  | none => usage
  | some request =>
    match request.answer (← contentOf request.fileName) with
    | .usage => usage
    | .report report => deliver request.outputName? report
where
  usage : IO UInt32 := do
    IO.eprintln "usage: (run | list) [options] FILE"
    return usageExit.toUInt32
