import SerialMachine.Event
import SerialMachine.Text.Terminal

/-!
# Reports of the commands

What a command leaves behind: an exit code, two streams of text and perhaps a file. An error ends a
command with a line on the second stream and the exit code of its class. Messages reach the streams
in plain form, without terminal sequences; log lines and files keep theirs.
-/

namespace SerialMachine.Command

/-- What a command that could be started leaves behind. -/
structure Report where
  exit : Nat := 0
  stdout : String := ""
  stderr : String := ""
  /-- The text written to the output file. -/
  file : Option String := none
  deriving DecidableEq, Repr, Inhabited

/-- The outcome of a command. -/
inductive Result
  /-- The arguments do not make a request. -/
  | usage
  | report (report : Report)
  deriving DecidableEq, Repr, Inhabited

/-- The exit code after arguments that do not make a request. -/
def usageExit : Nat := 2

/-- The classes of errors, by what is to blame. -/
inductive ErrorClass
  /-- The machine met a fault. -/
  | fault
  /-- The program image, or another part of the request's matter. -/
  | image
  /-- A value in the request. -/
  | value
  /-- A file that is missing or may not be used. -/
  | file
  /-- None of these. -/
  | internal
  deriving DecidableEq, Repr, Inhabited

namespace ErrorClass

/-- The exit code of a class. -/
def exitCode : ErrorClass → Nat
  | fault => 4
  | image => 1
  | value | file => 2
  | internal => 3

/-- What stands before the message. The subject of the request, when it has one, is named for errors
in its matter. -/
def heading (subject : Option String) : ErrorClass → String
  | fault => "Simulation fault: "
  | image =>
    match subject with
    | none | some "" => "Error: "
    | some subject => subject ++ " error: "
  | value | file => "Error: "
  | internal => "Internal error: "

end ErrorClass

/-- An error that ends a command. -/
structure Failure where
  errorClass : ErrorClass
  message : String
  deriving DecidableEq, Repr

namespace Report

/-- More text on the first stream. -/
def print (r : Report) (text : String) : Report :=
  { r with stdout := r.stdout ++ Text.plainString text }

/-- One more line on the second stream. -/
def say (r : Report) (line : String) : Report :=
  { r with stderr := r.stderr ++ Text.plainString line ++ "\n" }

/-- The report ended by an error. -/
def fail (r : Report) (subject : Option String) (failure : Failure) : Report :=
  { r.say (failure.errorClass.heading subject ++ failure.message) with
    exit := failure.errorClass.exitCode }

end Report

/-- How events are logged. -/
structure LogStyle where
  /-- The least important level that is shown. -/
  level : Level := .warning
  /-- Lines are headed by the name of their level. -/
  headed : Bool := false

/-- A log line with its end. -/
def LogStyle.line (style : LogStyle) (level : Level) (text : String) : String :=
  (if style.headed then level.name ++ ": " ++ text else text) ++ "\n"

/-- The report with the log lines of events. -/
def Report.log (r : Report) (style : LogStyle) (events : List Event) : Report :=
  { r with
    stderr := (Event.logged style.level events).foldl
      (fun text entry => text ++ style.line entry.1 entry.2) r.stderr }

end SerialMachine.Command
