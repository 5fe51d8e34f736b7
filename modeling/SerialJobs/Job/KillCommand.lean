import SerialJobs.Text.Blank

/-!
# Kill commands

Why a job is being killed. A command is read from its name, which may have capital letters and
blanks around it; a text that names no command is kept as it was given.
-/

namespace SerialJobs

/-- Why a job is being killed. -/
inductive KillCommand
  /-- The user cancelled the job. -/
  | cancel
  /-- The user paused the job; it may be submitted again later. -/
  | pause
  /-- The job exceeded the job timeout. -/
  | timeout
  /-- The manager is shutting down. -/
  | shutdown
deriving DecidableEq, Repr

/-- A text that names no kill command, as it was given. -/
structure UnknownCommand where
  input : String
deriving DecidableEq, Repr

/-- The wording of the error. -/
def UnknownCommand.message (e : UnknownCommand) : String :=
  "unknown kill command '" ++ e.input ++ "'"

namespace KillCommand

/-- All commands. -/
def all : List KillCommand := [cancel, pause, timeout, shutdown]

/-- The name of a command. -/
def name : KillCommand → String
  | cancel => "cancel"
  | pause => "pause"
  | timeout => "timeout"
  | shutdown => "shutdown"

/-- A command shown by the name of its case. -/
def shown : KillCommand → String
  | cancel => "Cancel"
  | pause => "Pause"
  | timeout => "Timeout"
  | shutdown => "Shutdown"

/-- The command with exactly the given name. -/
def ofName? (s : String) : Option KillCommand :=
  all.find? fun c => c.name == s

/-- Reads a command from its name, regardless of blanks around it and of the case of ASCII
letters. -/
def ofText (s : String) : Except UnknownCommand KillCommand :=
  match ofName? (String.ofList ((Text.trim s.toList).map Text.lowerAscii)) with
  | some c => .ok c
  | none => .error ⟨s⟩

end KillCommand
end SerialJobs
