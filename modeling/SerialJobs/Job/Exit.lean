import SerialJobs.Job.KillCommand
import SerialJobs.Text.Numeral
import SerialJobs.Text.Quoted

/-!
# How a job ends

The ways in which a job leaves the running slot, the states of a job as the manager sees it, and the
status vocabulary of the task that a job works for.
-/

namespace SerialJobs

/-- The status of the task behind a job. -/
inductive TaskStatus
  | pending
  | running
  | paused
  | canceled
  | completed
  | failed
deriving DecidableEq, Repr

namespace TaskStatus

/-- All statuses. -/
def all : List TaskStatus := [pending, running, paused, canceled, completed, failed]

/-- The name of a status. -/
def name : TaskStatus → String
  | pending => "pending"
  | running => "running"
  | paused => "paused"
  | canceled => "canceled"
  | completed => "completed"
  | failed => "failed"

end TaskStatus

/-- How a job left the running slot. -/
inductive Exit
  /-- The worker finished normally. -/
  | completed
  /-- The worker finished with an error: an exit code, a message, both or neither. -/
  | failed (code : Option Int32) (message : Option String)
  /-- The worker panicked. -/
  | panicked (message : String)
  /-- The worker was killed. -/
  | killed (command : KillCommand)
  /-- The worker could not be started. -/
  | startFailed (reason : String)
  /-- The worker's status could not be read for too many checks in a row. -/
  | unresponsive (reason : String)
deriving DecidableEq, Repr

namespace Exit

/-- The worker finished normally. -/
def isSuccess : Exit → Bool
  | completed => true
  | _ => false

/-- The command that killed the job. -/
def killCommand : Exit → Option KillCommand
  | killed c => some c
  | _ => none

/-- The status that the task gets. -/
def taskStatus : Exit → TaskStatus
  | completed => .completed
  | killed .cancel | killed .shutdown => .canceled
  | killed .pause => .paused
  | killed .timeout | failed _ _ | panicked _ | startFailed _ | unresponsive _ => .failed

/-- The wording of an exit; a code goes before a message. -/
def message : Exit → String
  | completed => "completed"
  | failed (some code) _ =>
    "failed (exit code " ++ String.ofList (Text.decimalInt code.toInt) ++ ")"
  | failed none (some message) => "failed: " ++ message
  | failed none none => "failed"
  | panicked message => "panicked: " ++ message
  | killed c => "killed (" ++ c.name ++ ")"
  | startFailed reason => "start failed: " ++ reason
  | unresponsive reason => "unresponsive: " ++ reason

/-- An exit shown by its case and its fields. -/
def shown : Exit → String
  | completed => "Completed"
  | failed code message =>
    Text.shownRecord "Failed"
      [("code", Text.shownOption (fun c => String.ofList (Text.decimalInt c.toInt)) code),
        ("message", Text.shownOption Text.quoted message)]
  | panicked message => Text.shownRecord "Panicked" [("message", Text.quoted message)]
  | killed c => Text.shownRecord "Killed" [("command", c.shown)]
  | startFailed reason => Text.shownRecord "StartFailed" [("reason", Text.quoted reason)]
  | unresponsive reason => Text.shownRecord "Unresponsive" [("reason", Text.quoted reason)]

end Exit

/-- The state of a job as the manager sees it. It only moves forward. -/
inductive JobState
  /-- Waiting in the queue. -/
  | queued
  /-- Occupying the running slot. -/
  | running
  /-- Out of the running slot for good. -/
  | finished (exit : Exit)
deriving DecidableEq, Repr

namespace JobState

/-- The name of a state. -/
def name : JobState → String
  | queued => "queued"
  | running => "running"
  | finished _ => "finished"

/-- The state never changes again. -/
def isTerminal : JobState → Bool
  | finished _ => true
  | _ => false

/-- How the job finished, once it has. -/
def exit : JobState → Option Exit
  | finished e => some e
  | _ => none

/-- The status that the task gets. -/
def taskStatus : JobState → TaskStatus
  | queued => .pending
  | running => .running
  | finished e => e.taskStatus

end JobState
end SerialJobs
