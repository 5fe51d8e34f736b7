import SerialJobs.Audit.Event
import SerialJobs.Job.Error

/-!
# Diagnostics

What the manager tells those who look after it, beside the audit log: each diagnostic has a level, a
message and named fields.
-/

namespace SerialJobs

/-- How urgent a diagnostic is. -/
inductive Level
  | debug
  | info
  | warn
  | error
deriving DecidableEq, Repr

/-- The name of a level. -/
def Level.name : Level → String
  | .debug => "DEBUG"
  | .info => "INFO"
  | .warn => "WARN"
  | .error => "ERROR"

/-- Something worth telling those who look after the manager. -/
inductive Diagnostic
  | jobQueued (id : JobId) (label : String) (queueLength : Nat)
  | jobStarted (id : JobId) (label : String) (queueLength : Nat)
  | startFailed (id : JobId) (label : String) (error : JobError)
  | jobFinished (id : JobId) (label : String) (exit : Exit) (runtime : Duration)
  | statusError (id : JobId) (attempt limit : Nat) (error : JobError)
  | overdue (id : JobId) (label : String) (timeout : Option Duration)
  | unreadable (id : JobId) (label : String) (errors : Nat) (error : JobError)
  /-- A signal was not delivered; the command is named unless the manager itself is ending. -/
  | signalFailed (id : JobId) (command : Option KillCommand) (error : JobError)
  | notExited (id : JobId)
  | exitUnreadable (id : JobId) (error : JobError)
  | killIgnored (id : JobId) (command : KillCommand)
  | sinkPanicked (id : JobId) (state : JobState) (payload : PanicPayload)
  | loopStarted (pollInterval : Duration) (timeout : Option Duration) (queueLength : Nat)
  | loopExited
  | exitedOnStop (id : JobId) (exit : Exit)
  | waitFailed (id : JobId) (error : JobError)
  | waitTimedOut (id : JobId) (limit : Duration)
  | stopped (terminated : Option JobId) (drained : Nat)
  | dropped (id : JobId)
deriving DecidableEq, Repr

namespace Diagnostic

/-- The level of a diagnostic. -/
def level : Diagnostic → Level
  | jobQueued .. | notExited .. | killIgnored .. | exitedOnStop .. => .debug
  | jobStarted .. | jobFinished .. | loopStarted .. | loopExited | stopped .. => .info
  | unreadable .. | sinkPanicked .. => .error
  | _ => .warn

/-- The message of a diagnostic. -/
def message : Diagnostic → String
  | jobQueued .. => "Job queued"
  | jobStarted .. => "Job started"
  | startFailed .. => "Job failed to start"
  | jobFinished .. => "Job finished"
  | statusError .. => "Failed to read job status, retrying next poll"
  | overdue .. => "Job exceeded timeout, killing it"
  | unreadable .. => "Job status unreadable, giving up on it"
  | signalFailed .. => "Failed to signal job termination"
  | notExited .. => "Terminated job has not exited yet"
  | exitUnreadable .. => "Failed to read status of terminated job, keeping it in the slot"
  | killIgnored .. => "Kill ignored, job is not running"
  | sinkPanicked .. => "Status sink panicked"
  | loopStarted .. => "Scan manager started"
  | loopExited => "Scan manager loop exited"
  | exitedOnStop .. => "Job exited on shutdown"
  | waitFailed .. => "Failed to await job exit"
  | waitTimedOut .. => "Job did not exit within shutdown timeout, dropping it"
  | stopped .. => "Scan manager stopped"
  | dropped .. => "Scan manager dropped with a running job, terminating it"

/-- The field that names a job. -/
def idField (id : JobId) : String × FieldValue := ("job_id", .text id.text)

/-- The field that gives an error's wording. -/
def errorField (e : JobError) : String × FieldValue := ("error", .text e.message)

/-- The whole seconds of a timeout that may be absent. -/
def shownSeconds (d : Option Duration) : FieldValue :=
  .text (Text.shownOption (fun d => String.ofList (Text.decimal d.seconds.toNat)) d)

/-- The fields of a diagnostic. -/
def fields : Diagnostic → List (String × FieldValue)
  | jobQueued id label n | jobStarted id label n =>
    [idField id, ("label", .text label), ("queue_len", .number n)]
  | startFailed id label e => [idField id, ("label", .text label), errorField e]
  | jobFinished id label exit runtime =>
    [idField id, ("label", .text label), ("exit", .text exit.message),
      ("runtime_ms", .number runtime.millis64.toNat)]
  | statusError id attempt limit e =>
    [idField id, ("attempt", .number attempt), ("limit", .number limit), errorField e]
  | overdue id label d => [idField id, ("label", .text label), ("timeout_secs", shownSeconds d)]
  | unreadable id label errors e =>
    [idField id, ("label", .text label), ("errors", .number errors), ("reason", .text e.message)]
  | signalFailed id none e => [idField id, errorField e]
  | signalFailed id (some c) e => [idField id, ("command", .text c.name), errorField e]
  | notExited id | dropped id => [idField id]
  | exitUnreadable id e | waitFailed id e => [idField id, errorField e]
  | killIgnored id c => [idField id, ("command", .text c.name)]
  | sinkPanicked id state p =>
    [idField id, ("state", .text state.name), ("panic", .text p.message)]
  | loopStarted poll timeout n =>
    [("poll_interval_ms", .number poll.millis64.toNat), ("job_timeout_secs", shownSeconds timeout),
      ("queue_len", .number n)]
  | loopExited => []
  | exitedOnStop id exit => [idField id, ("exit", .text exit.message)]
  | waitTimedOut id d => [idField id, ("timeout_secs", .number d.seconds.toNat)]
  | stopped id drained =>
    [("terminated", .text (Text.shownOption (fun i => Text.quoted i.text) id)),
      ("drained", .number drained)]

end Diagnostic
end SerialJobs
