import SerialJobs.Job.Exit

/-!
# What can go wrong with a job

The errors that the four calls on a job may return, and the payload of a panic that such a call may
raise instead. The manager treats a panic like an error: `Outcome.guarded` says which.
-/

namespace SerialJobs

/-- An error of the operating system, as far as jobs look at it. -/
structure SystemError where
  /-- The wording of the system. -/
  message : String
  /-- What was asked for makes no sense, such as the end of a process that is over. -/
  isInvalidInput : Bool := false
deriving DecidableEq, Repr

/-- An error raised by a job's worker. -/
inductive JobError
  /-- The worker could not be spawned. -/
  | spawnFailed (label : String) (cause : SystemError)
  /-- The worker's status could not be read right now. -/
  | statusUnavailable (reason : String)
  /-- The termination signal could not be delivered. -/
  | terminateFailed (reason : String)
  /-- The job was asked for its status before it was started. -/
  | notStarted
  /-- Job code panicked. -/
  | panicked (message : String)
  /-- An input or output operation failed. -/
  | system (cause : SystemError)
  /-- An internal error. -/
  | internal (message : String)
deriving DecidableEq, Repr

namespace JobError

/-- The wording of a job's error. -/
def message : JobError → String
  | spawnFailed label cause => "failed to spawn job '" ++ label ++ "': " ++ cause.message
  | statusUnavailable reason => "job status unavailable: " ++ reason
  | terminateFailed reason => "failed to terminate job: " ++ reason
  | notStarted => "job has not been started"
  | panicked message => "job panicked: " ++ message
  | system cause => "I/O error: " ++ cause.message
  | internal message => "internal error: " ++ message

/-- The same call may succeed later. -/
def isTransient : JobError → Bool
  | statusUnavailable _ | system _ => true
  | _ => false

/-- The system error that the error wraps. -/
def cause : JobError → Option SystemError
  | spawnFailed _ c | system c => some c
  | _ => none

end JobError

/-- What is said where a runtime is needed and there is none. -/
def noRuntime : String :=
  "there is no reactor running, must be called from the context of a Tokio 1.x runtime"

/-- What a panic carries: a text, or something else. -/
inductive PanicPayload
  | text (s : String)
  | other
deriving DecidableEq, Repr

/-- The message of a panic. -/
def PanicPayload.message : PanicPayload → String
  | text s => s
  | other => "non-string panic payload"

/-- How a call on a job ends: it returns a value or an error, or it panics. -/
inductive Outcome (α : Type)
  | ok (a : α)
  | error (e : JobError)
  | panic (p : PanicPayload)
deriving DecidableEq, Repr

namespace Outcome

/-- A panic turned into the error of the same message. -/
def guarded {α : Type} : Outcome α → Except JobError α
  | ok a => .ok a
  | error e => .error e
  | panic p => .error (.panicked p.message)

end Outcome

/-- How waiting for a job's exit ends when the wait has a limit. -/
inductive WaitOutcome
  | exited (e : Exit)
  | error (e : JobError)
  | timedOut
  | panic (p : PanicPayload)
deriving DecidableEq, Repr

end SerialJobs
