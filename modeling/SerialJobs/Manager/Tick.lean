import SerialJobs.Job.Id

/-!
# Ticks

What one iteration of the scheduling loop did: nothing, or one thing to one job.
-/

namespace SerialJobs

/-- What one iteration of the scheduling loop did. -/
inductive Tick
  /-- Nothing is running and nothing is queued. -/
  | idle
  /-- The head of the queue was started. -/
  | started (id : JobId)
  /-- The head of the queue failed to start and is finished. -/
  | startFailed (id : JobId)
  /-- The job is still running. -/
  | stillRunning (id : JobId)
  /-- The job's status could not be read; it will be checked again. -/
  | statusError (id : JobId)
  /-- The job is being terminated and has not exited yet. -/
  | stopping (id : JobId)
  /-- The job finished and the slot is free. -/
  | finished (id : JobId)
  /-- The job exceeded the job timeout and is being terminated. -/
  | timedOut (id : JobId)
deriving DecidableEq, Repr

namespace Tick

/-- The name of what was done. -/
def name : Tick → String
  | idle => "Idle"
  | started _ => "Started"
  | startFailed _ => "StartFailed"
  | stillRunning _ => "StillRunning"
  | statusError _ => "StatusError"
  | stopping _ => "Stopping"
  | finished _ => "Finished"
  | timedOut _ => "TimedOut"

/-- The job it was done to. -/
def job : Tick → Option JobId
  | idle => none
  | started id | startFailed id | stillRunning id | statusError id | stopping id | finished id
  | timedOut id => some id

end Tick
end SerialJobs
