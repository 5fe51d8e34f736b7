import SerialJobs.Job.Error

/-!
# Tasks

A task is a piece of work that the host runs whenever it is ready. It ends by itself, or is
cancelled: a task that has been told to go away is gone the next time it would run.
-/

namespace SerialJobs

/-- What a task does. -/
inductive Work
  /-- It ends with a result: success, or an error of the given text. -/
  | ended (result : Except String Unit)
  | panic (p : PanicPayload)
  /-- It never ends. -/
  | pending
  /-- It sleeps for so many milliseconds and goes on. -/
  | sleep (millis : Nat) (next : Work)
deriving Inhabited

/-- How a task ended. -/
inductive TaskEnd
  | returned (result : Except String Unit)
  | panicked (p : PanicPayload)
  | cancelled

/-- What a run of a task comes to. -/
inductive Progress
  | over (e : TaskEnd)
  /-- It waits for something that never happens. -/
  | stuck
  /-- It sleeps. -/
  | asleep (millis : Nat) (next : Work)

/-- Runs a piece of work up to its end or to the next sleep; no time at all is no sleep. -/
def Work.run : Work → Progress
  | ended r => .over (.returned r)
  | panic p => .over (.panicked p)
  | pending => .stuck
  | sleep 0 w => w.run
  | sleep (n + 1) w => .asleep (n + 1) w

/-- A task. -/
structure Task where
  /-- What it does when it runs next. -/
  work : Work
  /-- It has been told to go away. -/
  aborted : Bool := false
  /-- How it ended, once it has. -/
  ended : Option TaskEnd := none

end SerialJobs
