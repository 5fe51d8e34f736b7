import SerialJobs.Job.Error
import SerialJobs.Job.Exit
import SerialJobs.Job.Id
import SerialJobs.Time.Duration

/-!
# Kinds of jobs

A job is anything with a name and four calls: start it, look whether it has exited, signal it to
terminate, wait for its exit. A call changes the job and the surroundings in which it runs, and
ends in a value, an error or a panic. Nothing else is assumed: a kind may do whatever it likes
between one call and the next.
-/

namespace SerialJobs

/-- What a call on a job leaves behind. -/
structure Reply (J E α : Type) where
  outcome : α
  job : J
  env : E

/-- A kind of jobs: states `J`, in surroundings `E`. -/
structure JobKind (J E : Type) where
  /-- The identity of a job. -/
  id : J → JobId
  /-- The label of a job. -/
  label : J → String
  /-- Starts the worker. -/
  start : J → E → Reply J E (Outcome Unit)
  /-- Looks whether the worker has exited, without waiting. -/
  tryExit : J → E → Reply J E (Outcome (Option Exit))
  /-- Signals the worker to terminate. -/
  terminate : KillCommand → J → E → Reply J E (Outcome Unit)
  /-- Waits for the worker's exit, no longer than the given length of time. -/
  wait : Duration → J → E → Reply J E WaitOutcome
  /-- The clock of the surroundings, in nanoseconds. -/
  now : E → Nat
  /-- The surroundings a moment later. -/
  moment : E → E

/-- A call on a job together with how it ended. -/
inductive Exchange
  | start (outcome : Outcome Unit)
  | tryExit (outcome : Outcome (Option Exit))
  | terminate (command : KillCommand) (outcome : Outcome Unit)
  | wait (outcome : WaitOutcome)
deriving DecidableEq, Repr

end SerialJobs
