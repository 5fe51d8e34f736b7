import SerialJobs.Job.KillCommand

/-!
# Probes

A probe shows what was done to one puppet, also after the puppet has been handed to a manager.
-/

namespace SerialJobs

/-- What was done to a puppet. -/
structure Probe where
  /-- It was started. -/
  started : Bool := false
  /-- It has reported an exit, or was terminated without delay. -/
  finished : Bool := false
  /-- Someone waited for its exit. -/
  waited : Bool := false
  startCalls : Nat := 0
  terminateCalls : Nat := 0
  statusChecks : Nat := 0
  /-- The last command delivered to it. -/
  terminatedWith : Option KillCommand := none
deriving DecidableEq, Repr

end SerialJobs
