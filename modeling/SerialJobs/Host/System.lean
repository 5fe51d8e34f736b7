import SerialJobs.Job.Error

/-!
# The operating system

What the host asks of the system that it runs on: to spawn a process, to say whether a process has
ended, and to kill it. What the system answers is not known here. It is given by a `System`, whose
answers may depend on how the process was spawned, on what was done to it since and on the clock,
and which may refuse whatever it is asked.
-/

namespace SerialJobs

/-- How a process ended: with an exit code, or by a signal. -/
inductive ExitStatus
  | code (n : Int32)
  | signal
deriving DecidableEq, Repr

namespace ExitStatus

/-- The exit code, if there is one. -/
def code? : ExitStatus → Option Int32
  | code n => some n
  | signal => none

/-- The process ended well. -/
def isSuccess (s : ExitStatus) : Bool := s.code? = some 0

end ExitStatus

/-- What a process is spawned from. -/
structure Command where
  /-- The program to run. -/
  program : String
  args : List String := []
  /-- Variables that are set beside those of the host. -/
  environment : List (String × String) := []
  /-- Where the process runs, if not where the host does. -/
  directory : Option String := none
deriving DecidableEq, Repr

/-- A child process. -/
structure Child where
  command : Command
  /-- The clock when it was spawned. -/
  born : Nat
  /-- The clock at every kill that the system has accepted, the last one first. -/
  kills : List Nat := []
deriving DecidableEq, Repr

/-- What comes of spawning a process. -/
inductive SpawnOutcome
  | ok
  | error (e : SystemError)
  | panic (p : PanicPayload)
deriving DecidableEq, Repr

/-- The answers of an operating system at a clock. Where they are not given, it spawns nothing. -/
structure System where
  /-- Spawns a process, with a runtime at hand or without. -/
  spawn : Command → Bool → Nat → SpawnOutcome := fun _ _ _ => .error ⟨"", false⟩
  /-- Looks how a process has ended, if it has. -/
  status : Child → Nat → Except SystemError (Option ExitStatus) := fun _ _ => .ok none
  /-- Kills a process. -/
  kill : Child → Nat → Except SystemError Unit := fun _ _ => .ok ()

end SerialJobs
