import SerialJobs.Text.Quoted
import SerialJobs.Time.Duration

/-!
# Configuration of the manager

How often the loop ticks and beats, how long a job may run, how many unreadable statuses in a row
are borne, and how long a stop waits. A configuration that could not drive a loop is refused, with
the first of its faults.
-/

namespace SerialJobs

/-- An error of the manager itself. -/
inductive ManagerError
  /-- The loop is already running. -/
  | alreadyRunning
  /-- There is nothing that could host the loop. -/
  | runtimeUnavailable (reason : String)
  /-- The configuration is refused. -/
  | configuration (message : String)
deriving DecidableEq, Repr

/-- The wording of a manager's error. -/
def ManagerError.message : ManagerError → String
  | .alreadyRunning => "scan manager is already running"
  | .runtimeUnavailable reason => "cannot start scan manager: " ++ reason
  | .configuration message => "configuration error: " ++ message

/-- The configuration of a manager. -/
structure Config where
  /-- The time between two ticks of the loop. -/
  pollInterval : Duration := .ofSeconds 1
  /-- The time between two heartbeats of the loop. -/
  heartbeatInterval : Duration := .ofSeconds 60
  /-- How long a job may occupy the running slot. -/
  jobTimeout : Option Duration := none
  /-- How many failed status checks in a row make the manager give a job up. -/
  statusErrorLimit : UInt32 := 10
  /-- How long a stop waits for the running job. -/
  shutdownTimeout : Duration := .ofSeconds 10
deriving DecidableEq, Repr

namespace Config

/-- What makes a configuration unfit to drive a loop. -/
inductive Fault
  | pollIntervalZero
  | heartbeatIntervalZero
  | jobTimeoutZero
  | statusErrorLimitZero
deriving DecidableEq, Repr

/-- The wording of a fault. -/
def Fault.message : Fault → String
  | .pollIntervalZero => "poll interval must be positive"
  | .heartbeatIntervalZero => "heartbeat interval must be positive"
  | .jobTimeoutZero => "job timeout must be positive when set"
  | .statusErrorLimitZero => "status error limit must be at least 1"

/-- The first fault of a configuration. -/
def fault? (c : Config) : Option Fault :=
  if c.pollInterval.isZero then some .pollIntervalZero
  else if c.heartbeatInterval.isZero then some .heartbeatIntervalZero
  else if c.jobTimeout.any Duration.isZero then some .jobTimeoutZero
  else if c.statusErrorLimit = 0 then some .statusErrorLimitZero
  else none

/-- Accepts a configuration without a fault. -/
def validate (c : Config) : Except ManagerError Unit :=
  match c.fault? with
  | none => .ok ()
  | some f => .error (.configuration f.message)

/-- A configuration shown by its fields. -/
def shown (c : Config) : String :=
  Text.shownRecord "ScanManagerConfig"
    [("poll_interval", c.pollInterval.shown),
      ("heartbeat_interval", c.heartbeatInterval.shown),
      ("job_timeout", Text.shownOption Duration.shown c.jobTimeout),
      ("status_error_limit", String.ofList (Text.decimal c.statusErrorLimit.toNat)),
      ("shutdown_timeout", c.shutdownTimeout.shown)]

end Config
end SerialJobs
