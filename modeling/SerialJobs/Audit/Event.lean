import SerialJobs.Audit.Snapshot
import SerialJobs.Time.Duration

/-!
# The audit log

One event for every state that a job enters, one for every termination signal, and a heartbeat. Each
event is a list of named fields; a job's event also has a JSON form with the time and the run time.
-/

namespace SerialJobs

/-- The value of a logged field. -/
inductive FieldValue
  | text (s : String)
  | number (n : Nat)
  | flag (b : Bool)
deriving DecidableEq, Repr

/-- A job has entered a state. -/
structure JobEvent where
  timestamp : Timestamp
  id : JobId
  label : String
  state : JobState
  taskStatus : TaskStatus
  /-- The milliseconds in the running slot, for a finished job that ran. -/
  runtimeMillis : Option UInt64
deriving DecidableEq

namespace JobEvent

/-- The event of a job entering a state. -/
def entered (timestamp : Timestamp) (id : JobId) (label : String) (state : JobState)
    (runtime : Option Duration) : JobEvent :=
  ⟨timestamp, id, label, state, state.taskStatus, runtime.map Duration.millis64⟩

/-- The name of the kind of event. -/
def eventType (e : JobEvent) : String :=
  match e.state with
  | .queued => "job_queued"
  | .running => "job_started"
  | .finished _ => "job_finished"

/-- An event as an object. -/
def toJson (e : JobEvent) : Json :=
  .record [("timestamp", e.timestamp.toJson), ("job_id", e.id.toJson), ("label", .str e.label),
    ("state", e.state.toJson), ("task_status", e.taskStatus.toJson),
    ("runtime_ms", .ofOption (fun n => .int n.toNat) e.runtimeMillis)]

/-- A run time in milliseconds of 64 bits. -/
def millisOfJson (j : Json) : Option UInt64 := do
  let i ← Json.asInt j
  if 0 ≤ i then some (UInt64.ofNat i.toNat) else none

/-- The event that a JSON value denotes. -/
def ofJson (j : Json) : Option JobEvent := do
  match ← Json.fields ["timestamp", "job_id", "label", "state", "task_status", "runtime_ms"] j with
  | [timestamp, id, label, state, status, runtime] =>
    some ⟨← Json.required Timestamp.ofJson timestamp, ← Json.required JobId.ofJson id,
      ← Json.required Json.asString label, ← Json.required (JobState.ofJson 1) state,
      ← Json.required (TaskStatus.ofJson .document) status,
      ← Json.optional millisOfJson runtime⟩
  | _ => none

/-- The fields under which the event is logged. -/
def logged (e : JobEvent) : List (String × FieldValue) :=
  [("event_type", .text e.eventType), ("job_id", .text e.id.text), ("label", .text e.label),
    ("state", .text e.state.name), ("task_status", .text e.taskStatus.name),
    ("exit", .text (Text.shownOption (fun x => Text.quoted x.message) e.state.exit)),
    ("runtime_ms", .text (Text.shownOption
      (fun n => String.ofList (Text.decimal n.toNat)) e.runtimeMillis)),
    ("message", .text "Job state changed")]

end JobEvent

/-- An event of the audit log. -/
inductive AuditEvent
  /-- A job has entered a state. -/
  | entered (event : JobEvent)
  /-- A termination signal for a job. -/
  | killed (id : JobId) (label : String) (command : KillCommand)
  /-- The loop is alive. -/
  | heartbeat (snapshot : Snapshot)
deriving DecidableEq

namespace AuditEvent

/-- The fields under which an event is logged. -/
def logged : AuditEvent → List (String × FieldValue)
  | entered e => e.logged
  | killed id label command =>
    [("event_type", .text "job_killed"), ("job_id", .text id.text), ("label", .text label),
      ("command", .text command.name), ("message", .text "Job killed")]
  | heartbeat s =>
    [("event_type", .text "manager_heartbeat"), ("alive", .flag s.alive),
      ("current_job", .text (Text.shownOption (fun c => Text.quoted c.id.text) s.current)),
      ("current_label", .text (Text.shownOption (fun c => Text.quoted c.label) s.current)),
      ("queue_len", .number s.queued.length), ("message", .text "Scan manager heartbeat")]

end AuditEvent
end SerialJobs
