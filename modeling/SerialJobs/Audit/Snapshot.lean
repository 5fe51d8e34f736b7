import SerialJobs.Job.Json
import SerialJobs.Time.Format

/-!
# Snapshots of the manager

What a caller sees of the manager at one moment: whether the loop runs, the job in the running slot,
and the queued jobs, head first.
-/

namespace SerialJobs

namespace Timestamp

/-- A point in time as a JSON string. -/
def toJson (t : Timestamp) : Json := .str t.text

/-- The point in time that a JSON string denotes. -/
def ofJson (j : Json) : Option Timestamp :=
  (Json.asString j).bind ofText?

end Timestamp

/-- The job in the running slot, as a snapshot shows it. -/
structure Occupancy where
  id : JobId
  label : String
  /-- When the job was started. -/
  startedAt : Option Timestamp
  /-- The job has been told to stop, or is about to be. -/
  stopping : Bool
deriving DecidableEq

namespace Occupancy

/-- A current job as an object. -/
def toJson (c : Occupancy) : Json :=
  .record [("id", c.id.toJson), ("label", .str c.label),
    ("started_at", .ofOption Timestamp.toJson c.startedAt), ("stopping", .bool c.stopping)]

/-- The current job that a JSON value denotes. -/
def ofJson (j : Json) : Option Occupancy := do
  match ← Json.fields ["id", "label", "started_at", "stopping"] j with
  | [id, label, startedAt, stopping] =>
    some ⟨← Json.required JobId.ofJson id, ← Json.required Json.asString label,
      ← Json.optional Timestamp.ofJson startedAt, ← Json.required Json.asBool stopping⟩
  | _ => none

end Occupancy

/-- The manager at one moment. -/
structure Snapshot where
  /-- The loop is running. -/
  alive : Bool
  /-- The job in the running slot. -/
  current : Option Occupancy
  /-- The queued jobs, head first. -/
  queued : List JobId
deriving DecidableEq

namespace Snapshot

/-- A snapshot as an object. -/
def toJson (s : Snapshot) : Json :=
  .record [("alive", .bool s.alive), ("current", .ofOption Occupancy.toJson s.current),
    ("queued", .arr (s.queued.map JobId.toJson))]

/-- The snapshot that a JSON value denotes. -/
def ofJson (j : Json) : Option Snapshot := do
  match ← Json.fields ["alive", "current", "queued"] j with
  | [alive, current, queued] =>
    some ⟨← Json.required Json.asBool alive, ← Json.optional Occupancy.ofJson current,
      ← Json.required (Json.asList JobId.ofJson) queued⟩
  | _ => none

end Snapshot
end SerialJobs
