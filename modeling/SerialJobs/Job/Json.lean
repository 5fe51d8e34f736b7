import SerialJobs.Job.Exit
import SerialJobs.Job.Id
import SerialJobs.Json.Decode

/-!
# The JSON form of jobs' values

Identities are strings, kill commands and task statuses are their names, exits and states are
variants tagged by `type` and `state`.
-/

namespace SerialJobs

open Json (Origin)

namespace JobId

/-- An identity as a JSON string. -/
def toJson (id : JobId) : Json := .str id.text

/-- The identity that a JSON string denotes. -/
def ofJson (j : Json) : Option JobId :=
  (Json.asString j).bind ofText?

end JobId

namespace KillCommand

/-- The names of the commands, in the order of their numbers. -/
def names : List String := all.map name

/-- A command as its name. -/
def toJson (c : KillCommand) : Json := .str c.name

/-- The command that a JSON value names. -/
def ofJson (origin : Origin) (j : Json) : Option KillCommand := do
  all[← Json.variantNumber names origin j]?

end KillCommand

namespace TaskStatus

/-- The names of the statuses, in the order of their numbers. -/
def names : List String := all.map name

/-- A status as its name. -/
def toJson (s : TaskStatus) : Json := .str s.name

/-- The status that a JSON value names. -/
def ofJson (origin : Origin) (j : Json) : Option TaskStatus := do
  all[← Json.variantNumber names origin j]?

end TaskStatus

/-- A 32-bit exit code as a JSON number. -/
def exitCodeToJson (c : Int32) : Json := .int c.toInt

/-- The 32-bit exit code that a JSON number denotes. -/
def exitCodeOfJson (j : Json) : Option Int32 := do
  let i ← Json.asInt j
  if Int32.minValue.toInt ≤ i ∧ i ≤ Int32.maxValue.toInt then some (Int32.ofInt i) else none

namespace Exit

/-- The tags of the exits, in the order of their numbers. -/
def tags : List String :=
  ["completed", "failed", "panicked", "killed", "start_failed", "unresponsive"]

/-- An exit as an object: its tag and its fields. -/
def toJson : Exit → Json
  | completed => .record [("type", .str "completed")]
  | failed code message =>
    .record [("type", .str "failed"), ("code", .ofOption exitCodeToJson code),
      ("message", .ofOption .str message)]
  | panicked message => .record [("type", .str "panicked"), ("message", .str message)]
  | killed c => .record [("type", .str "killed"), ("command", c.toJson)]
  | startFailed reason => .record [("type", .str "start_failed"), ("reason", .str reason)]
  | unresponsive reason => .record [("type", .str "unresponsive"), ("reason", .str reason)]

/-- The exit with the given number and parts. -/
def ofParts (n : Nat) (parts : Json) : Option Exit :=
  match n with
  | 0 => (Json.noFields parts).map fun _ => completed
  | 1 => do
    match ← Json.fields ["code", "message"] parts with
    | [code, message] =>
      some (failed (← Json.optional exitCodeOfJson code) (← Json.optional Json.asString message))
    | _ => none
  | 2 => do
    match ← Json.fields ["message"] parts with
    | [message] => (Json.required Json.asString message).map panicked
    | _ => none
  | 3 => do
    match ← Json.fields ["command"] parts with
    | [command] => (Json.required (KillCommand.ofJson .kept) command).map killed
    | _ => none
  | 4 => do
    match ← Json.fields ["reason"] parts with
    | [reason] => (Json.required Json.asString reason).map startFailed
    | _ => none
  | 5 => do
    match ← Json.fields ["reason"] parts with
    | [reason] => (Json.required Json.asString reason).map unresponsive
    | _ => none
  | _ => none

/-- The exit that a JSON value denotes. -/
def ofJson (origin : Origin) (j : Json) : Option Exit := do
  let (n, parts) ← Json.tagged "type" tags origin j
  ofParts n parts

/-- The exit that a document denotes. -/
def ofDocument (j : Json) : Option Exit :=
  if j.keepable ∧ j.height ≤ Json.depthLimit then ofJson .document j else none

end Exit

namespace JobState

/-- The tags of the states, in the order of their numbers. -/
def tags : List String := ["queued", "running", "finished"]

/-- A state as an object: its tag, and the exit once finished. -/
def toJson : JobState → Json
  | queued => .record [("state", .str "queued")]
  | running => .record [("state", .str "running")]
  | finished e => .record [("state", .str "finished"), ("exit", e.toJson)]

/-- The state with the given number and parts. -/
def ofParts (n : Nat) (parts : Json) : Option JobState :=
  match n with
  | 0 => (Json.noFields parts).map fun _ => queued
  | 1 => (Json.noFields parts).map fun _ => running
  | 2 => do
    match ← Json.fields ["exit"] parts with
    | [exit] => (Json.required (Exit.ofJson .kept) exit).map finished
    | _ => none
  | _ => none

/-- The state that a JSON value inside `depth` others denotes. -/
def ofJson (depth : Nat) (j : Json) : Option JobState :=
  if j.keepable ∧ depth + j.height ≤ Json.depthLimit then do
    let (n, parts) ← Json.tagged "state" tags .document j
    ofParts n parts
  else none

end JobState
end SerialJobs
