import SerialJobs.Host.Stage
import SerialJobs.Job.Kind
import SerialJobs.Text.Quoted

/-!
# Routines

A routine is a job whose worker is a task of the host's runtime. What the task will do is handed
over when the job is started, so a routine can be started only once, even when there was no
runtime to start it on. A task that is terminated is gone only after the runtime has run; one that
has ended by then keeps its own result.
-/

namespace SerialJobs

/-- What a routine does when it is started: it makes a task, or panics before there is one. -/
inductive Plan
  | task (w : Work)
  | panic (p : PanicPayload)

/-- A job whose worker is a task. -/
structure Routine where
  id : JobId
  label : String
  /-- What it will do, until it is started. -/
  plan : Option Plan
  /-- The number of its task, until its exit is known. -/
  task : Option Nat := none
  /-- The last command that it was terminated with. -/
  killed : Option KillCommand := none
  exit : Option Exit := none

namespace Routine

/-- The error of a job that is started twice. -/
def alreadyStarted (label : String) : JobError :=
  .internal ("job '" ++ label ++ "' already started")

/-- The exit of a job whose task has ended. -/
def exitOf (killed : Option KillCommand) : TaskEnd → Exit
  | .returned (.ok ()) => .completed
  | .returned (.error message) => .failed none (some message)
  | .panicked p => .panicked p.message
  | .cancelled => .killed (killed.getD .cancel)

/-- The exit of the job is known. -/
def conclude (j : Routine) (e : TaskEnd) : Exit × Routine :=
  let exit := exitOf j.killed e
  (exit, { j with task := none, exit := some exit })

/-- Starts the task. -/
def start (j : Routine) (h : Host) : Reply Routine Host (Outcome Unit) :=
  match j.plan with
  | none => ⟨.error (alreadyStarted j.label), j, h⟩
  | some plan =>
    let j := { j with plan := none }
    if !h.hasRuntime then ⟨.error (.internal ("no tokio runtime: " ++ noRuntime)), j, h⟩
    else
      match plan with
      | .panic p => ⟨.panic p, j, h⟩
      | .task w =>
        let (n, h) := h.spawn w
        ⟨.ok (), { j with task := some n }, h⟩

/-- Looks whether the task has ended. -/
def tryExit (j : Routine) (h : Host) : Reply Routine Host (Outcome (Option Exit)) :=
  match j.exit, j.task with
  | some e, _ => ⟨.ok (some e), j, h⟩
  | none, none => ⟨.error .notStarted, j, h⟩
  | none, some n =>
    if !h.isFinished n then ⟨.ok none, j, h⟩
    else
      match h.taskEnd n with
      | some t =>
        let (e, j) := j.conclude t
        ⟨.ok (some e), j, h⟩
      | none => ⟨.ok none, j, h⟩

/-- Tells the task to go away. -/
def terminate (c : KillCommand) (j : Routine) (h : Host) : Reply Routine Host (Outcome Unit) :=
  match j.exit, j.task with
  | some _, _ => ⟨.ok (), j, h⟩
  | none, none => ⟨.error .notStarted, j, h⟩
  | none, some n => ⟨.ok (), { j with killed := some c }, h.abort n⟩

/-- Waits for the end of the task. -/
def wait (limit : Duration) (j : Routine) (h : Host) : Reply Routine Host WaitOutcome :=
  match j.exit, j.task with
  | some e, _ => ⟨.exited e, j, h⟩
  | none, none => ⟨.error .notStarted, j, h⟩
  | none, some n =>
    let h := Stage.alone.await (·.isFinished n) limit.ticks h
    match h.taskEnd n with
    | none => ⟨.timedOut, j, h⟩
    | some t =>
      let (e, j) := j.conclude t
      ⟨.exited e, j, h⟩

/-- A routine shown by its fields. -/
def shown (j : Routine) : String :=
  Text.shownRecord "TaskJob"
    [("id", j.id.shown), ("label", Text.quoted j.label),
      ("started", if j.plan.isNone then "true" else "false"),
      ("exit", Text.shownOption Exit.shown j.exit)]

end Routine
end SerialJobs
