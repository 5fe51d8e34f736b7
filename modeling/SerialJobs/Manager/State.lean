import SerialJobs.Audit.Event
import SerialJobs.Config
import SerialJobs.Job.Kind
import SerialJobs.Manager.Diagnostic
import SerialJobs.Manager.Tick
import SerialJobs.Sink

/-!
# The state of the manager

A manager has one running slot, a queue, and a handle for every submission ever made. A submission
is known by its ticket, whose number is the place of its handle; two submissions of the same job
have different tickets. Beside that the manager keeps its history: every call on a job with its
outcome, every state that a handle entered, everything told to the sink, to the audit log and to
those who look after the manager, in the order in which it happened.
-/

namespace SerialJobs

/-- The ticket of a submission: its number, and the name of its job. -/
structure Ticket where
  number : Nat
  id : JobId
  label : String
deriving DecidableEq, Repr

/-- A termination under way. -/
structure PendingStop where
  /-- The command that the job is or will be signalled with. -/
  command : KillCommand
  /-- The exit that the job will be given. -/
  exit : Exit
  /-- The signal has been delivered. -/
  signalled : Bool
deriving DecidableEq, Repr

/-- The job in the running slot. -/
structure Occupant (J : Type) where
  ticket : Ticket
  job : J
  /-- The clock when the job had started. -/
  started : Nat
  /-- The failed status checks since the last successful one. -/
  statusErrors : Nat
  /-- The termination under way, if any. -/
  stop : Option PendingStop

/-- A queued job. -/
structure Waiting (J : Type) where
  ticket : Ticket
  job : J

/-- What can be seen of a submission from outside. -/
structure Handle where
  id : JobId
  label : String
  state : JobState
  /-- The clock when the job was submitted. -/
  queuedAt : Nat
  /-- The clock when the job was started. -/
  startedAt : Option Nat
  /-- The clock when the job finished. -/
  finishedAt : Option Nat
deriving DecidableEq, Repr

namespace Handle

/-- The handle of a job submitted now. -/
def fresh (id : JobId) (label : String) (now : Nat) : Handle :=
  ⟨id, label, .queued, now, none, none⟩

/-- The handle of a job that enters a state now. -/
def enter (h : Handle) (state : JobState) (now : Nat) : Handle :=
  match state with
  | .queued => { h with state := .queued }
  | .running => { h with state := .running, startedAt := some now }
  | .finished e => { h with state := .finished e, finishedAt := some now }

/-- The job is waiting in the queue. -/
def isQueued (h : Handle) : Bool := h.state = .queued

/-- The job occupies the running slot. -/
def isRunning (h : Handle) : Bool := h.state = .running

/-- The job is out of the running slot for good. -/
def isFinished (h : Handle) : Bool := h.state.isTerminal

end Handle

/-- A state entered by a submission's handle, which the sink and the audit log are to be told
of. -/
structure Transition where
  ticket : Ticket
  state : JobState
  /-- The time in the running slot, for a finished job that ran. -/
  runtime : Option Duration
deriving DecidableEq, Repr

/-- What a sink is told of a transition. -/
def Transition.record (t : Transition) : Record :=
  ⟨t.ticket.id, t.ticket.label, t.state⟩

/-- The slot and the queue, as a sink sees them. -/
structure View where
  current : Option JobId
  queued : List JobId
deriving DecidableEq, Repr

/-- Something that happened. -/
inductive Event
  /-- A call on a job, and how it ended. -/
  | call (ticket : Ticket) (exchange : Exchange)
  /-- A handle has entered a state. -/
  | moved (t : Transition)
  /-- The sink was told; it saw the manager as given, unless the manager was already gone. -/
  | recorded (r : Record) (view : Option View)
  /-- The answer to the sink's own iteration of the scheduling loop. -/
  | sinkWorked (k : Tick)
  /-- The answer to the sink's own kill. -/
  | sinkKilled (delivered : Bool)
  /-- The audit log was told. -/
  | audited (e : AuditEvent)
  /-- Those who look after the manager were told. -/
  | noted (d : Diagnostic)
deriving DecidableEq

namespace Event

/-- What the sink was told. -/
def record? : Event → Option Record
  | recorded r _ => some r
  | _ => none

/-- What the audit log was told. -/
def audit? : Event → Option AuditEvent
  | audited e => some e
  | _ => none

/-- The state that a handle has entered. -/
def transition? : Event → Option Transition
  | moved t => some t
  | _ => none

end Event

/-- What a manager is made with. -/
structure Setup (J E : Type) where
  kind : JobKind J E
  config : Config
  sink : Option Sink := none

/-- The state of a manager of jobs `J` in surroundings `E`. -/
structure Manager (J E : Type) where
  env : E
  slot : Option (Occupant J)
  /-- The queued jobs, head first. -/
  queue : List (Waiting J)
  /-- The handles of all submissions, by their numbers. -/
  handles : List Handle
  /-- All that happened, the latest event first. -/
  past : List Event

namespace Manager

variable {J E : Type}

/-- A manager that nothing was submitted to. -/
def fresh (env : E) : Manager J E := ⟨env, none, [], [], []⟩

/-- All that happened, in order. -/
def history (m : Manager J E) : List Event := m.past.reverse

/-- Adds an event to the history. -/
def happen (m : Manager J E) (e : Event) : Manager J E :=
  { m with past := e :: m.past }

/-- Tells the audit log. -/
def audit (m : Manager J E) (e : AuditEvent) : Manager J E := m.happen (.audited e)

/-- Tells those who look after the manager. -/
def note (m : Manager J E) (d : Diagnostic) : Manager J E := m.happen (.noted d)

/-- A submission's handle enters a state. -/
def enter (m : Manager J E) (now : Nat) (t : Transition) : Manager J E :=
  { m with
    handles := m.handles.modify t.ticket.number (·.enter t.state now)
    past := .moved t :: m.past }

/-- What the sink was told, in order. -/
def records (m : Manager J E) : List Record := m.history.filterMap Event.record?

/-- What the audit log was told, in order. -/
def audits (m : Manager J E) : List AuditEvent := m.history.filterMap Event.audit?

/-- The states that handles have entered, in order. -/
def transitions (m : Manager J E) : List Transition := m.history.filterMap Event.transition?

/-- The identities of the queued jobs, head first. -/
def queuedIds (m : Manager J E) : List JobId := m.queue.map (·.ticket.id)

/-- The identity of the job in the running slot. -/
def currentId (m : Manager J E) : Option JobId := m.slot.map (·.ticket.id)

/-- The slot and the queue at this moment. -/
def view (m : Manager J E) : View := ⟨m.currentId, m.queuedIds⟩

/-- The time at which a submission was started. -/
def startedAt (m : Manager J E) (t : Ticket) : Option Nat :=
  m.handles[t.number]?.bind (·.startedAt)

/-- The job in the running slot, as a snapshot shows it. -/
def occupancy (m : Manager J E) : Option Occupancy :=
  m.slot.map fun o =>
    ⟨o.ticket.id, o.ticket.label, (m.startedAt o.ticket).map Timestamp.ofNanos, o.stop.isSome⟩

/-- The manager as a caller sees it at this moment. -/
def snapshot (m : Manager J E) (alive : Bool) : Snapshot := ⟨alive, m.occupancy, m.queuedIds⟩

end Manager
end SerialJobs
