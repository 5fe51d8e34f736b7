import SerialJobs.Manager.State

/-!
# The locked sections

Everything that happens to the slot while it is locked. A section ends with an answer and at most
one transition, which has been applied to the handle and is still to be announced once the lock is
free.

`Manager.tickSection` looks after the job in the slot or starts the head of the queue, never both.
`Manager.killSection` delivers a caller's kill to the job in the slot, and undoes what it prepared
when the signal is not delivered.
-/

namespace SerialJobs

/-- The end of a locked section. -/
structure Section (J E α : Type) where
  answer : α
  /-- The transition still to be announced. -/
  due : Option Transition
  manager : Manager J E

/-- The end of a call on a job, a panic turned into an error. -/
structure Called (J E α : Type) where
  result : Except JobError α
  job : J
  manager : Manager J E

namespace Manager

variable {J E : Type}

/-! ## Calls on a job -/

/-- Takes the reply to a call on a job. -/
def called {α : Type} (m : Manager J E) (t : Ticket) (exchange : Outcome α → Exchange)
    (r : Reply J E (Outcome α)) : Called J E α :=
  ⟨r.outcome.guarded, r.job,
    { m with env := r.env, past := .call t (exchange r.outcome) :: m.past }⟩

/-- Starts a job's worker. -/
def callStart (s : Setup J E) (t : Ticket) (j : J) (m : Manager J E) : Called J E Unit :=
  m.called t .start (s.kind.start j m.env)

/-- Looks whether a job's worker has exited. -/
def callTryExit (s : Setup J E) (t : Ticket) (j : J) (m : Manager J E) : Called J E (Option Exit) :=
  m.called t .tryExit (s.kind.tryExit j m.env)

/-- Signals a job's worker to terminate. -/
def callTerminate (s : Setup J E) (t : Ticket) (c : KillCommand) (j : J) (m : Manager J E) :
    Called J E Unit :=
  m.called t (.terminate c) (s.kind.terminate c j m.env)

/-- The clock at this moment. -/
def now (s : Setup J E) (m : Manager J E) : Nat := s.kind.now m.env

/-- The time since the job in the slot had started. -/
def age (s : Setup J E) (o : Occupant J) (m : Manager J E) : Nat := m.now s - o.started

/-! ## Leaving and keeping the slot -/

/-- The job keeps the slot. -/
def keep (o : Occupant J) (m : Manager J E) : Manager J E := { m with slot := some o }

/-- The handle of a job that started enters its last state, and the transition that this makes. -/
def finish (s : Setup J E) (o : Occupant J) (e : Exit) (m : Manager J E) :
    Transition × Manager J E :=
  let t : Transition := ⟨o.ticket, .finished e, some (.ofNanos (m.age s o))⟩
  (t, m.enter (m.now s) t)

/-- The job leaves the slot for good. -/
def release (s : Setup J E) (o : Occupant J) (e : Exit) (m : Manager J E) :
    Transition × Manager J E :=
  { m with slot := none }.finish s o e

/-! ## Terminating the job in the slot -/

/-- How far the termination of a job has come, with the job as the calls left it. -/
inductive Pursuit (J : Type)
  /-- The signal was not delivered. -/
  | undelivered (job : J)
  /-- The signal is delivered, now or earlier, and the worker has not exited as far as is known. -/
  | exiting (job : J)
  /-- The signal is delivered and the worker has exited. -/
  | exited (job : J)

/-- Looks whether the worker of a signalled job has exited. -/
def confirmExit (s : Setup J E) (o : Occupant J) (m : Manager J E) :
    Pursuit J × Manager J E :=
  let c := m.callTryExit s o.ticket o.job
  match c.result with
  | .ok (some _) => (.exited c.job, c.manager)
  | .ok none => (.exiting c.job, c.manager.note (.notExited o.ticket.id))
  | .error e => (.exiting c.job, c.manager.note (.exitUnreadable o.ticket.id e))

/-- Signals the job unless that was done before, and looks whether its worker has exited. -/
def pursue (s : Setup J E) (o : Occupant J) (p : PendingStop) (m : Manager J E) :
    Pursuit J × Manager J E :=
  if p.signalled then m.confirmExit s o
  else
    let c := m.callTerminate s o.ticket p.command o.job
    match c.result with
    | .error e =>
      (.undelivered c.job, c.manager.note (.signalFailed o.ticket.id (some p.command) e))
    | .ok () =>
      (c.manager.audit (.killed o.ticket.id o.ticket.label p.command)).confirmExit s
        { o with job := c.job }

/-- Goes on with the termination of the job, which keeps the slot until its worker has exited. -/
def pursueStop (s : Setup J E) (o : Occupant J) (p : PendingStop) (m : Manager J E) :
    Option Transition × Manager J E :=
  match m.pursue s o p with
  | (.undelivered j, m) => (none, m.keep { o with job := j, stop := some p })
  | (.exiting j, m) => (none, m.keep { o with job := j, stop := some { p with signalled := true } })
  | (.exited j, m) =>
    let (t, m) := m.release s { o with job := j } p.exit
    (some t, m)

/-! ## One iteration of the scheduling loop -/

/-- Starts a job taken from the queue. -/
def startHead (s : Setup J E) (w : Waiting J) (m : Manager J E) : Section J E Tick :=
  let id := w.ticket.id
  let c := m.callStart s w.ticket w.job
  match c.result with
  | .ok () =>
    let m := c.manager.note (.jobStarted id w.ticket.label m.queue.length)
    let t : Transition := ⟨w.ticket, .running, none⟩
    let m := m.enter (m.now s) t
    ⟨.started id, some t, m.keep ⟨w.ticket, c.job, m.now s, 0, none⟩⟩
  | .error e =>
    let m := c.manager.note (.startFailed id w.ticket.label e)
    let t : Transition := ⟨w.ticket, .finished (.startFailed e.message), none⟩
    ⟨.startFailed id, some t, m.enter (m.now s) t⟩

/-- What a look at the running job says. -/
inductive Finding
  | running
  /-- The status could not be read; it will be checked again. -/
  | statusError
  | exited (e : Exit)
  /-- The job exceeded the job timeout. -/
  | overdue
  /-- The status could not be read, and will not be checked again. -/
  | unreadable (e : JobError)
deriving DecidableEq, Repr

/-- The job exceeded the job timeout. -/
def isOverdue (s : Setup J E) (o : Occupant J) (m : Manager J E) : Bool :=
  s.config.jobTimeout.any fun limit => limit.toNanos ≤ m.age s o

/-- Looks at the running job, and counts failed status checks. -/
def check (s : Setup J E) (o : Occupant J) (m : Manager J E) :
    Finding × Occupant J × Manager J E :=
  let c := m.callTryExit s o.ticket o.job
  let m := c.manager
  match c.result with
  | .ok (some e) => (.exited e, { o with job := c.job }, m)
  | .ok none =>
    let o := { o with job := c.job, statusErrors := 0 }
    (if m.isOverdue s o then .overdue else .running, o, m)
  | .error e =>
    let o := { o with job := c.job, statusErrors := o.statusErrors + 1 }
    let limit := s.config.statusErrorLimit.toNat
    if !e.isTransient || limit ≤ o.statusErrors then (.unreadable e, o, m)
    else (.statusError, o, m.note (.statusError o.ticket.id o.statusErrors limit e))

/-- Looks after a job that is not being terminated. -/
def superviseRunning (s : Setup J E) (o : Occupant J) (m : Manager J E) : Section J E Tick :=
  let id := o.ticket.id
  match m.check s o with
  | (.running, o, m) => ⟨.stillRunning id, none, m.keep o⟩
  | (.statusError, o, m) => ⟨.statusError id, none, m.keep o⟩
  | (.exited e, o, m) =>
    let m := m.note (.jobFinished id o.ticket.label e (.ofNanos (m.age s o)))
    let (t, m) := m.release s o e
    ⟨.finished id, some t, m⟩
  | (.overdue, o, m) =>
    let m := m.note (.overdue id o.ticket.label s.config.jobTimeout)
    let (due, m) := m.pursueStop s o ⟨.timeout, .killed .timeout, false⟩
    ⟨.timedOut id, due, m⟩
  | (.unreadable e, o, m) =>
    let m := m.note (.unreadable id o.ticket.label o.statusErrors e)
    let (due, m) := m.pursueStop s o ⟨.timeout, .unresponsive e.message, false⟩
    ⟨if due.isSome then .finished id else .stopping id, due, m⟩

/-- Looks after the job in the slot. -/
def supervise (s : Setup J E) (o : Occupant J) (m : Manager J E) : Section J E Tick :=
  match o.stop with
  | none => m.superviseRunning s o
  | some p =>
    let (due, m) := m.pursueStop s o p
    ⟨if due.isSome then .finished o.ticket.id else .stopping o.ticket.id, due, m⟩

/-- One iteration of the scheduling loop, as far as the slot is locked. -/
def tickSection (s : Setup J E) (m : Manager J E) : Section J E Tick :=
  match m.slot with
  | some o => m.supervise s o
  | none =>
    match m.queue with
    | [] => ⟨.idle, none, m⟩
    | w :: ws => { m with queue := ws }.startHead s w

/-! ## Kills -/

/-- A caller's kill of the job in the slot. A termination already under way goes on as it began; one
that starts here and whose signal is not delivered leaves no trace on the job's record. -/
def killOccupant (s : Setup J E) (o : Occupant J) (c : KillCommand) (m : Manager J E) :
    Section J E Bool :=
  let p := o.stop.getD ⟨c, .killed c, false⟩
  match m.pursue s o p with
  | (.undelivered j, m) => ⟨false, none, m.keep { o with job := j }⟩
  | (.exiting j, m) =>
    ⟨true, none, m.keep { o with job := j, stop := some { p with signalled := true } }⟩
  | (.exited j, m) =>
    let (t, m) := m.release s { o with job := j } p.exit
    ⟨true, some t, m⟩

/-- A caller's kill, as far as the slot is locked. -/
def killSection (s : Setup J E) (id : JobId) (c : KillCommand) (m : Manager J E) :
    Section J E Bool :=
  match m.slot with
  | some o =>
    if o.ticket.id = id then m.killOccupant s o c
    else ⟨false, none, m.note (.killIgnored id c)⟩
  | none => ⟨false, none, m.note (.killIgnored id c)⟩

end Manager
end SerialJobs
