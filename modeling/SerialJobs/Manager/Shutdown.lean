import SerialJobs.Manager.Calls

/-!
# The end of a manager

A stop takes the job out of the slot, signals it unless that was done before, waits for its exit,
and hands back what is still queued. The job is finished however the wait ends, unless the wait
panics: then the panic goes to the caller, and the job's handle and the queue stay as they were.

A manager that nobody holds any more ends likewise, but without waiting, and what is queued is lost.
-/

namespace SerialJobs

/-- What a stop did. -/
structure Report (J : Type) where
  /-- The job that was running. -/
  terminated : Option JobId
  /-- The jobs that were queued, head first. -/
  drained : List (Waiting J)

namespace Manager

variable {J E : Type}

/-- Takes the job out of the slot. -/
def vacate (m : Manager J E) : Option (Occupant J) × Manager J E :=
  (m.slot, { m with slot := none })

/-- Signals a job that has been taken out of the slot, unless that was done before. The exit is
the one that the job will be given. A signal that is not delivered is reported like one that is.
-/
def signalLast (s : Setup J E) (o : Occupant J) (m : Manager J E) : Exit × J × Manager J E :=
  match o.stop with
  | some ⟨_, exit, true⟩ => (exit, o.job, m)
  | _ =>
    let c := m.callTerminate s o.ticket .shutdown o.job
    let m :=
      match c.result with
      | .ok () => c.manager
      | .error e => c.manager.note (.signalFailed o.ticket.id none e)
    (.killed .shutdown, c.job, m.audit (.killed o.ticket.id o.ticket.label .shutdown))

/-- Waits for the exit of a job that has been taken out of the slot. -/
def awaitExit (s : Setup J E) (t : Ticket) (j : J) (m : Manager J E) :
    Except PanicPayload Unit × Manager J E :=
  let r := s.kind.wait s.config.shutdownTimeout j m.env
  let m := { m with env := r.env, past := .call t (.wait r.outcome) :: m.past }
  match r.outcome with
  | .exited e => (.ok (), m.note (.exitedOnStop t.id e))
  | .error e => (.ok (), m.note (.waitFailed t.id e))
  | .timedOut => (.ok (), m.note (.waitTimedOut t.id s.config.shutdownTimeout))
  | .panic p => (.error p, m)

/-- Ends a job that has been taken out of the slot. -/
def shutDown (s : Setup J E) (o : Occupant J) (m : Manager J E) :
    Except PanicPayload Unit × Manager J E :=
  let (e, j, m) := m.signalLast s o
  match m.awaitExit s o.ticket j with
  | (.error p, m) => (.error p, m)
  | (.ok (), m) =>
    let (t, m) := m.finish s o e
    (.ok (), m.announce s t)

/-- Takes all jobs out of the queue. -/
def drain (m : Manager J E) : List (Waiting J) × Manager J E :=
  (m.queue, { m with queue := [] })

/-- The last part of a stop: drains the queue and reports. -/
def concludeStop (terminated : Option JobId) (m : Manager J E) : Report J × Manager J E :=
  let (ws, m) := m.drain
  (⟨terminated, ws⟩, m.note (.stopped terminated ws.length))

/-- Stops a manager whose loop has ended. -/
def stop (s : Setup J E) (m : Manager J E) : Except PanicPayload (Report J) × Manager J E :=
  match m.vacate with
  | (none, m) =>
    let (report, m) := m.concludeStop none
    (.ok report, m)
  | (some o, m) =>
    match m.shutDown s o with
    | (.error p, m) => (.error p, m)
    | (.ok (), m) =>
      let (report, m) := m.concludeStop (some o.ticket.id)
      (.ok report, m)

/-- Announces a transition of a manager that nobody holds any more: the sink cannot call it back. -/
def announceLast (s : Setup J E) (m : Manager J E) (t : Transition) : Manager J E :=
  let m :=
    match s.sink with
    | none => m
    | some sink =>
      let reaction := sink.react m.records t.record
      let m := m.happen (.recorded t.record none)
      match reaction.panic with
      | none => m
      | some p => m.note (.sinkPanicked t.ticket.id t.state p)
  m.audit (m.auditEvent s t)

/-- Ends a manager that nobody holds any more. -/
def drop (s : Setup J E) (m : Manager J E) : Manager J E :=
  match m.vacate with
  | (none, m) => { m with queue := [] }
  | (some o, m) =>
    let (e, _, m) := (m.note (.dropped o.ticket.id)).signalLast s o
    let (t, m) := m.finish s o e
    { m.announceLast s t with queue := [] }

end Manager
end SerialJobs
