import SerialJobs.Manager.Announce

/-!
# Calls on the manager

What callers do to a manager: they submit jobs, have it do one iteration of the scheduling loop,
and kill the running job. Every call that changes the slot is a locked section followed by the
announcement of the transition it left.
-/

namespace SerialJobs
namespace Manager

variable {J E : Type}

/-- The ticket of the next submission. -/
def nextTicket (s : Setup J E) (j : J) (m : Manager J E) : Ticket :=
  ⟨m.handles.length, s.kind.id j, s.kind.label j⟩

/-- A new handle, in the queued state. -/
def register (s : Setup J E) (t : Ticket) (m : Manager J E) : Manager J E :=
  { m with
    handles := m.handles ++ [.fresh t.id t.label (m.now s)]
    past := .moved ⟨t, .queued, none⟩ :: m.past }

/-- Puts a job at the end of the queue. -/
def enqueue (w : Waiting J) (m : Manager J E) : Manager J E :=
  { m with queue := m.queue ++ [w] }

/-- Submits a job. The submission is announced before the job is in the queue, so that nothing can
be told of the job before. -/
def submit (s : Setup J E) (j : J) (m : Manager J E) : Ticket × Manager J E :=
  let t := m.nextTicket s j
  let m := ((m.register s t).announce s ⟨t, .queued, none⟩).enqueue ⟨t, j⟩
  (t, m.note (.jobQueued t.id t.label m.queue.length))

/-- One iteration of the scheduling loop: either looks after the job in the slot or starts the
head of the queue, never both. -/
def work (s : Setup J E) (m : Manager J E) : Tick × Manager J E :=
  let r := m.tickSection s
  (r.answer, announceDue s r)

/-- Iterations up to the first that finds nothing to do, at most `n`. -/
def workUntilIdle (s : Setup J E) : Nat → Manager J E → List Tick × Manager J E
  | 0, m => ([], m)
  | n + 1, m =>
    let (k, m) := m.work s
    if k = .idle then ([k], m)
    else
      let (ks, m) := workUntilIdle s n m
      (k :: ks, m)

/-- Kills the job with the given identity if it holds the slot. The answer is true once a
termination signal has been delivered to it. -/
def kill (s : Setup J E) (id : JobId) (c : KillCommand) (m : Manager J E) : Bool × Manager J E :=
  let r := m.killSection s id c
  (r.answer, announceDue s r)

end Manager
end SerialJobs
