import SerialJobs.Proofs.Departure

/-!
# What an observer sees of a manager

An observer sees some of the events of a history, each perhaps as another one: `Manager.seen` is the
manager as the observer sees it. The jobs of two setups may differ in a way that the manager takes
no notice of; if the observer sees the calls on the ones as the calls on the others, then every
section does the same under both setups, as far as the observer sees (`Observed`). If announcements
do so as well, then every request and the end of the manager do (`Unnoticed.serve_seen`,
`Unnoticed.drop_seen`).

There is one lemma for each function of the manager, named after it.
-/

namespace SerialJobs

variable {J E α : Type}

/-- The manager as it is seen by an observer who sees events by `f`. -/
def Manager.seen (f : Event → Option Event) (m : Manager J E) : Manager J E :=
  { m with past := m.past.filterMap f }

/-- The same end of a call, with the manager as an observer sees it. -/
def Called.seen (f : Event → Option Event) (c : Called J E α) : Called J E α :=
  { c with manager := c.manager.seen f }

/-- The same end of a locked section, with the manager as an observer sees it. -/
def Section.seen (f : Event → Option Event) (r : Section J E α) : Section J E α :=
  { r with manager := r.manager.seen f }

/-- A call on a job has left the same, and the manager makes the same of both outcomes, where an
observer sees the call with the one outcome as the call with the other. -/
structure Reply.Matches (f : Event → Option Event) (exchange : Outcome α → Exchange)
    (r r' : Reply J E (Outcome α)) : Prop where
  job : r'.job = r.job
  env : r'.env = r.env
  guarded : r'.outcome.guarded = r.outcome.guarded
  seen : ∀ t, f (.call t (exchange r.outcome)) = some (.call t (exchange r'.outcome))

/-- The calls on the jobs of both setups match, and the observer sees waits, states that handles
enter, and what the audit log is told and those who look after the manager, unless that is about the
sink. -/
structure Observed (f : Event → Option Event) (s s' : Setup J E) : Prop where
  config : s'.config = s.config
  ids : s'.kind.id = s.kind.id
  labels : s'.kind.label = s.kind.label
  now : s'.kind.now = s.kind.now
  moment : s'.kind.moment = s.kind.moment
  start : ∀ j env, Reply.Matches f .start (s.kind.start j env) (s'.kind.start j env)
  tryExit : ∀ j env, Reply.Matches f .tryExit (s.kind.tryExit j env) (s'.kind.tryExit j env)
  terminate : ∀ c j env,
    Reply.Matches f (.terminate c) (s.kind.terminate c j env) (s'.kind.terminate c j env)
  wait : s'.kind.wait = s.kind.wait
  waited : ∀ t x, f (.call t (.wait x)) = some (.call t (.wait x))
  moved : ∀ t, f (.moved t) = some (.moved t)
  audited : ∀ e, f (.audited e) = some (.audited e)
  noted : ∀ d, (∀ i x p, d ≠ .sinkPanicked i x p) → f (.noted d) = some (.noted d)

namespace Manager

section Seen

variable {f : Event → Option Event} (m : Manager J E)

@[simp] lemma slot_seen : (m.seen f).slot = m.slot := rfl
@[simp] lemma queue_seen : (m.seen f).queue = m.queue := rfl
@[simp] lemma keep_seen (o : Occupant J) : (m.seen f).keep o = (m.keep o).seen f := rfl
@[simp] lemma vacate_seen : (m.seen f).vacate = m.vacate.map id (seen f) := rfl
@[simp] lemma snapshot_seen (alive : Bool) : (m.seen f).snapshot alive = m.snapshot alive := rfl

lemma history_seen : (m.seen f).history = m.history.filterMap f := by
  simp [history, seen]

lemma happen_seen {e e' : Event} (h : f e = some e') :
    (m.seen f).happen e' = (m.happen e).seen f := by
  simp [happen, seen, h]

end Seen

end Manager

namespace Observed

open Manager

variable {f : Event → Option Event} {s s' : Setup J E} (h : Observed f s s')
  (o : Occupant J) (p : PendingStop) (m : Manager J E)

include h

/-! ## News -/

lemma audit_seen (e : AuditEvent) : (m.seen f).audit e = (m.audit e).seen f :=
  m.happen_seen (h.audited e)

lemma note_seen {d : Diagnostic} (hd : ∀ i x p, d ≠ .sinkPanicked i x p) :
    (m.seen f).note d = (m.note d).seen f :=
  m.happen_seen (h.noted d hd)

lemma now_seen : (m.seen f).now s' = m.now s := congrFun h.now m.env

lemma age_seen : (m.seen f).age s' o = m.age s o := congrArg (· - o.started) (h.now_seen m)

lemma enter_seen (n : Nat) (t : Transition) : (m.seen f).enter n t = (m.enter n t).seen f := by
  simp [enter, seen, h.moved]

lemma auditEvent_seen (t : Transition) : (m.seen f).auditEvent s' t = m.auditEvent s t := by
  rw [auditEvent, auditEvent, h.now_seen]

/-! ## Calls on a job -/

omit h in
lemma called_seen (t : Ticket) {exchange : Outcome α → Exchange} {r r' : Reply J E (Outcome α)}
    (matched : r.Matches f exchange r') :
    (m.seen f).called t exchange r' = (m.called t exchange r).seen f := by
  simp [called, Called.seen, seen, matched.job, matched.env, matched.guarded, matched.seen]

lemma callStart_seen (t : Ticket) (j : J) :
    (m.seen f).callStart s' t j = (m.callStart s t j).seen f :=
  called_seen m t (h.start j m.env)

lemma callTryExit_seen (t : Ticket) (j : J) :
    (m.seen f).callTryExit s' t j = (m.callTryExit s t j).seen f :=
  called_seen m t (h.tryExit j m.env)

lemma callTerminate_seen (t : Ticket) (c : KillCommand) (j : J) :
    (m.seen f).callTerminate s' t c j = (m.callTerminate s t c j).seen f :=
  called_seen m t (h.terminate c j m.env)

/-! ## Locked sections -/

lemma finish_seen (e : Exit) : (m.seen f).finish s' o e = (m.finish s o e).map id (seen f) := by
  simp only [finish, h.age_seen, h.now_seen, h.enter_seen, Prod.map, id]

lemma release_seen (e : Exit) : (m.seen f).release s' o e = (m.release s o e).map id (seen f) :=
  h.finish_seen o { m with slot := none } e

lemma confirmExit_seen : (m.seen f).confirmExit s' o = (m.confirmExit s o).map id (seen f) := by
  simp only [confirmExit, h.callTryExit_seen]
  rcases m.callTryExit s o.ticket o.job with ⟨e | _ | x, j, m'⟩
  · exact congrArg (Prod.mk _) (h.note_seen m' (by simp))
  · exact congrArg (Prod.mk _) (h.note_seen m' (by simp))
  · rfl

lemma pursue_seen : (m.seen f).pursue s' o p = (m.pursue s o p).map id (seen f) := by
  simp only [pursue, h.callTerminate_seen]
  split
  · exact h.confirmExit_seen o m
  · rcases m.callTerminate s o.ticket p.command o.job with ⟨e | ⟨⟩, j, m'⟩
    · exact congrArg (Prod.mk _) (h.note_seen m' (by simp))
    · simp only [Called.seen, h.audit_seen]
      exact h.confirmExit_seen { o with job := j } _

lemma pursueStop_seen : (m.seen f).pursueStop s' o p = (m.pursueStop s o p).map id (seen f) := by
  simp only [pursueStop, h.pursue_seen]
  rcases m.pursue s o p with ⟨j | j | j, m'⟩
  · rfl
  · rfl
  · simp only [Prod.map, id, h.release_seen]

lemma startHead_seen (w : Waiting J) :
    (m.seen f).startHead s' w = (m.startHead s w).seen f := by
  simp only [startHead, h.callStart_seen]
  rcases m.callStart s w.ticket w.job with ⟨e | ⟨⟩, j, m'⟩
  · simp (disch := simp) only [Called.seen, Section.seen, h.note_seen, h.now_seen, h.enter_seen]
  · simp (disch := simp) only [Called.seen, Section.seen, queue_seen, h.note_seen, h.now_seen,
      h.enter_seen, keep_seen]

lemma isOverdue_seen : (m.seen f).isOverdue s' o = m.isOverdue s o := by
  rw [isOverdue, isOverdue, h.config, h.age_seen]

lemma check_seen :
    (m.seen f).check s' o = (m.check s o).map id (Prod.map id (seen f)) := by
  simp only [check, h.callTryExit_seen, h.config]
  rcases m.callTryExit s o.ticket o.job with ⟨e | _ | x, j, m'⟩
  · simp only [Called.seen]
    split
    · rfl
    · simp (disch := simp) only [h.note_seen, Prod.map, id]
  · simp only [Called.seen, h.isOverdue_seen, Prod.map, id]
  · rfl

omit h in
/-- A section that ends with a termination gone on with, and answers by what is left of it. -/
lemma section_seen (answer : Option Transition → α) {r r' : Option Transition × Manager J E}
    (hr : r' = r.map id (seen f)) :
    Section.mk (answer r'.1) r'.1 r'.2 = (Section.mk (answer r.1) r.1 r.2).seen f := by
  rw [hr]
  rfl

lemma superviseRunning_seen :
    (m.seen f).superviseRunning s' o = (m.superviseRunning s o).seen f := by
  simp only [superviseRunning, h.check_seen, h.config]
  rcases m.check s o with ⟨x, o', m'⟩
  cases x with
  | running => rfl
  | statusError => rfl
  | exited e =>
    simp (disch := simp) only [Prod.map, id, h.age_seen, h.note_seen, h.release_seen, Section.seen]
  | overdue =>
    simp (disch := simp) only [Prod.map, id, h.note_seen]
    exact section_seen (fun _ => Tick.timedOut o.ticket.id) (h.pursueStop_seen o' _ _)
  | unreadable e =>
    simp (disch := simp) only [Prod.map, id, h.note_seen]
    exact section_seen
      (fun due => if due.isSome then Tick.finished o.ticket.id else .stopping o.ticket.id)
      (h.pursueStop_seen o' _ _)

lemma supervise_seen : (m.seen f).supervise s' o = (m.supervise s o).seen f := by
  unfold supervise
  split
  · exact h.superviseRunning_seen o m
  next p _ =>
    exact section_seen
      (fun due => if due.isSome then Tick.finished o.ticket.id else .stopping o.ticket.id)
      (h.pursueStop_seen o p m)

lemma tickSection_seen : (m.seen f).tickSection s' = (m.tickSection s).seen f := by
  simp only [tickSection, slot_seen, queue_seen]
  cases m.slot with
  | some o => exact h.supervise_seen o m
  | none =>
    cases m.queue with
    | nil => rfl
    | cons w ws => exact h.startHead_seen { m with slot := none, queue := ws } w

lemma killOccupant_seen (c : KillCommand) :
    (m.seen f).killOccupant s' o c = (m.killOccupant s o c).seen f := by
  simp only [killOccupant, h.pursue_seen]
  rcases m.pursue s o (o.stop.getD ⟨c, .killed c, false⟩) with ⟨j | j | j, m'⟩
  · rfl
  · rfl
  · simp only [Prod.map, id, h.release_seen, Section.seen]

lemma killSection_seen (i : JobId) (c : KillCommand) :
    (m.seen f).killSection s' i c = (m.killSection s i c).seen f := by
  simp (disch := simp) only [killSection, slot_seen, h.note_seen]
  cases m.slot with
  | some o =>
    dsimp only
    split_ifs
    · exact h.killOccupant_seen o m c
    · rfl
  | none => rfl

/-! ## The end of a manager -/

lemma signalLast_seen :
    (m.seen f).signalLast s' o = (m.signalLast s o).map id (Prod.map id (seen f)) := by
  unfold signalLast
  split
  · rfl
  · simp only [h.callTerminate_seen]
    rcases m.callTerminate s o.ticket .shutdown o.job with ⟨e | ⟨⟩, j, m'⟩
    · simp (disch := simp) only [Called.seen, h.note_seen, h.audit_seen, Prod.map, id]
    · simp only [Called.seen, h.audit_seen, Prod.map, id]

lemma awaitExit_seen (t : Ticket) (j : J) :
    (m.seen f).awaitExit s' t j = (m.awaitExit s t j).map id (seen f) := by
  have wait : s'.kind.wait s'.config.shutdownTimeout j (m.seen f).env =
      s.kind.wait s.config.shutdownTimeout j m.env := by rw [h.wait, h.config]; rfl
  simp only [awaitExit, wait]
  generalize s.kind.wait s.config.shutdownTimeout j m.env = r
  have waited : ({ m.seen f with
        env := r.env
        past := .call t (.wait r.outcome) :: (m.seen f).past } : Manager J E) =
      Manager.seen f { m with env := r.env, past := .call t (.wait r.outcome) :: m.past } := by
    simp [seen, h.waited]
  rw [waited, h.config]
  cases r.outcome with
  | panic p => rfl
  | _ => exact congrArg (Prod.mk _) (h.note_seen _ (by simp))

end Observed

/-- Announcements do the same under both setups as well, as far as the observer sees. -/
structure Unnoticed (f : Event → Option Event) (s s' : Setup J E) : Prop
    extends Observed f s s' where
  announce : ∀ (m : Manager J E) t, (m.seen f).announce s' t = (m.announce s t).seen f
  announceLast : ∀ (m : Manager J E) t,
    (m.seen f).announceLast s' t = (m.announceLast s t).seen f

namespace Unnoticed

open Manager

variable {f : Event → Option Event} {s s' : Setup J E} (h : Unnoticed f s s') (m : Manager J E)

include h

lemma announceDue_seen (r : Section J E α) :
    announceDue s' (r.seen f) = (announceDue s r).seen f := by
  simp only [announceDue, Section.seen]
  cases r.due with
  | none => rfl
  | some t => exact h.announce r.manager t

lemma submit_seen (j : J) : (m.seen f).submit s' j = (m.submit s j).map id (seen f) := by
  have ticket : (m.seen f).nextTicket s' j = m.nextTicket s j := by
    simp only [nextTicket, h.ids, h.labels]
    rfl
  have registered (t : Ticket) : (m.seen f).register s' t = (m.register s t).seen f := by
    simp only [register, h.now_seen]
    simp [seen, h.moved]
  simp only [submit, ticket, registered, h.announce]
  exact congrArg (Prod.mk _) (h.note_seen (enqueue _ _) (by simp))

lemma work_seen : (m.seen f).work s' = (m.work s).map id (seen f) := by
  simp only [work, h.tickSection_seen, h.announceDue_seen]
  rfl

lemma kill_seen (i : JobId) (c : KillCommand) :
    (m.seen f).kill s' i c = (m.kill s i c).map id (seen f) := by
  simp only [kill, h.killSection_seen, h.announceDue_seen]
  rfl

lemma iterate_seen (l : Loop) :
    Service.iterate s' l (m.seen f) = (Service.iterate s l m).map id (seen f) := by
  have worked :
      ({ m.seen f with env := s'.kind.moment (m.seen f).env } : Manager J E).work s' =
        (({ m with env := s.kind.moment m.env } : Manager J E).work s).map id (seen f) := by
    rw [h.moment]
    exact h.work_seen { m with env := s.kind.moment m.env }
  simp only [Service.iterate, worked, h.now_seen, h.config]
  rcases ({ m with env := s.kind.moment m.env } : Manager J E).work s with ⟨k, m'⟩
  simp only [Prod.map_apply, id, h.now_seen, h.audit_seen, snapshot_seen]
  -- a look at the condition itself would have the kernel compute nanoseconds
  by_cases due : s.config.heartbeatInterval.toNanos ≤ m'.now s - l.lastBeat.getD (m.now s)
  · simp only [if_pos due]
    rfl
  · simp only [if_neg due]
    rfl

lemma shutDown_seen (o : Occupant J) :
    (m.seen f).shutDown s' o = (m.shutDown s o).map id (seen f) := by
  simp only [shutDown, h.signalLast_seen]
  rcases m.signalLast s o with ⟨e, j, m₁⟩
  simp only [Prod.map, id, h.awaitExit_seen]
  rcases m₁.awaitExit s o.ticket j with ⟨p | ⟨⟩, m₂⟩
  · rfl
  · simp only [Prod.map, id, h.finish_seen, h.announce]

lemma stop_seen : (m.seen f).stop s' = (m.stop s).map id (seen f) := by
  have conclude (i : Option JobId) (m' : Manager J E) :
      (m'.seen f).concludeStop i = (m'.concludeStop i).map id (seen f) :=
    congrArg (Prod.mk _) (h.note_seen { m' with queue := [] } (by simp))
  simp only [stop, vacate_seen]
  rcases m.vacate with ⟨_ | o, m₁⟩
  · simp only [Prod.map, id, conclude]
  · simp only [Prod.map, id, h.shutDown_seen]
    rcases m₁.shutDown s o with ⟨p | ⟨⟩, m₂⟩
    · rfl
    · simp only [Prod.map, id, conclude]

lemma drop_seen : (m.seen f).drop s' = (m.drop s).seen f := by
  simp only [drop, vacate_seen]
  rcases m.vacate with ⟨_ | o, m₁⟩
  · rfl
  · simp (disch := simp) only [Prod.map, id, h.note_seen, h.signalLast_seen]
    rcases (m₁.note (.dropped o.ticket.id)).signalLast s o with ⟨e, j, m₂⟩
    simp only [Prod.map, id, h.finish_seen, h.announceLast]
    rfl

/-- A request gets the same answer under both setups. -/
theorem serve_seen (r : Request J E) :
    (m.seen f).serve s' r = (m.serve s r).map id (seen f) := by
  cases r with
  | submit j => simp only [serve, h.submit_seen]; rfl
  | work => simp only [serve, h.work_seen]; rfl
  | iterate l =>
    have iterated := h.iterate_seen m l
    -- without a name for it the kernel would run the iteration
    rcases hm : Service.iterate s l m with ⟨l', m'⟩
    rw [hm] at iterated
    simp only [serve, iterated, hm]
    rfl
  | kill i c => simp only [serve, h.kill_seen]; rfl
  | stop => simp only [serve, h.stop_seen]; rfl
  | pass env => rfl

theorem after_seen (rs : List (Request J E)) :
    (m.seen f).after s' rs = (m.after s rs).seen f := by
  induction rs using List.reverseRecOn with
  | nil => rfl
  | append_singleton rs r ih =>
    rw [after_append, after_append, ih]
    exact congrArg Prod.snd (h.serve_seen (m.after s rs) r)

theorem answers_seen (rs : List (Request J E)) :
    answers s' (m.seen f) rs = answers s m rs := by
  induction rs generalizing m with
  | nil => rfl
  | cons r rs ih =>
    rw [answers, answers, h.serve_seen]
    exact congrArg (_ :: ·) (ih (m.serve s r).2)

end Unnoticed
end SerialJobs
