import Mathlib.Tactic.Common
import SerialJobs.Manager.Section

/-!
# What is done to the job in the slot, call by call

While a job holds the slot the manager keeps a docket on it: the failed status checks in a row, and
the termination under way. Each call on the job is entered there, with what is logged on its
account. `Heed` lists the ways in which one call can end, with the docket before and after it, and
`Tended` strings calls together. A job that has reported an exit is given the exit that its docket
`Yields`.

The lemmas follow the functions: `confirmed_confirmExit`, `pursued_pursue` and `checked_check` say
which calls each of them makes.
-/

namespace SerialJobs

/-! ## Events by what they are about -/

/-- The event is something told to the audit log, other than that a handle has entered a state, or
to those who look after the manager. -/
def Event.IsLogged : Event → Prop
  | .audited (.entered _) => False
  | .audited _ | .noted _ => True
  | _ => False

/-- The event is something told, to the sink as well, or the answer to a call of the sink. -/
def Event.IsTold : Event → Prop
  | .call _ _ | .moved _ => False
  | _ => True

/-- The event is something told that does not concern the termination of a job. -/
def Event.IsNews : Event → Prop
  | .call _ _ | .moved _ | .audited (.killed ..) | .noted (.overdue ..) => False
  | _ => True

/-- The event is something told to those who look after the manager, other than that a job is
overdue. -/
def Event.IsRemark : Event → Prop
  | .noted (.overdue ..) => False
  | .noted _ => True
  | _ => False

/-- The event is something logged, or a call made to look after the job with the given ticket: a
look for its exit, or a signal. -/
def Event.Attends (t : Ticket) : Event → Prop
  | .call u (.tryExit _) | .call u (.terminate _ _) => u = t
  | e => e.IsLogged

lemma Event.IsLogged.isTold {e : Event} (h : e.IsLogged) : e.IsTold := by
  cases e with
  | call u x => exact absurd h id
  | moved t => exact absurd h id
  | _ => trivial

lemma Event.IsNews.isTold {e : Event} (h : e.IsNews) : e.IsTold := by
  cases e with
  | call u x => exact absurd h id
  | moved t => exact absurd h id
  | _ => trivial

lemma Event.IsRemark.isNews {e : Event} (h : e.IsRemark) : e.IsNews := by
  cases e with
  | noted d =>
    cases d with
    | overdue i label timeout => exact absurd h id
    | _ => trivial
  | _ => exact absurd h id

lemma Event.IsRemark.isLogged {e : Event} (h : e.IsRemark) : e.IsLogged := by
  cases e with
  | noted d => trivial
  | _ => exact absurd h id

lemma Event.IsRemark.isTold {e : Event} (h : e.IsRemark) : e.IsTold := h.isLogged.isTold

lemma Event.Attends.ticket_eq {e : Event} {t u : Ticket} {x : Exchange} (h : e.Attends t)
    (he : e = .call u x) : u = t := by
  subst he
  cases x with
  | tryExit o => exact h
  | terminate c o => exact h
  | _ => exact absurd h id

lemma Outcome.eq_ok_of_guarded {α : Type} {x : Outcome α} {a : α} (h : x.guarded = .ok a) :
    x = .ok a := by
  cases x with
  | ok b => exact congrArg Outcome.ok (Except.ok.inj h)
  | error e => exact absurd h (by simp [guarded])
  | panic p => exact absurd h (by simp [guarded])

lemma Outcome.ne_ok_of_guarded {α : Type} {x : Outcome α} {e : JobError} (h : x.guarded = .error e)
    (a : α) : x ≠ .ok a := by
  rintro rfl
  cases h

/-! ## The docket -/

/-- What the manager keeps of the job in the slot, beside the job itself. -/
structure Docket where
  /-- The failed status checks since the last successful one. -/
  errors : Nat
  /-- The termination under way, if any. -/
  stop : Option PendingStop

/-- The docket of the job in the slot. -/
def Occupant.docket {J : Type} (o : Occupant J) : Docket := ⟨o.statusErrors, o.stop⟩

namespace Docket

/-- The termination is under way, or it begins with a caller's kill. -/
def Pursues (d : Docket) (p : PendingStop) : Prop :=
  d.stop = some p ∨ d.stop = none ∧ p = ⟨p.command, .killed p.command, false⟩

/-- The signal of the termination under way is delivered. -/
def Delivered (d : Docket) : Prop := ∃ p, d.stop = some p ∧ p.signalled = true

/-- The exit given to a job that has reported an exit `x`: that of the termination delivered to it,
and the reported one if there is no termination under way. -/
def Yields (d : Docket) (x e : Exit) : Prop :=
  d.stop = none ∧ e = x ∨ ∃ p, d.stop = some p ∧ p.signalled = true ∧ e = p.exit

/-- The docket once the signal of the termination is delivered. -/
def deliver (d : Docket) (p : PendingStop) : Docket :=
  ⟨d.errors, some { p with signalled := true }⟩

lemma delivered_deliver (d : Docket) (p : PendingStop) : (d.deliver p).Delivered :=
  ⟨_, rfl, rfl⟩

lemma yields_deliver (d : Docket) (p : PendingStop) (x : Exit) : (d.deliver p).Yields x p.exit :=
  .inr ⟨_, rfl, rfl, rfl⟩

end Docket

/-- A caller's kill goes on with the termination under way, or begins one. -/
lemma Occupant.pursues_kill {J : Type} (o : Occupant J) (c : KillCommand) :
    o.docket.Pursues (o.stop.getD ⟨c, .killed c, false⟩) := by
  rcases h : o.stop with _ | p
  · exact .inr ⟨h, rfl⟩
  · exact .inl h

section Heed

variable {J E : Type} (s : Setup J E) (t : Ticket)

/-- One call on the job in the slot that leaves it there, and what is logged on account of it, the
latest first: the docket before and after it. -/
inductive Heed (d : Docket) : List Event → Docket → Prop
  /-- The status says running. -/
  | running (h : d.stop = none) : Heed d [.call t (.tryExit (.ok none))] ⟨0, none⟩
  /-- The status could not be read, and will be checked again. -/
  | erring {x : Outcome (Option Exit)} {e : JobError} (h : d.stop = none)
      (failed : x.guarded = .error e) (transient : e.isTransient = true)
      (below : d.errors + 1 < s.config.statusErrorLimit.toNat) :
      Heed d [.noted (.statusError t.id (d.errors + 1) s.config.statusErrorLimit.toNat e),
        .call t (.tryExit x)] ⟨d.errors + 1, none⟩
  /-- The status says running, but the job exceeded the job timeout. -/
  | overdue (h : d.stop = none) (limited : s.config.jobTimeout.isSome) :
      Heed d [.noted (.overdue t.id t.label s.config.jobTimeout), .call t (.tryExit (.ok none))]
        ⟨0, some ⟨.timeout, .killed .timeout, false⟩⟩
  /-- The status could not be read, and will not be checked again. -/
  | unreadable {x : Outcome (Option Exit)} {e : JobError} (h : d.stop = none)
      (failed : x.guarded = .error e)
      (last : e.isTransient = false ∨ s.config.statusErrorLimit.toNat ≤ d.errors + 1) :
      Heed d [.noted (.unreadable t.id t.label (d.errors + 1) e), .call t (.tryExit x)]
        ⟨d.errors + 1, some ⟨.timeout, .unresponsive e.message, false⟩⟩
  /-- The signal is delivered. -/
  | delivered {p : PendingStop} (h : d.Pursues p) (before : p.signalled = false) :
      Heed d [.audited (.killed t.id t.label p.command), .call t (.terminate p.command (.ok ()))]
        (d.deliver p)
  /-- The signal is not delivered. -/
  | undelivered {p : PendingStop} {x : Outcome Unit} {e : JobError} (h : d.Pursues p)
      (before : p.signalled = false) (failed : x.guarded = .error e) :
      Heed d [.noted (.signalFailed t.id (some p.command) e), .call t (.terminate p.command x)] d
  /-- The signal was delivered before, and the status does not say that the job has exited. -/
  | unconfirmed {x : Outcome (Option Exit)} {n : Diagnostic} (h : d.Delivered)
      (remark : (Event.noted n).IsRemark) (alive : ∀ e, x ≠ .ok (some e)) :
      Heed d [.noted n, .call t (.tryExit x)] d

/-- Calls on the job in the slot that leave it there, and what is logged on account of them, the
latest first: the docket before and after them. -/
inductive Tended (d : Docket) : List Event → Docket → Prop
  | refl : Tended d [] d
  | step {es l : List Event} {d' d'' : Docket} (past : Tended d es d') (last : Heed s t d' l d'') :
      Tended d (l ++ es) d''

/-- Calls on the job in the slot of which the last one reports the exit `x`, and what is logged on
account of them, the latest first. The job is given the exit `e`. -/
inductive Exited (d : Docket) (x e : Exit) : List Event → Prop
  | intro {es : List Event} {d' : Docket} (remarks : List Event)
      (h : ∀ r ∈ remarks, r.IsRemark) (tended : Tended s t d es d') (yields : d'.Yields x e) :
      Exited d x e (remarks ++ .call t (.tryExit (.ok (some x))) :: es)

end Heed

variable {J E : Type} {s : Setup J E} {t : Ticket} {d d' d'' : Docket} {es es' : List Event}

lemma Heed.tended (h : Heed s t d es d') : Tended s t d es d' := by
  simpa using Tended.refl.step h

lemma Tended.trans (h : Tended s t d es d') (h' : Tended s t d' es' d'') :
    Tended s t d (es' ++ es) d'' := by
  induction h' with
  | refl => exact h
  | step past last ih =>
    rw [List.append_assoc]
    exact ih.step last

lemma Tended.exited {x e : Exit} (h : Tended s t d es d') (yields : d'.Yields x e) :
    Exited s t d x e (.call t (.tryExit (.ok (some x))) :: es) :=
  .intro [] (by simp) h yields

lemma Exited.remark {x e : Exit} {r : Event} (h : Exited s t d x e es) (hr : r.IsRemark) :
    Exited s t d x e (r :: es) := by
  cases h with
  | intro remarks hrs tended yields =>
    exact .intro (r :: remarks) (List.forall_mem_cons.mpr ⟨hr, hrs⟩) tended yields

lemma Exited.mem {x e : Exit} (h : Exited s t d x e es) :
    .call t (.tryExit (.ok (some x))) ∈ es := by
  cases h with
  | intro remarks hrs tended yields => simp

namespace Manager

/-- From `m` to `m'` the slot, the queue and the handles stay, and the events `es` are added, the
latest first. They only look after the job with the ticket `t`. -/
structure Attended (t : Ticket) (es : List Event) (m m' : Manager J E) : Prop where
  slot : m'.slot = m.slot
  queue : m'.queue = m.queue
  handles : m'.handles = m.handles
  past : m'.past = es ++ m.past
  attends : ∀ e ∈ es, e.Attends t

section Attended

variable {m m' m'' : Manager J E}

lemma Attended.trans (h : Attended t es m m') (h' : Attended t es' m' m'') :
    Attended t (es' ++ es) m m'' where
  slot := h'.slot.trans h.slot
  queue := h'.queue.trans h.queue
  handles := h'.handles.trans h.handles
  past := by rw [h'.past, h.past, List.append_assoc]
  attends e he := (List.mem_append.mp he).elim (h'.attends e) (h.attends e)

/-- Something told changes nothing else. -/
lemma Attended.happen (h : Attended t es m m') {e : Event} (he : e.Attends t) :
    Attended t (e :: es) m (m'.happen e) where
  slot := h.slot
  queue := h.queue
  handles := h.handles
  past := by simp [Manager.happen, h.past]
  attends := by simpa using ⟨he, h.attends⟩

lemma attended_callTryExit (s : Setup J E) (t : Ticket) (j : J) (m : Manager J E) :
    Attended t [.call t (.tryExit (s.kind.tryExit j m.env).outcome)] m
      (m.callTryExit s t j).manager :=
  ⟨rfl, rfl, rfl, rfl, by simp [Event.Attends]⟩

lemma attended_callTerminate (s : Setup J E) (t : Ticket) (c : KillCommand) (j : J)
    (m : Manager J E) :
    Attended t [.call t (.terminate c (s.kind.terminate c j m.env).outcome)] m
      (m.callTerminate s t c j).manager :=
  ⟨rfl, rfl, rfl, rfl, by simp [Event.Attends]⟩

end Attended

variable (s : Setup J E) (o : Occupant J) (p : PendingStop) (m : Manager J E)

/-! ## Terminating the job -/

/-- Whether the worker of a signalled job has exited, by what was called to find out. -/
inductive Confirmed (s : Setup J E) (t : Ticket) (d : Docket) : List Event → Pursuit J → Prop
  | exiting {es : List Event} (j : J) (tended : Tended s t d es d) : Confirmed s t d es (.exiting j)
  | exited (j : J) (x : Exit) : Confirmed s t d [.call t (.tryExit (.ok (some x)))] (.exited j)

lemma confirmed_confirmExit {d : Docket} (h : d.Delivered) :
    ∃ es, Attended o.ticket es m (m.confirmExit s o).2 ∧
      Confirmed s o.ticket d es (m.confirmExit s o).1 := by
  have ha := attended_callTryExit s o.ticket o.job m
  simp only [confirmExit]
  split
  next x hr =>
    have hx : (s.kind.tryExit o.job m.env).outcome = .ok (some x) := Outcome.eq_ok_of_guarded hr
    rw [hx] at ha
    exact ⟨_, ha, .exited _ x⟩
  next hr =>
    have hx : (s.kind.tryExit o.job m.env).outcome = .ok none := Outcome.eq_ok_of_guarded hr
    refine ⟨_, ha.happen (e := .noted (.notExited o.ticket.id)) trivial, .exiting _ ?_⟩
    exact (Heed.unconfirmed (n := .notExited _) h trivial (by simp [hx])).tended
  next e hr =>
    change (s.kind.tryExit o.job m.env).outcome.guarded = .error e at hr
    have alive : ∀ x, (s.kind.tryExit o.job m.env).outcome ≠ .ok (some x) := fun x =>
      Outcome.ne_ok_of_guarded hr (some x)
    exact ⟨_, ha.happen (e := .noted (.exitUnreadable o.ticket.id e)) trivial,
      .exiting _ (Heed.unconfirmed (n := .exitUnreadable _ _) h trivial alive).tended⟩

/-- How far the termination of the job has come, by what was called to get there. -/
inductive Pursued (s : Setup J E) (t : Ticket) (d : Docket) (p : PendingStop) :
    List Event → Pursuit J → Prop
  | undelivered (j : J) {x : Outcome Unit} {e : JobError} (failed : x.guarded = .error e)
      (tended : Tended s t d
        [.noted (.signalFailed t.id (some p.command) e), .call t (.terminate p.command x)] d) :
      Pursued s t d p
        [.noted (.signalFailed t.id (some p.command) e), .call t (.terminate p.command x)]
        (.undelivered j)
  | exiting {es : List Event} (j : J) (tended : Tended s t d es (d.deliver p)) :
      Pursued s t d p es (.exiting j)
  | exited {es : List Event} (j : J) (x : Exit) (tended : Tended s t d es (d.deliver p)) :
      Pursued s t d p (.call t (.tryExit (.ok (some x))) :: es) (.exited j)

/-- After the signal is delivered, only the exit is missing. -/
lemma Confirmed.pursued {s : Setup J E} {t : Ticket} {d : Docket} {p : PendingStop}
    {es es' : List Event} {r : Pursuit J} (h : Confirmed s t (d.deliver p) es' r)
    (tended : Tended s t d es (d.deliver p)) : Pursued s t d p (es' ++ es) r := by
  cases h with
  | exiting j tended' => exact .exiting j (tended.trans tended')
  | exited j x => exact .exited j x tended

lemma pursued_pursue {d : Docket} (h : d.Pursues p) :
    ∃ es, Attended o.ticket es m (m.pursue s o p).2 ∧
      Pursued s o.ticket d p es (m.pursue s o p).1 := by
  have ha := attended_callTerminate s o.ticket p.command o.job m
  simp only [pursue]
  split
  next hp =>
    -- the signal is out: nothing is delivered any more, and the docket says so
    have hd : d = d.deliver p := by
      obtain ⟨command, exit, signalled⟩ := p
      obtain rfl : signalled = true := hp
      rcases h with h | ⟨-, h⟩
      · obtain ⟨errors, stop⟩ := d
        obtain rfl : stop = _ := h
        rfl
      · simp at h
    obtain ⟨es, hes, hc⟩ := confirmed_confirmExit s o m (d.delivered_deliver p)
    have tended : Tended s o.ticket d [] (d.deliver p) := hd ▸ .refl
    exact ⟨es, hes, by simpa using hc.pursued tended⟩
  next hp =>
    have before : p.signalled = false := by simpa using hp
    split
    next e hr =>
      change (s.kind.terminate p.command o.job m.env).outcome.guarded = .error e at hr
      exact ⟨_, ha.happen (e := .noted _) trivial,
        .undelivered _ hr (Heed.undelivered h before hr).tended⟩
    next hr =>
      have hx : (s.kind.terminate p.command o.job m.env).outcome = .ok () :=
        Outcome.eq_ok_of_guarded hr
      rw [hx] at ha
      have ha' := ha.happen (e := .audited (.killed o.ticket.id o.ticket.label p.command)) trivial
      obtain ⟨es, hes, hc⟩ := confirmed_confirmExit s
        { o with job := (m.callTerminate s o.ticket p.command o.job).job }
        ((m.callTerminate s o.ticket p.command o.job).manager.audit
          (.killed o.ticket.id o.ticket.label p.command)) (d.delivered_deliver p)
      exact ⟨_, ha'.trans hes, hc.pursued (Heed.delivered h before).tended⟩

/-! ## Looking at the job -/

/-- What a status check of the job, made at this moment, says. -/
def status (s : Setup J E) (o : Occupant J) (m : Manager J E) : Outcome (Option Exit) :=
  (s.kind.tryExit o.job m.env).outcome

/-- The age of the job once a status check, made at this moment, is over. -/
def checkedAge (s : Setup J E) (o : Occupant J) (m : Manager J E) : Nat :=
  s.kind.now (s.kind.tryExit o.job m.env).env - o.started

/-- Once a status check, made at this moment, is over, the job has the age of the job timeout. -/
def Late (s : Setup J E) (o : Occupant J) (m : Manager J E) : Prop :=
  ∃ limit, s.config.jobTimeout = some limit ∧ limit.toNanos ≤ m.checkedAge s o

/-- Only where there is a job timeout can a job exceed it. -/
lemma Late.limited {s : Setup J E} {o : Occupant J} {m : Manager J E} (late : m.Late s o) :
    s.config.jobTimeout.isSome := by
  obtain ⟨limit, h, -⟩ := late
  exact Option.isSome_of_eq_some h

lemma isOverdue_iff {s : Setup J E} {o : Occupant J} {m : Manager J E} {j : J} {n : Nat} :
    (m.callTryExit s o.ticket o.job).manager.isOverdue s { o with job := j, statusErrors := n } =
      true ↔ m.Late s o := by
  simp only [isOverdue, Option.any_eq_true, decide_eq_true_eq]
  rfl

/-- What a look at the running job says, by what was called to find out, and what it leaves of the
job's record. -/
inductive Checked (s : Setup J E) (o : Occupant J) (m : Manager J E) :
    List Event → Finding → Occupant J → Prop
  | running (j : J) (reads : m.status s o = .ok none) (early : ¬m.Late s o) :
      Checked s o m [.call o.ticket (.tryExit (.ok none))] .running
        { o with job := j, statusErrors := 0 }
  | statusError (j : J) {e : JobError} (failed : (m.status s o).guarded = .error e)
      (transient : e.isTransient = true)
      (below : o.statusErrors + 1 < s.config.statusErrorLimit.toNat) :
      Checked s o m [.noted (.statusError o.ticket.id (o.statusErrors + 1)
          s.config.statusErrorLimit.toNat e), .call o.ticket (.tryExit (m.status s o))] .statusError
        { o with job := j, statusErrors := o.statusErrors + 1 }
  | exited (j : J) (x : Exit) (reads : m.status s o = .ok (some x)) :
      Checked s o m [.call o.ticket (.tryExit (.ok (some x)))] (.exited x) { o with job := j }
  | overdue (j : J) (reads : m.status s o = .ok none) (late : m.Late s o) :
      Checked s o m [.call o.ticket (.tryExit (.ok none))] .overdue
        { o with job := j, statusErrors := 0 }
  | unreadable (j : J) {e : JobError} (failed : (m.status s o).guarded = .error e)
      (last : e.isTransient = false ∨ s.config.statusErrorLimit.toNat ≤ o.statusErrors + 1) :
      Checked s o m [.call o.ticket (.tryExit (m.status s o))] (.unreadable e)
        { o with job := j, statusErrors := o.statusErrors + 1 }

lemma checked_check :
    ∃ es, Attended o.ticket es m (m.check s o).2.2 ∧
      Checked s o m es (m.check s o).1 (m.check s o).2.1 := by
  have ha : Attended o.ticket [.call o.ticket (.tryExit (m.status s o))] m _ :=
    attended_callTryExit s o.ticket o.job m
  simp only [check]
  split
  next x hr =>
    have hx : m.status s o = .ok (some x) := Outcome.eq_ok_of_guarded hr
    rw [hx] at ha
    exact ⟨_, ha, .exited _ x hx⟩
  next hr =>
    have hx : m.status s o = .ok none := Outcome.eq_ok_of_guarded hr
    rw [hx] at ha
    refine ⟨_, ha, ?_⟩
    split
    next late => exact .overdue _ hx (isOverdue_iff.mp late)
    next early => exact .running _ hx (mt isOverdue_iff.mpr early)
  next e hr =>
    change (m.status s o).guarded = .error e at hr
    split
    next hl =>
      refine ⟨_, ha, .unreadable _ hr ?_⟩
      simpa only [Bool.or_eq_true, Bool.not_eq_true', decide_eq_true_eq] using hl
    next hl =>
      simp only [Bool.or_eq_true, Bool.not_eq_true', decide_eq_true_eq, not_or, Nat.not_le] at hl
      have transient : e.isTransient = true := by simpa using hl.1
      exact ⟨_, ha.happen (e := .noted _) trivial, .statusError _ hr transient hl.2⟩

end Manager
end SerialJobs
