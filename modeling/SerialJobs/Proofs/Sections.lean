import SerialJobs.Proofs.Tending

/-!
# What a locked section does

Everything that changes the slot, the queue or a handle while the slot is locked is one of five
steps: nothing changes; the head of the queue is started; the head of the queue fails to start; the
job in the slot keeps it; the job in the slot leaves it. `Advance` lists them, each with all that it
does to the manager, and `advance_tickSection` and `advance_killSection` say that there are no
others. What a whole run keeps is derived from this list, and the sections are not unfolded again.
-/

namespace SerialJobs
namespace Manager

variable {J E : Type}

/-- What is left of the record of a job that keeps the slot: its failed status checks, and the
termination under way. One case for each thing that can happen to it. -/
inductive Next (s : Setup J E) (o : Occupant J) : Nat → Option PendingStop → Prop
  /-- The status says running. -/
  | running (h : o.stop = none) : Next s o 0 none
  /-- The status could not be read, and will be checked again. -/
  | erring (h : o.stop = none) (hlt : o.statusErrors + 1 < s.config.statusErrorLimit.toNat) :
      Next s o (o.statusErrors + 1) none
  /-- A caller's kill was not delivered. -/
  | spared (h : o.stop = none) : Next s o o.statusErrors none
  /-- The job exceeded the job timeout. -/
  | overdue (h : o.stop = none) (b : Bool) : Next s o 0 (some ⟨.timeout, .killed .timeout, b⟩)
  /-- The status could not be read, and will not be checked again. -/
  | unreadable (h : o.stop = none) (reason : String) (b : Bool) :
      Next s o (o.statusErrors + 1) (some ⟨.timeout, .unresponsive reason, b⟩)
  /-- A caller's kill was delivered. -/
  | killed (h : o.stop = none) (c : KillCommand) :
      Next s o o.statusErrors (some ⟨c, .killed c, true⟩)
  /-- A termination under way goes on. -/
  | pursued {p : PendingStop} (h : o.stop = some p) (b : Bool)
      (hb : p.signalled = true → b = true) :
      Next s o o.statusErrors (some { p with signalled := b })

/-- What a locked section does: the transition that it leaves, and the manager after it. -/
inductive Advance (s : Setup J E) (m : Manager J E) : Option Transition → Manager J E → Prop
  /-- Nothing changes. -/
  | rest {m' : Manager J E} (es : List Event) (slot : m'.slot = m.slot)
      (queue : m'.queue = m.queue) (handles : m'.handles = m.handles)
      (past : m'.past = es ++ m.past) (told : ∀ e ∈ es, e.IsRemark) : Advance s m none m'
  /-- The head of the queue is started. -/
  | started {w : Waiting J} {ws : List (Waiting J)} {j : J} {n : Nat} {m' : Manager J E}
      (es : List Event) (free : m.slot = none) (head : m.queue = w :: ws)
      (slot : m'.slot = some ⟨w.ticket, j, n, 0, none⟩) (queue : m'.queue = ws)
      (handles : m'.handles = m.handles.modify w.ticket.number (·.enter .running n))
      (past : m'.past = .moved ⟨w.ticket, .running, none⟩ :: es ++
        .call w.ticket (.start (.ok ())) :: m.past)
      (told : ∀ e ∈ es, e.IsRemark) :
      Advance s m (some ⟨w.ticket, .running, none⟩) m'
  /-- The head of the queue fails to start. -/
  | startFailed {w : Waiting J} {ws : List (Waiting J)} {x : Outcome Unit} {reason : String}
      {n : Nat} {m' : Manager J E} (es : List Event) (free : m.slot = none)
      (head : m.queue = w :: ws) (slot : m'.slot = none) (queue : m'.queue = ws)
      (handles : m'.handles =
        m.handles.modify w.ticket.number (·.enter (.finished (.startFailed reason)) n))
      (past : m'.past = .moved ⟨w.ticket, .finished (.startFailed reason), none⟩ :: es ++
        .call w.ticket (.start x) :: m.past)
      (failed : x ≠ .ok ()) (told : ∀ e ∈ es, e.IsRemark)
      (cause : ∃ f, x.guarded = .error f ∧ reason = f.message) :
      Advance s m (some ⟨w.ticket, .finished (.startFailed reason), none⟩) m'
  /-- The job in the slot keeps it. -/
  | kept {o : Occupant J} {j : J} {n : Nat} {p : Option PendingStop} {es : List Event}
      {m' : Manager J E} (held : m.slot = some o) (next : Next s o n p)
      (slot : m'.slot = some { o with job := j, statusErrors := n, stop := p })
      (queue : m'.queue = m.queue) (handles : m'.handles = m.handles)
      (past : m'.past = es ++ m.past) (attends : ∀ e ∈ es, e.Attends o.ticket)
      (tended : Tended s o.ticket o.docket es ⟨n, p⟩) : Advance s m none m'
  /-- The job in the slot leaves it. -/
  | released {o : Occupant J} {e x : Exit} {d : Duration} {es : List Event} {n : Nat}
      {m' : Manager J E} (held : m.slot = some o) (slot : m'.slot = none)
      (queue : m'.queue = m.queue)
      (handles : m'.handles = m.handles.modify o.ticket.number (·.enter (.finished e) n))
      (past : m'.past = .moved ⟨o.ticket, .finished e, some d⟩ :: es ++ m.past)
      (attends : ∀ e ∈ es, e.Attends o.ticket)
      (exited : .call o.ticket (.tryExit (.ok (some x))) ∈ es)
      (yielded : Exited s o.ticket o.docket x e es) :
      Advance s m (some ⟨o.ticket, .finished e, some d⟩) m'

variable (s : Setup J E) (o : Occupant J) (m : Manager J E)

/-! ## Keeping and leaving the slot -/

section Occupied

variable {s : Setup J E} {o : Occupant J} {m m' : Manager J E} {es : List Event}

lemma advance_keep (held : m.slot = some o) (h : Attended o.ticket es m m') {n : Nat}
    {p : Option PendingStop} (next : Next s o n p) (tended : Tended s o.ticket o.docket es ⟨n, p⟩)
    (j : J) :
    Advance s m none (m'.keep { o with job := j, statusErrors := n, stop := p }) :=
  .kept held next rfl h.queue h.handles h.past h.attends tended

lemma advance_release (held : m.slot = some o) (h : Attended o.ticket es m m') {x e : Exit}
    (yielded : Exited s o.ticket o.docket x e es) (j : J) (n : Nat) (p : Option PendingStop) :
    Advance s m
      (some (m'.release s { o with job := j, statusErrors := n, stop := p } e).1)
      (m'.release s { o with job := j, statusErrors := n, stop := p } e).2 := by
  refine .released (o := o) (n := m'.now s) held rfl h.queue ?_ ?_ h.attends yielded.mem yielded
  · simp only [release, finish, enter, h.handles]
    rfl
  · simp only [release, finish, enter, h.past]
    rfl

/-- The termination of the job in the slot goes on, where the job may have been looked at before and
`p` is the record that this has led to. -/
lemma advance_pursueStop (held : m.slot = some o) (h : Attended o.ticket es m m') {n : Nat}
    {p : PendingStop} (tended : Tended s o.ticket o.docket es ⟨n, some p⟩)
    (next : ∀ b, (p.signalled = true → b = true) → Next s o n (some { p with signalled := b }))
    (j : J) (q : Option PendingStop) :
    Advance s m (m'.pursueStop s { o with job := j, statusErrors := n, stop := q } p).1
      (m'.pursueStop s { o with job := j, statusErrors := n, stop := q } p).2 := by
  obtain ⟨es', hes, hp⟩ :=
    pursued_pursue s { o with job := j, statusErrors := n, stop := q } p m' (d := ⟨n, some p⟩)
      (.inl rfl)
  have h' := h.trans hes
  unfold pursueStop
  split
  -- the signal was not delivered, or the exit is still missing: the job keeps the slot
  next j' m'' heq =>
    rw [heq] at h' hp
    cases hp with
    | undelivered _ _ tended' =>
      exact advance_keep held h' (next p.signalled id) (tended.trans tended') j'
  next j' m'' heq =>
    rw [heq] at h' hp
    cases hp with
    | exiting _ tended' =>
      exact advance_keep held h' (next true fun _ => rfl) (tended.trans tended') j'
  next j' m'' heq =>
    rw [heq] at h' hp
    cases hp with
    | exited _ x tended' =>
      have yielded := (tended.trans tended').exited (Docket.yields_deliver _ p x)
      exact advance_release held h' yielded j' n q

end Occupied

/-! ## One iteration -/

lemma advance_startHead {w : Waiting J} {ws : List (Waiting J)} (free : m.slot = none)
    (head : m.queue = w :: ws) :
    Advance s m ({ m with queue := ws }.startHead s w).due
      ({ m with queue := ws }.startHead s w).manager := by
  simp only [startHead]
  split
  next hr =>
    have ho : (s.kind.start w.job m.env).outcome = .ok () := Outcome.eq_ok_of_guarded hr
    refine .started [.noted (.jobStarted w.ticket.id w.ticket.label ws.length)] free head rfl rfl
      rfl ?_ (by simp [Event.IsRemark])
    simp only [keep, enter, note, happen, callStart, called, ho]
    rfl
  next e hr =>
    change (s.kind.start w.job m.env).outcome.guarded = .error e at hr
    have ho : (s.kind.start w.job m.env).outcome ≠ .ok () := Outcome.ne_ok_of_guarded hr ()
    exact .startFailed [.noted (.startFailed w.ticket.id w.ticket.label e)] free head free rfl rfl
      rfl ho (by simp [Event.IsRemark]) ⟨e, hr, rfl⟩

lemma advance_superviseRunning (held : m.slot = some o) (running : o.stop = none) :
    Advance s m (m.superviseRunning s o).due (m.superviseRunning s o).manager := by
  obtain ⟨es, hes, hc⟩ := checked_check s o m
  simp only [superviseRunning]
  have docket : o.docket.stop = none := running
  -- the findings, in the order in which `Checked` lists them
  split <;> rename_i heq <;> rw [heq] at hes hc <;> cases hc
  case _ j reads early =>
    exact advance_keep held hes (running ▸ .running running)
      (running ▸ (Heed.running docket).tended) j
  case _ j e failed transient below =>
    exact advance_keep held hes (running ▸ .erring running below)
      (running ▸ (Heed.erring docket failed transient below).tended) j
  case _ x m' j reads =>
    have yielded : Exited s o.ticket o.docket x x _ := Tended.refl.exited (.inl ⟨docket, rfl⟩)
    exact advance_release held (hes.happen (e := .noted (.jobFinished ..)) trivial)
      (yielded.remark trivial) j o.statusErrors o.stop
  case _ j reads late =>
    exact advance_pursueStop held (hes.happen (e := .noted _) trivial)
      (Heed.overdue docket late.limited).tended (fun b _ => .overdue running b) j o.stop
  case _ e m' j failed last =>
    exact advance_pursueStop held (hes.happen (e := .noted _) trivial)
      (Heed.unreadable docket failed last).tended (fun b _ => .unreadable running e.message b) j
      o.stop

lemma advance_supervise (held : m.slot = some o) :
    Advance s m (m.supervise s o).due (m.supervise s o).manager := by
  unfold supervise
  split
  next h => exact advance_superviseRunning s o m held h
  next p h =>
    have hm : Attended o.ticket [] m m := ⟨rfl, rfl, rfl, rfl, by simp⟩
    have tended : Tended s o.ticket o.docket [] ⟨o.statusErrors, some p⟩ := h ▸ .refl
    exact advance_pursueStop held hm tended (fun b hb => .pursued h b hb) o.job o.stop

/-- What one iteration of the scheduling loop does while the slot is locked. -/
theorem advance_tickSection :
    Advance s m (m.tickSection s).due (m.tickSection s).manager := by
  unfold tickSection
  split
  next o held => exact advance_supervise s o m held
  next free =>
    split
    next => exact .rest [] rfl rfl rfl rfl (by simp)
    next w ws head => exact advance_startHead s m free head

/-! ## Kills -/

lemma advance_killOccupant (c : KillCommand) (held : m.slot = some o) :
    Advance s m (m.killOccupant s o c).due (m.killOccupant s o c).manager := by
  obtain ⟨es, hes, hp⟩ := pursued_pursue s o _ m (o.pursues_kill c)
  -- the record of a kill that is under way, or delivered now
  have next : Next s o o.statusErrors
      (some { o.stop.getD ⟨c, .killed c, false⟩ with signalled := true }) := by
    rcases ho : o.stop with _ | p
    · exact .killed ho c
    · exact .pursued ho true fun _ => rfl
  simp only [killOccupant]
  split <;> rename_i heq <;> rw [heq] at hes hp <;> cases hp
  case _ j m' x f failed tended =>
    have spared : Next s o o.statusErrors o.stop := by
      rcases ho : o.stop with _ | p
      · exact .spared ho
      · exact .pursued ho p.signalled id
    exact advance_keep held hes spared tended j
  case _ j m' tended => exact advance_keep held hes next tended j
  case _ j m' es' x tended =>
    have yielded := tended.exited (Docket.yields_deliver _ _ x)
    exact advance_release held hes yielded j o.statusErrors o.stop

/-- What a caller's kill does while the slot is locked. -/
theorem advance_killSection (id : JobId) (c : KillCommand) :
    Advance s m (m.killSection s id c).due (m.killSection s id c).manager := by
  have ignored : Advance s m none (m.note (.killIgnored id c)) :=
    .rest [.noted (.killIgnored id c)] rfl rfl rfl rfl (by simp [Event.IsRemark])
  unfold killSection
  split
  next o held =>
    split
    next => exact advance_killOccupant s o m c held
    next => exact ignored
  next => exact ignored

end Manager
end SerialJobs
