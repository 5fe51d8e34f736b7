import SerialJobs.Proofs.Keeping

/-!
# One iteration at a job that is not being terminated

While no termination is under way, an iteration looks at the status of the job in the slot, and what
becomes of the job depends on what the status check says and on nothing else, except for the failed
checks before it and, if the job is still running, for its age. `Turned` lists the five ways in which
such an iteration can end, and `turned_work` says that there are no others. In two of them the
manager begins a termination, and `Ending` says how far that gets within the iteration.
-/

namespace SerialJobs
namespace Manager

variable {J E : Type}

/-- From `m` to `m'` a signal of the timeout was sent to the job, whatever came of it. -/
def Presses (o : Occupant J) (m m' : Manager J E) : Prop :=
  ∃ es y, m'.past = es ++ m.past ∧ .call o.ticket (.terminate .timeout y) ∈ es

/-- How far a termination of the job with the exit `e` gets in the iteration that begins it, and the
tick that tells so: the signal is sent, and the job keeps the slot with its termination under way,
or it is finished. -/
inductive Ending (o : Occupant J) (e : Exit) (m : Manager J E) : Tick → Manager J E → Prop
  | pending {j : J} {n : Nat} {b : Bool} {m' : Manager J E} (presses : Presses o m m')
      (slot : m'.slot =
        some { o with job := j, statusErrors := n, stop := some ⟨.timeout, e, b⟩ }) :
      Ending o e m (.stopping o.ticket.id) m'
  | finished {m' : Manager J E} (presses : Presses o m m')
      (state : m'.state? o.ticket.number = some (.finished e)) :
      Ending o e m (.finished o.ticket.id) m'

/-- How an iteration at a job without a termination under way can end: its tick, and the manager
after it. -/
inductive Turned (s : Setup J E) (o : Occupant J) (m : Manager J E) : Tick → Manager J E → Prop
  /-- The status says running. -/
  | running {j : J} {m' : Manager J E} (reads : m.status s o = .ok none) (early : ¬m.Late s o)
      (slot : m'.slot = some { o with job := j, statusErrors := 0 }) :
      Turned s o m (.stillRunning o.ticket.id) m'
  /-- The status could not be read, and will be checked again. -/
  | erring {j : J} {f : JobError} {m' : Manager J E} (failed : (m.status s o).guarded = .error f)
      (transient : f.isTransient = true)
      (below : o.statusErrors + 1 < s.config.statusErrorLimit.toNat)
      (slot : m'.slot = some { o with job := j, statusErrors := o.statusErrors + 1 }) :
      Turned s o m (.statusError o.ticket.id) m'
  /-- The job has exited. -/
  | exited {e : Exit} {m' : Manager J E} (reads : m.status s o = .ok (some e))
      (state : m'.state? o.ticket.number = some (.finished e)) :
      Turned s o m (.finished o.ticket.id) m'
  /-- The status says running, but the job exceeded the job timeout. -/
  | overdue {k : Tick} {m' : Manager J E} (reads : m.status s o = .ok none) (late : m.Late s o)
      (ending : Ending o (.killed .timeout) m k m') : Turned s o m (.timedOut o.ticket.id) m'
  /-- The status could not be read, and will not be checked again. -/
  | unreadable {f : JobError} {k : Tick} {m' : Manager J E}
      (failed : (m.status s o).guarded = .error f)
      (last : f.isTransient = false ∨ s.config.statusErrorLimit.toNat ≤ o.statusErrors + 1)
      (ending : Ending o (.unresponsive f.message) m k m') : Turned s o m k m'

variable {s : Setup J E} {o : Occupant J} {m m₁ m' : Manager J E} {out : List Nat}

/-- A signal that was not delivered before is sent. -/
lemma pursue_sends {p : PendingStop} (before : p.signalled = false) :
    ∃ es, Attended o.ticket es m (m.pursue s o p).2 ∧
      .call o.ticket (.terminate p.command (s.kind.terminate p.command o.job m.env).outcome) ∈
        es := by
  have sent := attended_callTerminate s o.ticket p.command o.job m
  rw [pursue, if_neg (by simp [before])]
  dsimp only
  split
  next e hr => exact ⟨_, sent.happen (e := .noted _) trivial, by simp⟩
  next hr =>
    have told := sent.happen (e := .audited (.killed o.ticket.id o.ticket.label p.command)) trivial
    obtain ⟨es, called, -⟩ := confirmed_confirmExit s
      { o with job := (m.callTerminate s o.ticket p.command o.job).job }
      ((m.callTerminate s o.ticket p.command o.job).manager.audit
        (.killed o.ticket.id o.ticket.label p.command)) (Docket.delivered_deliver ⟨0, none⟩ p)
    exact ⟨_, told.trans called, by simp⟩

/-- An announcement adds to the history. -/
lemma past_announceDue {α : Type} (s : Setup J E) (r : Section J E α) :
    ∃ es, (announceDue s r).past = es ++ r.manager.past := by
  unfold announceDue
  split
  next => exact ⟨[], rfl⟩
  next t due =>
    have announced := (lasting_proceeds s r.manager).announce ⟨[], .refl _⟩ t
    exact announced.imp fun _ h => h.1

/-- A termination that the manager begins after a look at the job. -/
lemma ending_pursueStop (placed : Placed m [] out) {es : List Event}
    (called : Attended o.ticket es m m₁) (j : J) (n : Nat) (e : Exit) (k : Tick)
    (step : Advance s m
      (m₁.pursueStop s { o with job := j, statusErrors := n } ⟨.timeout, e, false⟩).1
      (m₁.pursueStop s { o with job := j, statusErrors := n } ⟨.timeout, e, false⟩).2) :
    let r := m₁.pursueStop s { o with job := j, statusErrors := n } ⟨.timeout, e, false⟩
    Ending o e m (if r.1.isSome then .finished o.ticket.id else .stopping o.ticket.id)
      (announceDue s (⟨k, r.1, r.2⟩ : Section J E Tick)) := by
  obtain ⟨es', called', sent⟩ := pursue_sends (s := s) (m := m₁)
    (o := { o with job := j, statusErrors := n }) (p := ⟨.timeout, e, false⟩) rfl
  have past := (called.trans called').past
  have sent' := List.mem_append_left es sent
  rcases hp : m₁.pursue s { o with job := j, statusErrors := n } ⟨.timeout, e, false⟩ with
    ⟨pursuit, m₂⟩
  rw [hp] at past
  simp only [pursueStop, hp] at step ⊢
  cases pursuit with
  | undelivered j' => exact .pending ⟨_, _, past, sent'⟩ rfl
  | exiting j' => exact .pending ⟨_, _, past, sent'⟩ rfl
  | exited j' =>
    let o₁ : Occupant J := { o with job := j', statusErrors := n }
    let t := (m₂.release s o₁ e).1
    obtain ⟨told, announced⟩ := past_announceDue s ⟨k, some t, (m₂.release s o₁ e).2⟩
    have released : (m₂.release s o₁ e).2.past = (.moved t :: (es' ++ es)) ++ m.past :=
      congrArg (Event.moved t :: ·) past
    rw [released, ← List.append_assoc] at announced
    have mem := List.mem_append_right told (List.mem_cons_of_mem (.moved t) sent')
    exact .finished ⟨_, _, announced, mem⟩ (finished_of_due placed step rfl)

/-- There is nothing else that an iteration does to a job without a termination under way. -/
theorem turned_work (placed : Placed m [] out) (held : m.slot = some o) (unstopped : o.stop = none) :
    Turned s o m (m.work s).1 (m.work s).2 := by
  obtain ⟨es, called, checked⟩ := checked_check s o m
  have step := advance_tickSection s m
  simp only [work, tickSection, held, supervise, unstopped, superviseRunning] at step ⊢
  rcases hc : m.check s o with ⟨finding, o', m₁⟩
  rw [hc] at called checked
  simp only [hc] at step ⊢
  cases checked with
  | running j reads early => exact .running reads early rfl
  | statusError j failed transient below => exact .erring failed transient below rfl
  | exited j x reads => exact .exited reads (finished_of_due placed step rfl)
  | overdue j reads late =>
    exact .overdue reads late (ending_pursueStop placed (called.happen (e := .noted _) trivial) j 0 _
      _ step)
  | unreadable j failed last =>
    exact .unreadable failed last (ending_pursueStop placed
      (called.happen (e := .noted _) trivial) j (o.statusErrors + 1) _ _ step)

/-! ## One iteration at a job that is being terminated -/

/-- The termination goes on as it began, until the job is finished. -/
lemma pursues_work (placed : Placed m [] out) (held : m.slot = some o) {p : PendingStop}
    (stop : o.stop = some p) :
    ((m.work s).1 = .stopping o.ticket.id ∧
        ∃ j b, (m.work s).2.slot = some { o with job := j, stop := some { p with signalled := b } }) ∨
      (m.work s).1 = .finished o.ticket.id ∧
        (m.work s).2.state? o.ticket.number = some (.finished p.exit) := by
  have step := advance_tickSection s m
  rcases hp : m.pursue s o p with ⟨pursuit, m₁⟩
  simp only [work, tickSection, held, supervise, stop, pursueStop, hp] at step ⊢
  cases pursuit with
  | undelivered j => exact .inl ⟨rfl, j, p.signalled, rfl⟩
  | exiting j => exact .inl ⟨rfl, j, true, rfl⟩
  | exited j => exact .inr ⟨rfl, finished_of_due placed step rfl⟩

/-! ## The first call of the iteration -/

lemma past_pursueStop (s : Setup J E) (o : Occupant J) (p : PendingStop) (m : Manager J E) :
    m.past <:+ (m.pursueStop s o p).2.past := by
  have pursues : Docket.Pursues ⟨0, some p⟩ p := .inl rfl
  obtain ⟨es, called, -⟩ := pursued_pursue s o p m pursues
  rcases hp : m.pursue s o p with ⟨pursuit, m₁⟩
  rw [hp] at called
  have past : m.past <:+ m₁.past := ⟨es, called.past.symm⟩
  simp only [pursueStop, hp]
  cases pursuit with
  | undelivered j => exact past
  | exiting j => exact past
  | exited j => exact past.trans (List.suffix_cons ..)

/-- The iteration begins with the status check. -/
lemma looks_work (held : m.slot = some o) (unstopped : o.stop = none) :
    .call o.ticket (.tryExit (m.status s o)) :: m.past <:+ (m.work s).2.past := by
  obtain ⟨es, called, checked⟩ := checked_check s o m
  have announced := past_announceDue s (m.tickSection s)
  suffices h : .call o.ticket (.tryExit (m.status s o)) :: m.past <:+
      (m.tickSection s).manager.past from h.trans (announced.imp fun _ h => h.symm)
  simp only [tickSection, held, supervise, unstopped, superviseRunning]
  rcases hc : m.check s o with ⟨finding, o', m₁⟩
  rw [hc] at called checked
  have looked : .call o.ticket (.tryExit (m.status s o)) :: m.past <:+ m₁.past := by
    rw [called.past]
    cases checked with
    | running j reads early => simp [reads]
    | statusError j failed transient below => exact List.suffix_cons ..
    | exited j x reads => simp [reads]
    | overdue j reads late => simp [reads]
    | unreadable j failed last => simp
  have noted : ∀ d, m₁.past <:+ (m₁.note d).past := fun d => List.suffix_cons ..
  refine looked.trans ?_
  cases finding with
  | running => exact List.suffix_refl _
  | statusError => exact List.suffix_refl _
  | exited e => exact (noted _).trans (List.suffix_cons ..)
  | overdue => exact (noted _).trans (past_pursueStop s o' _ _)
  | unreadable f => exact (noted _).trans (past_pursueStop s o' _ _)

end Manager
end SerialJobs
