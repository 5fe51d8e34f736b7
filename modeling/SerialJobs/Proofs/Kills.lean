import SerialJobs.Proofs.Attribution.Course
import SerialJobs.Proofs.Conclusion
import SerialJobs.Proofs.Exclusion

/-!
# What the answer of a kill says

A kill answers true exactly if the job with the given identity holds the slot and, by then, a signal
was delivered to it. A kill that answers false leaves everything as it was, except for what it
called on the job in the slot: one signal that failed, at most. After a kill that answers true the
job has either left the slot and is finished, or keeps it with its signal delivered. Either way the
other jobs are left alone, also one of the same identity in the queue.

The answer is given for the locked section (`Killing` lists the four ways it can end). What carries
the proof is that the docket of the job in the slot and the calls made on it go together
(`Accounted`), whoever finds the manager, and when. When the end of the job is announced its slot is
free already, so the sink, if it calls back, may have the next job started; whatever holds the slot
afterwards was started during the kill, and nothing else is touched (`Confined`).
-/

namespace SerialJobs
namespace Manager

variable {J E : Type} {s : Setup J E} {m m' : Manager J E} {arriving : List (Waiting J)}

/-! ## Where a call may find the manager -/

/-- A manager as a call may find it, between two requests or in the middle of an announcement, where
`arriving` are the jobs on their way to the queue. -/
inductive Visited (s : Setup J E) : List (Waiting J) → Manager J E → Prop
  /-- All requests are served. -/
  | after (env : E) (rs : List (Request J E)) : Visited s [] (after s (.fresh env) rs)
  /-- The sink was told of a submission. -/
  | submitted {m : Manager J E} (j : J) (h : Visited s [] m) :
      Visited s [⟨m.nextTicket s j, j⟩]
        ((m.register s (m.nextTicket s j)).tell s ⟨m.nextTicket s j, .queued, none⟩).2
  /-- A stop has told the sink of the end of the job that was in the slot. -/
  | stopped {m m' : Manager J E} {o : Occupant J} {w : WaitOutcome} {e : Exit}
      (departed : Departed s m o (some w) e m') (h : Visited s [] m) :
      Visited s [] ((m'.finish s o e).2.tell s (m'.finish s o e).1).2
  /-- A call's locked section is over, and the sink was told of the transition that it left. -/
  | performed {arriving : List (Waiting J)} {m : Manager J E} (a : Act)
      (h : Visited s arriving m) : Visited s arriving (m.perform s a).2
  /-- Another errand of an announcement is done. -/
  | discharged {arriving : List (Waiting J)} {m : Manager J E} (e : Errand)
      (h : Visited s arriving m) : Visited s arriving (m.discharge s e)

lemma Visited.accounted (h : Visited s arriving m) : Accounted s arriving m := by
  have lasting := (abiding_accounted s).lasting
  induction h with
  | after env rs => exact accounted_after s env rs
  | submitted j _ ih => exact (lasting _).tell (ih.register j) _
  | stopped departed _ ih => exact (lasting _).tell (ih.finish departed) _
  | performed a _ ih => exact (lasting _).perform ih a
  | discharged e _ ih => exact (lasting _).discharge ih e

/-! ## The locked section of a kill -/

/-- How the locked section of a kill can end: its answer, the transition that it leaves, and the
manager after it. -/
inductive Killing (s : Setup J E) (m : Manager J E) (id : JobId) (c : KillCommand) :
    Section J E Bool → Prop
  /-- The job does not hold the slot. -/
  | ignored (other : ∀ o, m.slot = some o → o.ticket.id ≠ id) :
      Killing s m id c ⟨false, none, m.note (.killIgnored id c)⟩
  /-- No signal was delivered before, and now the signal fails. -/
  | failed {o : Occupant J} {j : J} {c' : KillCommand} {x : Outcome Unit} {f : JobError}
      {m' : Manager J E} (held : m.slot = some o) (named : o.ticket.id = id)
      (before : ¬ o.docket.Delivered) (fails : x.guarded = .error f)
      (called : Attended o.ticket
        [.noted (.signalFailed o.ticket.id (some c') f), .call o.ticket (.terminate c' x)] m m') :
      Killing s m id c ⟨false, none, m'.keep { o with job := j }⟩
  /-- The signal is delivered, now or before, and the job keeps the slot. -/
  | exiting {o : Occupant J} {j : J} {p : PendingStop} {es : List Event} {m' : Manager J E}
      (held : m.slot = some o) (named : o.ticket.id = id) (called : Attended o.ticket es m m')
      (tended : Tended s o.ticket o.docket es (o.docket.deliver p)) :
      Killing s m id c
        ⟨true, none, m'.keep { o with job := j, stop := some { p with signalled := true } }⟩
  /-- The signal is delivered, now or before, and the job leaves the slot. -/
  | exited {o : Occupant J} {j : J} {p : PendingStop} {x : Exit} {es : List Event}
      {m' : Manager J E} (held : m.slot = some o) (named : o.ticket.id = id)
      (called : Attended o.ticket (.call o.ticket (.tryExit (.ok (some x))) :: es) m m')
      (tended : Tended s o.ticket o.docket es (o.docket.deliver p)) :
      Killing s m id c
        ⟨true, some (m'.release s { o with job := j } p.exit).1,
          (m'.release s { o with job := j } p.exit).2⟩

/-- A signal can fail only where none was delivered before. -/
lemma not_delivered_of_undelivered {o : Occupant J} {c : KillCommand} {j : J}
    (h : m.pursue s o (o.stop.getD ⟨c, .killed c, false⟩) = (.undelivered j, m')) :
    ¬ o.docket.Delivered := by
  rintro ⟨p, stop, signalled⟩
  have hp : o.stop.getD ⟨c, .killed c, false⟩ = p := by
    rw [show o.stop = some p from stop, Option.getD_some]
  rw [hp, pursue, if_pos signalled, confirmExit] at h
  cases hr : (m.callTryExit s o.ticket o.job).result with
  | error f => simp [hr] at h
  | ok x => cases x <;> simp [hr] at h

lemma killing_killOccupant {o : Occupant J} (held : m.slot = some o) (c : KillCommand) :
    Killing s m o.ticket.id c (m.killOccupant s o c) := by
  obtain ⟨es, called, hp⟩ := pursued_pursue s o _ m (o.pursues_kill c)
  simp only [killOccupant]
  split <;> rename_i heq <;> rw [heq] at called hp <;> cases hp
  case _ j m' x f fails tended =>
    exact .failed held rfl (not_delivered_of_undelivered heq) fails called
  case _ j m' tended => exact .exiting held rfl called tended
  case _ j m' es' x tended => exact .exited held rfl called tended

theorem killing_killSection (s : Setup J E) (m : Manager J E) (id : JobId) (c : KillCommand) :
    Killing s m id c (m.killSection s id c) := by
  unfold killSection
  split
  next o held =>
    split
    next named => exact named ▸ killing_killOccupant held c
    next other =>
      refine .ignored fun o' held' => ?_
      obtain rfl := Option.some.inj (held.symm.trans held')
      exact other
  next free => exact .ignored (by simp [free])

/-! ## The other jobs -/

/-- From `m` to `m'` all but the job of the given identity in the slot is left alone: no other job is
called, and the queue and the other handles stay as they are. -/
structure Alone (m : Manager J E) (id : JobId) (m' : Manager J E) : Prop where
  queue : m'.queue = m.queue
  handles : ∀ n, (∀ o, m.slot = some o → o.ticket.id = id → o.ticket.number ≠ n) →
    m'.handles[n]? = m.handles[n]?
  calls : ∃ es, m'.past = es ++ m.past ∧
    ∀ t x, .call t x ∈ es → ∃ o, m.slot = some o ∧ o.ticket.id = id ∧ t = o.ticket

namespace Alone

variable {id : JobId}

/-- Only the job in the slot is called. -/
lemma attended {o : Occupant J} {es : List Event} (held : m.slot = some o)
    (named : o.ticket.id = id) (called : Attended o.ticket es m m') : Alone m id m' where
  queue := called.queue
  handles n _ := by rw [called.handles]
  calls := ⟨es, called.past,
    fun _ _ hx => ⟨o, held, named, (called.attends _ hx).ticket_eq rfl⟩⟩

lemma keep (h : Alone m id m') (o : Occupant J) : Alone m id (m'.keep o) :=
  ⟨h.queue, h.handles, h.calls⟩

/-- The job in the slot leaves it. -/
lemma release {o : Occupant J} (h : Alone m id m') (held : m.slot = some o)
    (named : o.ticket.id = id) (j : J) (e : Exit) :
    Alone m id (m'.release s { o with job := j } e).2 where
  queue := h.queue
  handles n other := (List.getElem?_modify_ne _ _ (other o held named)).trans (h.handles n other)
  calls := by
    obtain ⟨es, past, calls⟩ := h.calls
    refine ⟨.moved (m'.release s { o with job := j } e).1 :: es,
      congrArg (Event.moved _ :: ·) past, fun t x hx => ?_⟩
    exact calls t x ((List.mem_cons.mp hx).resolve_left (by simp))

/-- Something is told, and no more. -/
lemma informed {m'' : Manager J E} {es : List Event} (h : Alone m id m')
    (informed : Informed es m' m'') : Alone m id m'' where
  queue := informed.queue.trans h.queue
  handles n other := by rw [informed.handles, h.handles n other]
  calls := by
    obtain ⟨es', past, calls⟩ := h.calls
    refine ⟨es ++ es', by rw [informed.past, past, List.append_assoc], fun t x hx => ?_⟩
    exact calls t x ((List.mem_append.mp hx).resolve_left fun told => informed.told _ told)

/-- A sink that does not call back touches nothing. -/
lemma announceDue {α : Type} {r : Section J E α} (passive : s.Passive) (h : Alone m id r.manager) :
    Alone m id (announceDue s r) := by
  unfold Manager.announceDue
  split
  next => exact h
  next t due =>
    obtain ⟨es, informed⟩ := informed_publish s r.manager t
    rw [announce_eq_publish passive]
    exact h.informed informed

end Alone

/-- The locked section of a kill leaves the other jobs alone. -/
lemma Killing.alone {id : JobId} {c : KillCommand} {r : Section J E Bool}
    (h : Killing s m id c r) : Alone m id r.manager := by
  cases h with
  | ignored other =>
    exact ⟨rfl, fun _ _ => rfl, [.noted (.killIgnored id c)], rfl, by simp⟩
  | failed held named before fails called => exact (Alone.attended held named called).keep _
  | exiting held named called tended => exact (Alone.attended held named called).keep _
  | exited held named called tended =>
    exact (Alone.attended held named called).release held named _ _

/-- From `m` to `m'` the events `es` were added, the latest first, and nothing was touched but the
job in the slot and what was started: no other job was called, no other handle changed, and nothing
else came to the slot or left the queue. -/
structure Confined (m : Manager J E) (es : List Event) (m' : Manager J E) : Prop where
  proceeds : Proceeds m es m'
  slot : ∀ o', m'.slot = some o' →
    .call o'.ticket (.start (.ok ())) ∈ es ∨ ∃ o, m.slot = some o ∧ o.ticket = o'.ticket
  handles : ∀ n, (∀ o, m.slot = some o → o.ticket.number ≠ n) →
    (∀ t x, .call t (.start x) ∈ es → t.number ≠ n) → m'.handles[n]? = m.handles[n]?
  calls : ∀ t x, .call t x ∈ es →
    (∃ y, .call t (.start y) ∈ es) ∨ ∃ o, m.slot = some o ∧ o.ticket = t

namespace Confined

variable {m'' : Manager J E} {es es' : List Event}

lemma refl (m : Manager J E) : Confined m [] m :=
  ⟨.refl m, fun o held => .inr ⟨o, held, rfl⟩, fun _ _ _ => rfl, by simp⟩

lemma happen (m : Manager J E) {e : Event} (news : e.IsNews) : Confined m [e] (m.happen e) where
  proceeds := .happen m e
  slot o held := .inr ⟨o, held, rfl⟩
  handles _ _ _ := rfl
  calls t x hx := by
    obtain rfl := List.mem_singleton.mp hx
    exact absurd news id

lemma trans (h : Confined m es m') (h' : Confined m' es' m'') : Confined m (es' ++ es) m'' where
  proceeds := h.proceeds.trans h'.proceeds
  slot o'' held'' := by
    rcases h'.slot o'' held'' with start | ⟨o', held', same⟩
    · exact .inl (List.mem_append_left _ start)
    · exact (same ▸ h.slot o' held').imp_left (List.mem_append_right _)
  handles n other fresh := by
    have before := h.handles n other fun t x hx => fresh t x (List.mem_append_right _ hx)
    refine (h'.handles n ?_ fun t x hx => fresh t x (List.mem_append_left _ hx)).trans before
    intro o' held'
    rcases h.slot o' held' with start | ⟨o, held, same⟩
    · exact fresh _ _ (List.mem_append_right _ start)
    · exact same ▸ other o held
  calls t x hx := by
    rcases List.mem_append.mp hx with hx | hx
    · rcases h'.calls t x hx with ⟨y, start⟩ | ⟨o', held', rfl⟩
      · exact .inl ⟨y, List.mem_append_left _ start⟩
      · exact (h.slot o' held').imp_left fun start => ⟨_, List.mem_append_right _ start⟩
    · exact (h.calls t x hx).imp_left fun ⟨y, start⟩ => ⟨y, List.mem_append_right _ start⟩

/-- The head of the queue is started. -/
lemma start {w : Waiting J} {ws : List (Waiting J)} {x : Outcome Unit} {t : Transition}
    {f : Handle → Handle} (head : m.queue = w :: ws) (queue : m'.queue = ws)
    (slot : ∀ o, m'.slot = some o → o.ticket = w.ticket ∧ x = .ok ())
    (handles : m'.handles = m.handles.modify w.ticket.number f)
    (past : m'.past = .moved t :: es ++ .call w.ticket (.start x) :: m.past)
    (told : ∀ e ∈ es, e.IsRemark) :
    Confined m (.moved t :: es ++ [.call w.ticket (.start x)]) m' := by
  have started : .call w.ticket (.start x) ∈ .moved t :: es ++ [.call w.ticket (.start x)] :=
    List.mem_append_right _ (List.mem_singleton_self _)
  refine ⟨.head head queue past, ?_, fun n _ fresh => ?_, fun u y hy => .inl ⟨x, ?_⟩⟩
  · intro o held
    obtain ⟨same, rfl⟩ := slot o held
    exact .inl (same ▸ started)
  · rw [handles, List.getElem?_modify_ne _ _ (fresh _ _ started)]
  · rcases List.mem_append.mp hy with hy | hy
    · have remark := told _ ((List.mem_cons.mp hy).resolve_left (by simp))
      exact absurd remark id
    · obtain ⟨rfl, -⟩ := Event.call.inj (List.mem_singleton.mp hy)
      exact started

end Confined

/-- A locked section touches the job in the slot, or starts one. -/
lemma Advance.confined {d : Option Transition} (step : Advance s m d m') :
    ∃ es, Confined m es m' := by
  cases step with
  | rest es slot queue handles past told =>
    refine ⟨es, .quiet past queue, ?_, fun _ _ _ => by rw [handles], ?_⟩
    · exact fun o' held => .inr ⟨o', slot ▸ held, rfl⟩
    · exact fun t x hx => absurd (told _ hx) id
  | started es free head slot queue handles past told =>
    refine ⟨_, .start head queue (fun o' held' => ?_) handles past told⟩
    obtain rfl := Option.some.inj (slot.symm.trans held')
    exact ⟨rfl, rfl⟩
  | startFailed es free head slot queue handles past failed told cause =>
    exact ⟨_, .start head queue (by simp [slot]) handles past told⟩
  | @kept o j k p es m' held next slot queue handles past attends tended =>
    refine ⟨es, .quiet past queue, ?_, fun _ _ _ => by rw [handles], fun t x hx => .inr ?_⟩
    · intro o' held'
      obtain rfl := Option.some.inj (slot.symm.trans held')
      exact .inr ⟨o, held, rfl⟩
    · exact ⟨o, held, ((attends _ hx).ticket_eq rfl).symm⟩
  | @released o _ x d es k m' held slot queue handles past attends exited yielded =>
    refine ⟨_, .quiet past queue, by simp [slot], fun n other _ => ?_, fun t y hy => .inr ?_⟩
    · rw [handles, List.getElem?_modify_ne _ _ (other o held)]
    · have called := (List.mem_cons.mp hy).resolve_left (by simp)
      exact ⟨o, held, ((attends _ called).ticket_eq rfl).symm⟩

lemma lasting_confined (s : Setup J E) (m₀ : Manager J E) :
    Lasting s fun m => ∃ es, Confined m₀ es m where
  happen {m _} := fun ⟨_, h⟩ news => ⟨_, h.trans (.happen m news)⟩
  advance := fun ⟨_, h⟩ step => step.confined.imp' (· ++ _) fun _ h' => h.trans h'

/-! ## Kills in vain -/

/-- From `m` to `m'` a kill of the job with the given identity was in vain: at most one signal was
sent to that job in the slot, and failed. -/
structure Spared (m : Manager J E) (id : JobId) (m' : Manager J E) : Prop where
  slot : m'.slot.map (fun o => (o.ticket, o.started, o.statusErrors, o.stop)) =
    m.slot.map fun o => (o.ticket, o.started, o.statusErrors, o.stop)
  queue : m'.queue = m.queue
  handles : m'.handles = m.handles
  records : m'.records = m.records
  audits : m'.audits = m.audits
  calls : ∃ es, m'.history = m.history ++ es ∧
    (es.filter Event.isCall = [] ∨ ∃ o c x f, m.slot = some o ∧ o.ticket.id = id ∧
      x.guarded = .error f ∧ es.filter Event.isCall = [.call o.ticket (.terminate c x)])

lemma Killing.spared {id : JobId} {c : KillCommand} {r : Section J E Bool}
    (h : Killing s m id c r) (vain : r.answer = false) : r.due = none ∧ Spared m id r.manager := by
  cases h with
  | ignored other =>
    exact ⟨rfl, rfl, rfl, rfl, by simp [records, history, note, happen, Event.record?],
      by simp [audits, history, note, happen, Event.audit?],
      [.noted (.killIgnored id c)], by simp [history, note, happen], .inl rfl⟩
  | @failed o j c' x f m' held named before fails called =>
    have past : (m'.keep { o with job := j }).history = m.history ++
        [.call o.ticket (.terminate c' x),
          .noted (.signalFailed o.ticket.id (some c') f)] := by
      simp [history, keep, called.past]
    refine ⟨rfl, ?_, called.queue, called.handles, ?_, ?_, _, past,
      .inr ⟨o, c', x, f, held, named, fails, rfl⟩⟩
    · simp [keep, held]
    · simp [records, past, Event.record?]
    · simp [audits, past, Event.audit?]
  | exiting held named called tended => cases vain
  | exited held named called tended => cases vain

/-- A signal that fails was not preceded by one that was delivered. -/
lemma Killing.undelivered {id : JobId} {c : KillCommand} {r : Section J E Bool}
    (h : Killing s m id c r) (accounted : Accounted s arriving m) (vain : r.answer = false)
    {o : Occupant J} (held : m.slot = some o) (named : o.ticket.id = id) :
    Undelivered (r.manager.callsOn o.ticket.number) := by
  cases h with
  | ignored other => exact absurd named (other o held)
  | @failed o' j c' x f m' held' named' before fails called =>
    obtain rfl := Option.some.inj (held'.symm.trans held)
    obtain ⟨l, calls, handled⟩ := accounted.held o' held
    have same : (m'.keep { o' with job := j }).callsOn o'.ticket.number =
        m.callsOn o'.ticket.number := by
      have calls' : m'.callsOn o'.ticket.number = m.callsOn o'.ticket.number ++ callsIn _ _ :=
        callsOn_of_past called.past _
      rw [callsIn_cons, callsIn_cons, Event.callOn?_terminate fails] at calls'
      exact calls'.trans (List.append_nil _)
    rw [same, calls]
    intro k hk
    exact handled.undelivered before k ((List.mem_cons.mp hk).resolve_left (by simp))
  | exiting held named called tended => cases vain
  | exited held named called tended => cases vain

/-! ## Delivered kills -/

/-- The calls of a delivered kill have delivered a signal, if none was delivered before. -/
lemma delivered_of_tended (accounted : Accounted s arriving m) {o : Occupant J}
    (held : m.slot = some o) {es : List Event} {p : PendingStop}
    (tended : Tended s o.ticket o.docket es (o.docket.deliver p)) :
    ∃ c, .terminate c (.ok ()) ∈ m.callsOn o.ticket.number ++ callsIn o.ticket.number es := by
  obtain ⟨l, calls, handled⟩ := accounted.held o held
  obtain ⟨l₁, c, l₂, eq, -, -⟩ := (handled.tend tended).signalled _ rfl rfl
  refine ⟨c, ?_⟩
  rw [calls, List.cons_append, eq]
  simp

/-- What a kill that was delivered has done to the job in the slot, where `es` are the events that
it has added and `m₁` is the manager when the lock was given back: the job keeps the slot with its
signal delivered, and nothing is announced, or it has left the slot and is finished. Then the slot
was free when the lock was given back; what holds it afterwards was started during the announcement,
which takes a sink that calls back. -/
inductive Delivery (s : Setup J E) (o : Occupant J) (es : List Event) (m₁ m' : Manager J E) : Prop
  | exiting {j : J} {p : PendingStop} (signalled : p.signalled = true)
      (slot : m'.slot = some { o with job := j, stop := some p }) (unannounced : m' = m₁)
  | exited {e : Exit} (finished : m'.state? o.ticket.number = some (.finished e))
      (free : m₁.slot = none)
      (next : ∀ o', m'.slot = some o' → .call o'.ticket (.start (.ok ())) ∈ es)
      (passive : s.Passive → m'.slot = none)

lemma Killing.delivery {id : JobId} {c : KillCommand} {r : Section J E Bool}
    (h : Killing s m id c r) (step : Advance s m r.due r.manager)
    (accounted : Accounted s arriving m) (yes : r.answer = true) :
    ∃ o es, m.slot = some o ∧ o.ticket.id = id ∧ Confined m es (announceDue s r) ∧
      (∃ c', .terminate c' (.ok ()) ∈ (announceDue s r).callsOn o.ticket.number) ∧
      Delivery s o es r.manager (announceDue s r) := by
  obtain ⟨before, locked⟩ := step.confined
  cases h with
  | ignored other => cases yes
  | failed held named before fails called => cases yes
  | @exiting o j p es m' held named called tended =>
    obtain ⟨c', delivered⟩ := delivered_of_tended accounted held tended
    refine ⟨o, before, held, named, locked, ⟨c', ?_⟩, .exiting rfl rfl rfl⟩
    have calls : m'.callsOn o.ticket.number = _ := callsOn_of_past called.past _
    exact calls ▸ delivered
  | @exited o j p x es m' held named called tended =>
    obtain ⟨c', delivered⟩ := delivered_of_tended accounted held tended
    obtain ⟨out, placed⟩ := accounted.placed
    let m₁ := (m'.release s { o with job := j } p.exit).2
    let t := (m'.release s { o with job := j } p.exit).1
    obtain ⟨es', announced⟩ := (lasting_confined s m₁).announce ⟨[], .refl m₁⟩ t
    refine ⟨o, es' ++ before, held, named, locked.trans announced, ⟨c', ?_⟩,
      .exited (finished_of_due placed step rfl) rfl ?_ ?_⟩
    · -- nothing that was called before the announcement is forgotten
      have calls : m₁.callsOn o.ticket.number = m'.callsOn o.ticket.number :=
        callsOn_moved (t := t) rfl _
      have calls' : m'.callsOn o.ticket.number = _ := callsOn_of_past called.past _
      have calls'' : (m₁.announce s t).callsOn o.ticket.number = _ :=
        callsOn_of_past announced.proceeds.1 _
      change _ ∈ (m₁.announce s t).callsOn o.ticket.number
      rw [calls'', calls, calls', callsIn_cons, ← List.append_assoc]
      exact List.mem_append_left _ (List.mem_append_left _ delivered)
    · intro o' held'
      rcases announced.slot o' held' with start | ⟨o₁, held₁, -⟩
      · exact List.mem_append_left _ start
      · cases held₁
    · intro passive
      obtain ⟨_, informed⟩ := informed_publish s m₁ t
      change (m₁.announce s t).slot = none
      rw [announce_eq_publish passive, informed.slot]
      rfl

/-- Wherever a call may find the manager, a kill answers true exactly if the job of that identity
holds the slot and a signal was delivered to it by the end of the call. A kill that answers false
leaves everything as it was, except for one failed signal to the job in the slot. After a kill that
answers true the job keeps the slot with its signal delivered, or it has left the slot and is
finished, and nothing was touched beside it but what a sink that calls back had started. Under the
lock the kill leaves all jobs alone but that in the slot, also one of the same identity in the
queue, and that is all it does if the sink does not call back. -/
theorem kill_truthful (visited : Visited s arriving m) (id : JobId) (c : KillCommand) :
    let k := m.kill s id c
    let m₁ := (m.killSection s id c).manager
    (k.1 = true ↔ ∃ o c', m.slot = some o ∧ o.ticket.id = id ∧
      .terminate c' (.ok ()) ∈ k.2.callsOn o.ticket.number) ∧
    (k.1 = false → Spared m id k.2) ∧
    (k.1 = true → ∃ o es, m.slot = some o ∧ o.ticket.id = id ∧ Confined m es k.2 ∧
      Delivery s o es m₁ k.2) ∧
    Alone m id m₁ ∧ (s.Passive → Alone m id k.2) := by
  have accounted := visited.accounted
  have killing := killing_killSection s m id c
  have step := advance_killSection s m id c
  simp only [kill]
  generalize m.killSection s id c = r at killing step
  have alone := killing.alone
  have passive (h : s.Passive) : Alone m id (announceDue s r) := alone.announceDue h
  cases hr : r.answer with
  | false =>
    obtain ⟨due, spared⟩ := killing.spared hr
    have after : announceDue s r = r.manager := by rw [announceDue, due]
    rw [after] at passive ⊢
    refine ⟨⟨by simp, ?_⟩, fun _ => spared, by simp, alone, passive⟩
    rintro ⟨o, c', held, named, delivered⟩
    exact absurd delivered (killing.undelivered accounted hr held named c')
  | true =>
    obtain ⟨o, es, held, named, confined, ⟨c', delivered⟩, delivery⟩ :=
      killing.delivery step accounted hr
    exact ⟨⟨fun _ => ⟨o, c', held, named, delivered⟩, fun _ => rfl⟩, by simp,
      fun _ => ⟨o, es, held, named, confined, delivery⟩, alone, passive⟩

/-- A job that has exited by the time it is looked at, and another of the same identity behind it. -/
def namesakes : List (Request Worker Host) :=
  [.submit (.reporting 1 (.always (.ok (some .completed)))), .submit (.endless 1), .work]

/-- A kill of a job that keeps running, and one of a job that has exited. The signal is delivered to
both; the first one keeps the slot, the second one is finished, and its namesake still waits. -/
theorem kill_truthful_convoy :
    let m := after .bare (.fresh {}) convoy
    let m' := after .bare (.fresh {}) namesakes
    (Visited .bare [] m ∧ (m.kill .bare (.ofNat 1) .cancel).1 = true ∧
      ∃ o es, m.slot = some o ∧ o.ticket.id = .ofNat 1 ∧
        Confined m es (m.kill .bare (.ofNat 1) .cancel).2 ∧
        Delivery .bare o es (m.killSection .bare (.ofNat 1) .cancel).manager
          (m.kill .bare (.ofNat 1) .cancel).2) ∧
      Visited .bare [] m' ∧ (m'.kill .bare (.ofNat 1) .cancel).1 = true ∧ Setup.bare.Passive ∧
        (m'.kill .bare (.ofNat 1) .cancel).2.state? 0 = some (.finished (.killed .cancel)) ∧
        m'.queuedIds = [.ofNat 1] ∧ Alone m' (.ofNat 1) (m'.kill .bare (.ofNat 1) .cancel).2 := by
  have visited : Visited .bare [] (after .bare (.fresh {}) convoy) := .after _ _
  have delivered : ((after .bare (.fresh {}) convoy).kill .bare (.ofNat 1) .cancel).1 = true :=
    of_decide_eq_true (by cbv)
  have visited' : Visited .bare [] (after .bare (.fresh {}) namesakes) := .after _ _
  have delivered' : ((after .bare (.fresh {}) namesakes).kill .bare (.ofNat 1) .cancel).1 = true :=
    of_decide_eq_true (by cbv)
  have finished : ((after .bare (.fresh {}) namesakes).kill .bare (.ofNat 1) .cancel).2.state? 0 =
      some (.finished (.killed .cancel)) := of_decide_eq_true (by cbv)
  have waiting : (after .bare (.fresh {}) namesakes).queuedIds = [.ofNat 1] :=
    of_decide_eq_true (by cbv)
  have passive : Setup.bare.Passive := fun k hk => by cases hk
  intro m m'
  have truth := kill_truthful (m := m) visited (.ofNat 1) .cancel
  have truth' := kill_truthful (m := m') visited' (.ofNat 1) .cancel
  exact ⟨⟨visited, delivered, truth.2.2.1 delivered⟩, visited', delivered', passive, finished,
    waiting, truth'.2.2.2.2 passive⟩

/-- A manager whose sink has the next job started whenever a job has finished. -/
def relentless : Setup Worker Host :=
  { Setup.bare with
    sink := some ⟨fun _ r => { acts := if r.state.isTerminal then [.work] else [] }⟩ }

/-- A sink that has the next job started: after a delivered kill the slot is neither free nor does
the killed job hold it. -/
theorem slot_taken_after_kill :
    let m := after relentless (.fresh {})
      [.submit (.reporting 1 (.always (.ok (some .completed)))), .submit (.endless 2), .work]
    let k := m.kill relentless (.ofNat 1) .cancel
    m.currentId = some (.ofNat 1) ∧ k.1 = true ∧
      k.2.state? 0 = some (.finished (.killed .cancel)) ∧ k.2.slot.isSome = true ∧
        k.2.currentId = some (.ofNat 2) := by
  refine ⟨?_, ?_, ?_, ?_, ?_⟩ <;> exact of_decide_eq_true (by cbv)

end Manager
end SerialJobs
