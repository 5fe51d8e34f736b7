import SerialJobs.Proofs.Conclusion

/-!
# First in, first out

The run of one caller is cut after each stop, that is where the stop has drained the queue. In every
piece the submissions, in the order in which they were made, are those whose start was called, in
the order of these calls, followed by those that the stop at the end of the piece has drained, or by
those that are still queued if no stop has come yet (`segments_balance`). Since every submission has
a number of its own, none is lost, started twice or overtaken (`fifo_conservation`).

What carries the proof is `Orderly`, which every request keeps but a stop. It holds in the middle of
a call as well, and whatever the sink calls.
-/

namespace SerialJobs

namespace Event

/-- The submission that was made. -/
def submission? : Event → Option Ticket
  | moved ⟨t, .queued, _⟩ => some t
  | _ => none

/-- The submission whose start was called. -/
def launch? : Event → Option Ticket
  | call t (.start _) => some t
  | _ => none

/-- The event is neither a submission nor a start. -/
structure Idle (e : Event) : Prop where
  submission : e.submission? = none
  launch : e.launch? = none

end Event

/-- The submissions that were made, in order. -/
def submissions (es : List Event) : List Ticket := es.filterMap Event.submission?

/-- The submissions whose start was called, in order. -/
def launches (es : List Event) : List Ticket := es.filterMap Event.launch?

section Events

variable {e : Event} {es es' : List Event} {t : Ticket}

@[simp] lemma submissions_append : submissions (es ++ es') = submissions es ++ submissions es' :=
  List.filterMap_append

@[simp] lemma launches_append : launches (es ++ es') = launches es ++ launches es' :=
  List.filterMap_append

lemma submissions_of_idle (h : ∀ e ∈ es, e.Idle) : submissions es = [] :=
  List.filterMap_eq_nil_iff.mpr fun e he => (h e he).submission

lemma launches_of_idle (h : ∀ e ∈ es, e.Idle) : launches es = [] :=
  List.filterMap_eq_nil_iff.mpr fun e he => (h e he).launch

lemma Event.IsTold.idle (h : e.IsTold) : e.Idle := by
  cases e with
  | call u x => exact absurd h id
  | moved u => exact absurd h id
  | _ => exact ⟨rfl, rfl⟩

lemma Event.Attends.idle (h : e.Attends t) : e.Idle := by
  cases e with
  | call u x =>
    cases x with
    | start o => exact absurd h id
    | _ => exact ⟨rfl, rfl⟩
  | moved u => exact absurd h id
  | _ => exact ⟨rfl, rfl⟩

/-- A handle that leaves the queued state is no submission. -/
lemma idle_moved {tr : Transition} (h : tr.state ≠ .queued) : (Event.moved tr).Idle := by
  obtain ⟨u, st, d⟩ := tr
  cases st with
  | queued => exact absurd rfl h
  | _ => exact ⟨rfl, rfl⟩

end Events

/-- The request is a stop. -/
def Request.isStop {J E : Type} : Request J E → Bool
  | .stop => true
  | _ => false

/-- The submissions that a stop has drained, as its report lists them. -/
def Answer.drained? {J : Type} : Answer J → Option (List Ticket)
  | .report r => some (r.drained.map (·.ticket))
  | _ => none

/-- What the stops have drained, one list for each of them. -/
def drains {J : Type} (as : List (Answer J)) : List (List Ticket) := as.filterMap Answer.drained?

namespace Manager

variable {J E : Type}

/-- What happened between `m₀` and `m`. -/
def since (m₀ m : Manager J E) : List Event := m.history.drop m₀.history.length

/-- What happened in the course of the requests, cut after each stop, where the first piece began
with `m₀`. The last piece is the one that no stop has ended yet. -/
def segments (s : Setup J E) (m₀ m : Manager J E) : List (Request J E) → List (List Event)
  | [] => [since m₀ m]
  | r :: rs =>
    let m' := (m.serve s r).2
    if r.isStop then since m₀ m' :: segments s m' m' rs else segments s m₀ m' rs

variable {s : Setup J E} {m₀ m m' : Manager J E}

lemma since_of_history {es : List Event} (h : m.history = m₀.history ++ es) : since m₀ m = es := by
  rw [since, h, List.drop_left]

/-! ## What an operation does to the submissions -/

/-- The events of a start. -/
lemma flow_of_start {u : Transition} {es : List Event} {t : Ticket} {x : Outcome Unit}
    (moves : u.state ≠ .queued) (told : ∀ e ∈ es, e.IsRemark) :
    submissions (Event.moved u :: es ++ [Event.call t (.start x)]).reverse = [] ∧
      launches (Event.moved u :: es ++ [Event.call t (.start x)]).reverse = [t] := by
  have idle : ∀ e ∈ (Event.moved u :: es).reverse, e.Idle := by
    intro e he
    rcases List.mem_cons.mp (List.mem_reverse.mp he) with rfl | he
    · exact idle_moved moves
    · exact (told e he).isTold.idle
  rw [List.reverse_append, submissions_append, launches_append, submissions_of_idle idle,
    launches_of_idle idle]
  exact ⟨rfl, rfl⟩

/-- A locked section makes no submission, and what it starts is the head of the queue. -/
lemma Advance.flow {d : Option Transition} (step : Advance s m d m') :
    ∃ es, m'.past = es ++ m.past ∧ submissions es.reverse = [] ∧
      m.queue.map (·.ticket) = launches es.reverse ++ m'.queue.map (·.ticket) ∧
      m'.handles.length = m.handles.length := by
  have quiet : ∀ {es : List Event}, (∀ e ∈ es, e.Idle) → m'.queue = m.queue →
      submissions es.reverse = [] ∧
        m.queue.map (·.ticket) = launches es.reverse ++ m'.queue.map (·.ticket) := by
    intro es idle queue
    have idle' : ∀ e ∈ es.reverse, e.Idle := fun e he => idle e (List.mem_reverse.mp he)
    rw [submissions_of_idle idle', launches_of_idle idle', queue]
    exact ⟨rfl, rfl⟩
  cases step with
  | rest es slot queue handles past told =>
    obtain ⟨subs, starts⟩ := quiet (fun e he => (told e he).isTold.idle) queue
    exact ⟨es, past, subs, starts, by rw [handles]⟩
  | @started w ws j n m' es free head slot queue handles past told =>
    obtain ⟨subs, starts⟩ := flow_of_start (u := ⟨w.ticket, .running, none⟩) (t := w.ticket)
      (x := .ok ()) (by simp) told
    refine ⟨_, past.trans (List.append_cons ..), subs, ?_, by simp [handles]⟩
    rw [starts, head, queue]
    rfl
  | @startFailed w ws x reason n m' es free head slot queue handles past failed told =>
    obtain ⟨subs, starts⟩ := flow_of_start
      (u := ⟨w.ticket, .finished (.startFailed reason), none⟩) (t := w.ticket) (x := x)
      (by simp) told
    refine ⟨_, past.trans (List.append_cons ..), subs, ?_, by simp [handles]⟩
    rw [starts, head, queue]
    rfl
  | @kept o j n p es m' held next slot queue handles past attends =>
    obtain ⟨subs, starts⟩ := quiet (fun e he => (attends e he).idle) queue
    exact ⟨es, past, subs, starts, by rw [handles]⟩
  | @released o e x d es n m' held slot queue handles past attends =>
    have idle : ∀ a ∈ Event.moved ⟨o.ticket, .finished e, some d⟩ :: es, a.Idle :=
      List.forall_mem_cons.mpr ⟨idle_moved (by simp), fun a ha => (attends a ha).idle⟩
    obtain ⟨subs, starts⟩ := quiet idle queue
    exact ⟨_, past, subs, starts, by simp [handles]⟩

/-- A departure neither makes nor starts a submission. -/
lemma Departed.idle {o : Occupant J} {w : Option WaitOutcome} {e : Exit}
    (h : Departed s m o w e m') : ∃ es, m'.past = es ++ m.past ∧ ∀ a ∈ es, a.Idle := by
  obtain ⟨told, es, remarks, past, last, hTold, hRemarks⟩ := h.past
  refine ⟨told ++ waitCall o.ticket w ++ es ++ remarks, past, ?_⟩
  intro a ha
  simp only [List.mem_append] at ha
  rcases ha with ((ha | ha) | ha) | ha
  · exact (hTold a ha).isTold.idle
  · obtain ⟨x, rfl⟩ := eq_of_mem_waitCall ha
    exact ⟨rfl, rfl⟩
  · exact (last.attends a ha).idle
  · exact (hRemarks a ha).isTold.idle

/-! ## Inside a piece -/

/-- Since `m₀` the submissions are those whose start was called, followed by those in the queue and
those on their way to it, all in the order in which they were made. -/
def Orderly (m₀ : Manager J E) (arriving : List (Waiting J)) (m : Manager J E) : Prop :=
  ∃ es, m.history = m₀.history ++ es ∧
    submissions es = launches es ++ (m.queue ++ arriving).map (·.ticket)

namespace Orderly

variable {arriving arriving' : List (Waiting J)}

lemma refl (h : m.queue = []) : Orderly m [] m := ⟨[], by simp, by simp [submissions, launches, h]⟩

/-- Further events, the latest first. What they add to the submissions is started or waits, behind
those that have waited before. -/
lemma extend (h : Orderly m₀ arriving m) (es : List Event) (past : m'.past = es ++ m.past)
    (balance : (m.queue ++ arriving).map (·.ticket) ++ submissions es.reverse =
      launches es.reverse ++ (m'.queue ++ arriving').map (·.ticket)) :
    Orderly m₀ arriving' m' := by
  obtain ⟨l, history, orderly⟩ := h
  refine ⟨l ++ es.reverse, ?_, ?_⟩
  · rw [Manager.history, past, List.reverse_append, ← Manager.history, history, List.append_assoc]
  · rw [submissions_append, launches_append, orderly, List.append_assoc, List.append_assoc, balance]

lemma idle (h : Orderly m₀ arriving m) (es : List Event) (past : m'.past = es ++ m.past)
    (idle : ∀ e ∈ es, e.Idle) (queue : m'.queue = m.queue) : Orderly m₀ arriving m' := by
  have idle' : ∀ e ∈ es.reverse, e.Idle := fun e he => idle e (List.mem_reverse.mp he)
  refine h.extend es past ?_
  rw [submissions_of_idle idle', launches_of_idle idle', queue, List.append_nil, List.nil_append]

lemma advance (h : Orderly m₀ arriving m) {d : Option Transition} (step : Advance s m d m') :
    Orderly m₀ arriving m' := by
  obtain ⟨es, past, subs, starts, -⟩ := step.flow
  refine h.extend es past ?_
  rw [subs, List.append_nil, List.map_append, List.map_append, starts, List.append_assoc]

end Orderly

/-- Submissions, iterations and kills keep the order. -/
lemma admitting_orderly (s : Setup J E) (m₀ : Manager J E) : Admitting s (Orderly m₀) where
  lasting _ :=
    { happen := fun {m e} h news => h.idle [e] rfl (by simpa using news.isTold.idle) rfl
      advance := fun h step => h.advance step }
  pass h := h
  register {m} j h := by
    refine h.extend [.moved ⟨m.nextTicket s j, .queued, none⟩] rfl ?_
    simp [submissions, launches, Event.submission?, Event.launch?, Manager.register]
  enqueue h := by
    refine h.extend [] rfl ?_
    simp [submissions, launches, Manager.enqueue]

/-- A stop drains what is queued when it has ended the job in the slot. -/
lemma Orderly.stopped (h : Orderly m₀ [] m) {r : Report J} (stopped : Stopped s m r m') :
    m'.queue = [] ∧ ∃ es, m'.history = m₀.history ++ es ∧
      submissions es = launches es ++ r.drained.map (·.ticket) := by
  -- a report with the queue of the moment, made when the queue is emptied
  have report : ∀ {m₃ : Manager J E} (d : Option JobId) (n : Nat), Orderly m₀ [] m₃ →
      ∃ es, (({ m₃ with queue := [] } : Manager J E).note (.stopped d n)).history =
          m₀.history ++ es ∧
        submissions es = launches es ++ m₃.queue.map (·.ticket) := by
    rintro m₃ d n ⟨es, history, orderly⟩
    refine ⟨es ++ [.noted (.stopped d n)], ?_, ?_⟩
    · rw [← List.append_assoc, ← history]
      simp [Manager.history, note, happen]
    · have last : ∀ e ∈ [Event.noted (.stopped d n)], e.Idle := by simpa using ⟨rfl, rfl⟩
      rw [submissions_append, launches_append, orderly, submissions_of_idle last,
        launches_of_idle last, List.append_nil, List.append_nil, List.append_nil]
  cases stopped with
  | idle free => exact ⟨rfl, report none m.queue.length h⟩
  | @ended o e es x m₁ m₂ m₃ held signalled awaited noPanic announced last =>
    have departed := departed_of_awaited held signalled awaited last
    obtain ⟨l, past, idle⟩ := departed.idle
    have h₂ : Orderly m₀ [] m₂ := h.idle l past idle departed.queue
    have moved : ∀ a ∈ [Event.moved (m₂.finish s o e).1], a.Idle :=
      List.forall_mem_singleton.mpr (idle_moved (by simp [Manager.finish]))
    have finished : Orderly m₀ [] (m₂.finish s o e).2 := h₂.idle _ rfl moved rfl
    have h₃ := ((admitting_orderly s m₀).lasting []).announce finished (m₂.finish s o e).1
    rw [← announced] at h₃
    exact ⟨rfl, report _ _ h₃⟩

/-! ## Piece by piece -/

lemma drained?_of_serve {r : Request J E} {a : Answer J} (hr : r ≠ .stop)
    (h : m.serve s r = (.ok a, m')) : a.drained? = none := by
  cases r with
  | stop => exact absurd rfl hr
  | _ => cases h; rfl

/-- In every piece the submissions are those that were started and then those that were drained at
its end, or are still queued. -/
theorem segments_balance {rs : List (Request J E)} {as : List (Answer J)}
    (h : Served s m rs as m') (orderly : Orderly m₀ [] m) :
    m'.history = m₀.history ++ (segments s m₀ m rs).flatten ∧
      List.Forall₂ (fun es ts => submissions es = launches es ++ ts) (segments s m₀ m rs)
        (drains as ++ [m'.queue.map (·.ticket)]) := by
  induction rs generalizing m₀ m as with
  | nil =>
    obtain ⟨rfl, rfl⟩ := h.of_nil
    obtain ⟨es, history, balance⟩ := orderly
    rw [List.append_nil] at balance
    rw [segments, since_of_history history]
    exact ⟨by simpa using history, .cons balance .nil⟩
  | cons r rs ih =>
    obtain ⟨a, as, m₁, rfl, first, rest⟩ := h.of_cons
    have next : (m.serve s r).2 = m₁ := congrArg Prod.snd first
    by_cases hr : r = .stop
    · subst hr
      obtain ⟨report, rfl, stopped⟩ := stop_of_serve first
      obtain ⟨empty, es, history, balance⟩ := orderly.stopped stopped
      obtain ⟨whole, pieces⟩ := ih rest (.refl empty)
      simp only [segments, next, Request.isStop, if_true, since_of_history history]
      refine ⟨?_, .cons balance pieces⟩
      rw [whole, history, List.flatten_cons, List.append_assoc]
    · have kept := (admitting_orderly s m₀).serve orderly hr
      rw [next] at kept
      have noStop : r.isStop = false := by
        cases r with
        | stop => exact absurd rfl hr
        | _ => rfl
      have drained : drains (a :: as) = drains as := by
        simp [drains, drained?_of_serve hr first]
      simp only [segments, next, noStop, drained]
      exact ih rest kept

/-! ## All pieces together -/

section Balance

variable {pieces : List (List Event)} {tss ds : List (List Ticket)} {q : List Ticket}

/-- All submissions are those that were started and those that were drained or are still queued. -/
lemma perm_of_balance
    (h : List.Forall₂ (fun es ts => submissions es = launches es ++ ts) pieces tss) :
    (submissions pieces.flatten).Perm (launches pieces.flatten ++ tss.flatten) := by
  induction h with
  | nil => exact .refl _
  | @cons es ts pieces tss balance _ ih =>
    simp only [List.flatten_cons, submissions_append, launches_append, balance]
    have swap : (ts ++ (launches pieces.flatten ++ tss.flatten)).Perm
        (launches pieces.flatten ++ (ts ++ tss.flatten)) := by
      rw [← List.append_assoc, ← List.append_assoc]
      exact List.perm_append_comm.append_right _
    rw [List.append_assoc, List.append_assoc]
    exact ((ih.append_left ts).trans swap).append_left _

/-- Of the submissions, those that are still queued are left when the others are taken away, in
their order. -/
lemma filter_of_balance {p : Ticket → Bool}
    (h : List.Forall₂ (fun es ts => submissions es = launches es ++ ts) pieces (ds ++ [q]))
    (gone : ∀ t ∈ launches pieces.flatten ++ ds.flatten, p t = false) (waits : ∀ t ∈ q, p t) :
    (submissions pieces.flatten).filter p = q := by
  induction ds generalizing pieces with
  | nil =>
    obtain ⟨es, pieces, balance, rest, rfl⟩ := List.forall₂_cons_right_iff.mp h
    obtain rfl := List.forall₂_nil_right_iff.mp rest
    simp only [List.flatten_cons, List.flatten_nil, List.append_nil] at gone ⊢
    rw [balance, List.filter_append, List.filter_eq_nil_iff.mpr (by simpa using gone),
      List.filter_eq_self.mpr waits, List.nil_append]
  | cons d ds ih =>
    obtain ⟨es, pieces, balance, rest, rfl⟩ := List.forall₂_cons_right_iff.mp h
    simp only [List.flatten_cons, launches_append, List.mem_append] at gone
    have started : (launches es).filter p = [] :=
      List.filter_eq_nil_iff.mpr fun t ht => by simp [gone t (.inl (.inl ht))]
    have drained : d.filter p = [] :=
      List.filter_eq_nil_iff.mpr fun t ht => by simp [gone t (.inr (.inl ht))]
    have others : ∀ t ∈ launches pieces.flatten ++ ds.flatten, p t = false := by
      intro t ht
      rcases List.mem_append.mp ht with ht | ht
      · exact gone t (.inl (.inr ht))
      · exact gone t (.inr (.inr ht))
    rw [List.flatten_cons, submissions_append, List.filter_append, ih rest others, balance,
      List.filter_append, started, drained, List.nil_append, List.nil_append]

end Balance

lemma submissions_of_past (es : List Event) (past : m'.past = es ++ m.past)
    (subs : submissions es.reverse = []) : submissions m'.history = submissions m.history := by
  rw [history, past, List.reverse_append, submissions_append, subs, List.append_nil, ← history]

/-- The submissions are numbered in the order in which they are made. -/
lemma abiding_numbered (s : Setup J E) :
    Abiding s fun _ (m : Manager J E) =>
      (submissions m.history).map (·.number) = List.range m.handles.length where
  lasting _ :=
    { happen := fun {m e} h news => by
        rw [submissions_of_past (m := m) [e] rfl
          (submissions_of_idle (by simpa using news.isTold.idle))]
        exact h
      advance := fun h step => by
        obtain ⟨es, past, subs, -, length⟩ := step.flow
        rw [submissions_of_past es past subs, length]
        exact h }
  pass h := h
  register {m} j h := by
    have subs : submissions (m.register s (m.nextTicket s j)).history =
        submissions m.history ++ [m.nextTicket s j] := by
      simp [history, register, submissions, Event.submission?]
    rw [subs, List.map_append, h]
    simp [register, nextTicket, List.range_succ]
  enqueue h := h
  depart h departed := by
    obtain ⟨es, past, idle⟩ := departed.idle
    have subs := submissions_of_idle fun e he => idle e (List.mem_reverse.mp he)
    rw [submissions_of_past es past subs, departed.handles]
    exact h
  finish {m m' o w e} h departed := by
    obtain ⟨es, past, idle⟩ := departed.idle
    have subs := submissions_of_idle fun e he => idle e (List.mem_reverse.mp he)
    have finished : submissions (m'.finish s o e).2.history = submissions m'.history :=
      submissions_of_past [.moved (m'.finish s o e).1] rfl
        (submissions_of_idle (by simpa using idle_moved (by simp [Manager.finish])))
    rw [finished, submissions_of_past es past subs]
    simpa [Manager.finish, enter, departed.handles] using h
  drain h := h

/-! ## Putting jobs back -/

/-- A submission waits behind those that wait already. A sink that calls back may start some of
these before. -/
lemma queue_submit (s : Setup J E) (m : Manager J E) (j : J) :
    ∃ q, (m.submit s j).2.queue = q ++ [⟨m.nextTicket s j, j⟩] ∧ q <:+ m.queue ∧
      (s.Passive → q = m.queue) := by
  have suffix := (lasting_suffix s m.queue).announce
    (m := m.register s (m.nextTicket s j)) (List.suffix_refl _) ⟨m.nextTicket s j, .queued, none⟩
  refine ⟨_, rfl, suffix, ?_⟩
  intro passive
  rw [announce_eq_publish passive]
  obtain ⟨es, informed⟩ := informed_publish s (m.register s (m.nextTicket s j))
    ⟨m.nextTicket s j, .queued, none⟩
  exact informed.queue

/-- A stop drains what is left of the queue once the sink has been told of the end of the job in the
slot. -/
lemma Stopped.drained_suffix {r : Report J} (h : Stopped s m r m') : r.drained <:+ m.queue := by
  cases h with
  | idle free => exact List.suffix_refl _
  | @ended o e es x m₁ m₂ m₃ held signalled awaited noPanic announced last =>
    have queue : (m₂.finish s o e).2.queue = m.queue :=
      awaited.queue.trans signalled.queue
    have suffix := (lasting_suffix s m.queue).announce (m := (m₂.finish s o e).2)
      (queue ▸ List.suffix_refl _) (m₂.finish s o e).1
    rw [← announced] at suffix
    exact suffix

/-- The jobs that wait are known by their own identities. -/
lemma abiding_named (s : Setup J E) :
    Abiding s fun arriving (m : Manager J E) =>
      ∀ w ∈ m.queue ++ arriving, w.ticket.id = s.kind.id w.job where
  lasting arriving :=
    { happen := fun h _ => h
      advance := fun h step w hw => h w <| by
        rcases List.mem_append.mp hw with hw | hw
        · exact List.mem_append_left _ (step.queue_suffix.subset hw)
        · exact List.mem_append_right _ hw }
  pass h := h
  register {m} j h := by
    intro w hw
    rcases List.mem_append.mp hw with hw | hw
    · exact h w (List.mem_append_left _ hw)
    · rw [List.mem_singleton.mp hw]
      rfl
  enqueue h := by simpa [enqueue] using h
  depart h departed := by
    rw [departed.queue]
    exact h
  finish {m m' o w e} h departed := by
    rw [show (m'.finish s o e).2.queue = m.queue from departed.queue]
    exact h
  drain h := by simp

/-- A job that waits, with its identity. -/
def Waiting.entry (w : Waiting J) : JobId × J := (w.ticket.id, w.job)

/-- Jobs that are submitted one after the other wait in that order. -/
lemma entries_resubmit (s : Setup J E) (m : Manager J E) (js : List J) :
    (m.after s (js.map .submit)).queue.map Waiting.entry <:+
        m.queue.map Waiting.entry ++ js.map (fun j => (s.kind.id j, j)) ∧
      (s.Passive → (m.after s (js.map .submit)).queue.map Waiting.entry =
        m.queue.map Waiting.entry ++ js.map fun j => (s.kind.id j, j)) := by
  induction js generalizing m with
  | nil => simp [after]
  | cons j js ih =>
    obtain ⟨q, queue, suffix, same⟩ := queue_submit s m j
    have first : (m.submit s j).2.queue.map Waiting.entry =
        q.map Waiting.entry ++ [(s.kind.id j, j)] := by
      rw [queue, List.map_append]
      rfl
    obtain ⟨rest, rest'⟩ := ih (m.submit s j).2
    rw [first, List.append_assoc] at rest rest'
    change (after s (m.submit s j).2 (js.map .submit)).queue.map Waiting.entry <:+ _ ∧
      (s.Passive → (after s (m.submit s j).2 (js.map .submit)).queue.map Waiting.entry = _)
    refine ⟨rest.trans ?_, ?_⟩
    · obtain ⟨l, hl⟩ := suffix
      exact ⟨l.map Waiting.entry, by rw [← hl, List.map_append, List.append_assoc]; rfl⟩
    · intro passive
      rw [rest' passive, same passive]
      rfl

/-- First in, first out, where the run of one caller is cut after each stop. In every piece the
submissions are those whose start was called, followed by those that the stop drained, or by those
that are still queued in the last piece, all in the order of submission, start and report. Each
submission has a number of its own, so none is started twice. What is queued are the submissions
that were neither started nor drained. Putting the jobs of a report back in its order restores the
queue that was drained; a sink that calls back may have started the first of them meanwhile. -/
theorem fifo_conservation {s : Setup J E} {env : E} {rs : List (Request J E)}
    {as : List (Answer J)} {m : Manager J E} (h : Served s (.fresh env) rs as m) :
    (m.history = (segments s (.fresh env) (.fresh env) rs).flatten ∧
      List.Forall₂ (fun es ts => submissions es = launches es ++ ts)
        (segments s (.fresh env) (.fresh env) rs) (drains as ++ [m.queue.map (·.ticket)])) ∧
      (submissions m.history).map (·.number) = List.range m.handles.length ∧
      (launches m.history).Nodup ∧
      m.queue.map (·.ticket) = (submissions m.history).filter
        (fun t => t ∉ launches m.history ∧ t ∉ (drains as).flatten) ∧
      m.queue.length + ((launches m.history).length + (drains as).flatten.length) =
        m.handles.length ∧
      ∀ r m', m.serve s .stop = (.ok (.report r), m') →
        let back := m'.after s (r.drained.map fun w => .submit w.job)
        back.queue.map Waiting.entry <:+ r.drained.map Waiting.entry ∧
          (s.Passive → back.queue.map Waiting.entry = r.drained.map Waiting.entry) := by
  obtain ⟨flat, pieces⟩ := segments_balance h (.refl rfl)
  have history : m.history = (segments s (.fresh env) (.fresh env) rs).flatten := flat
  have numbered : (submissions m.history).map (·.number) = List.range m.handles.length := by
    rw [h.eq_after]
    exact (abiding_numbered s).after rfl rs
  have perm := perm_of_balance pieces
  rw [← history, List.flatten_append, List.flatten_singleton] at perm
  -- no submission is made twice, so no two of the three parts share one
  have nodup : (submissions m.history).Nodup := by
    refine List.Nodup.of_map (·.number) ?_
    rw [numbered]
    exact List.nodup_range
  have parts := perm.nodup_iff.mp nodup
  rw [← List.append_assoc] at parts
  refine ⟨⟨history, pieces⟩, numbered, (List.nodup_append.mp (List.nodup_append.mp parts).1).1,
    ?_, ?_, ?_⟩
  · refine (history ▸ filter_of_balance pieces ?_ ?_).symm
    · intro t ht
      rw [← history] at ht
      rcases List.mem_append.mp ht with ht | ht <;> simp [ht]
    · intro t ht
      have apart := (List.nodup_append.mp parts).2.2
      have started : t ∉ launches m.history := fun hs =>
        apart t (List.mem_append_left _ hs) t ht rfl
      have drained : t ∉ (drains as).flatten := fun hd =>
        apart t (List.mem_append_right _ hd) t ht rfl
      simp [started, drained]
  · have total := perm.length_eq
    have length : (submissions m.history).length = m.handles.length := by
      simpa using congrArg List.length numbered
    simp only [List.length_append, List.length_map] at total
    omega
  · intro r m' stop
    obtain ⟨x, hx, stopped⟩ := stop_of_serve stop
    obtain rfl := Answer.report.inj hx
    have empty : m'.queue = [] := by cases stopped <;> rfl
    -- the drained jobs have kept their identities
    have named : ∀ w ∈ r.drained, w.ticket.id = s.kind.id w.job := by
      intro w hw
      have known := (abiding_named s).after (m := .fresh env) (by simp [Manager.fresh]) rs
      rw [← h.eq_after, List.append_nil] at known
      exact known w (stopped.drained_suffix.subset hw)
    have jobs : (r.drained.map (·.job)).map (fun j => (s.kind.id j, j)) =
        r.drained.map Waiting.entry := by
      rw [List.map_map]
      refine List.map_congr_left fun w hw => ?_
      simp [Waiting.entry, named w hw]
    have back := entries_resubmit s m' (r.drained.map (·.job))
    rw [jobs, List.map_map, empty, List.map_nil, List.nil_append] at back
    exact back

/-- Three jobs are submitted and the first is started when a stop comes. Then one of the drained
jobs is put back behind a job that completes, and a new one is submitted. -/
def shifts : List (Request Worker Host) :=
  [.submit (.endless 1), .submit (.endless 2), .submit (.endless 3), .work, .stop,
    .submit (.reporting 4 (.always (.ok (some .completed)))), .submit (.endless 3),
    .submit (.endless 5), .work, .work, .work]

/-- In `shifts` the stop drains the second and the third submission, and in the end the sixth is
queued, which is neither started nor drained. -/
theorem fifo_conservation_shifts :
    ∃ as, Served .bare (.fresh {}) shifts as (after .bare (.fresh {}) shifts) ∧
      drains as = [[⟨1, .ofNat 2, "scan"⟩, ⟨2, .ofNat 3, "scan"⟩]] ∧
      (segments .bare (.fresh {}) (.fresh {}) shifts).map launches =
        [[⟨0, .ofNat 1, "scan"⟩], [⟨3, .ofNat 4, "scan"⟩, ⟨4, .ofNat 3, "scan"⟩]] ∧
      (after .bare (.fresh {}) shifts).queue.map (·.ticket) = [⟨5, .ofNat 5, "scan"⟩] ∧
      List.Forall₂ (fun es ts => submissions es = launches es ++ ts)
        (segments .bare (.fresh {}) (.fresh {}) shifts)
        (drains as ++ [(after .bare (.fresh {}) shifts).queue.map (·.ticket)]) := by
  have complete : (Manager.answers .bare (.fresh {}) shifts).all (·.isOk) := by cbv
  obtain ⟨as, answers, served⟩ := served_of_answers complete
  have reports : (Manager.answers .bare (.fresh {}) shifts).filterMap
      (fun x => x.toOption.bind Answer.drained?) =
        [[⟨1, .ofNat 2, "scan"⟩, ⟨2, .ofNat 3, "scan"⟩]] := of_decide_eq_true (by cbv)
  refine ⟨as, served, ?_, of_decide_eq_true (by cbv), of_decide_eq_true (by cbv),
    (fifo_conservation served).1.2⟩
  rw [← reports, answers, List.filterMap_map]
  rfl

end Manager
end SerialJobs
