import SerialJobs.Proofs.Departure
import SerialJobs.Proofs.Records

/-!
# What becomes of a submission, and what is told of it

A submission is queued, then it runs and then it finishes, or it finishes at once because its start
failed. `Life` lists how far it can have come, with the transitions that were made and the handle at
that moment. Every submission has such a life at every moment, whatever the sink does
(`lifelong_chronicled`).

If the sink does not call back, then the sink and the audit log are told of all transitions, each
once and in their order, as soon as a request or the end of the manager is over
(`faithful_reporting`).
-/

namespace SerialJobs

/-! ## The life of one submission -/

/-- How far a submission with the ticket `t` has come: the transitions that it has made, in order,
and its handle. -/
inductive Life (t : Ticket) : List Transition → Handle → Prop
  | queued (queuedAt : Nat) :
      Life t [⟨t, .queued, none⟩] ⟨t.id, t.label, .queued, queuedAt, none, none⟩
  | running (queuedAt startedAt : Nat) :
      Life t [⟨t, .queued, none⟩, ⟨t, .running, none⟩]
        ⟨t.id, t.label, .running, queuedAt, some startedAt, none⟩
  | finished (queuedAt startedAt finishedAt : Nat) (e : Exit) (d : Duration) :
      Life t [⟨t, .queued, none⟩, ⟨t, .running, none⟩, ⟨t, .finished e, some d⟩]
        ⟨t.id, t.label, .finished e, queuedAt, some startedAt, some finishedAt⟩
  | startFailed (queuedAt finishedAt : Nat) (reason : String) :
      Life t [⟨t, .queued, none⟩, ⟨t, .finished (.startFailed reason), none⟩]
        ⟨t.id, t.label, .finished (.startFailed reason), queuedAt, none, some finishedAt⟩

namespace Life

variable {t u : Ticket} {ts : List Transition} {x : Handle}

/-- The transitions of a submission say whose it is. -/
lemma ticket_eq (h : Life t ts x) (h' : Life u ts x) : t = u := by
  have first : ∀ {v : Ticket}, Life v ts x → ts.head? = some ⟨v, .queued, none⟩ := by
    intro v h
    cases h <;> rfl
  simpa using (first h).symm.trans (first h')

lemma of_mem (h : Life t ts x) {v : Transition} (hv : v ∈ ts) :
    v.ticket = t ∧ x.id = t.id ∧ x.label = t.label := by
  cases h with
  | _ =>
    simp only [List.mem_cons, List.not_mem_nil, or_false] at hv
    rcases hv with rfl | rfl | rfl <;> exact ⟨rfl, rfl, rfl⟩

lemma start (h : Life t ts x) (hx : x.state = .queued) (now : Nat) :
    Life t (ts ++ [⟨t, .running, none⟩]) (x.enter .running now) := by
  cases h with
  | queued queuedAt => exact .running queuedAt now
  | _ => cases hx

lemma failStart (h : Life t ts x) (hx : x.state = .queued) (reason : String) (now : Nat) :
    Life t (ts ++ [⟨t, .finished (.startFailed reason), none⟩])
      (x.enter (.finished (.startFailed reason)) now) := by
  cases h with
  | queued queuedAt => exact .startFailed queuedAt now reason
  | _ => cases hx

lemma finish (h : Life t ts x) (hx : x.state = .running) (e : Exit) (d : Duration) (now : Nat) :
    Life t (ts ++ [⟨t, .finished e, some d⟩]) (x.enter (.finished e) now) := by
  cases h with
  | running queuedAt startedAt => exact .finished queuedAt startedAt now e d
  | _ => cases hx

lemma queued_mem (h : Life t ts x) : ⟨t, .queued, none⟩ ∈ ts := by
  cases h <;> exact List.mem_cons_self

/-- A submission that has finished makes no further transition. -/
lemma eq_of_isPrefix {us : List Transition} {y : Handle} {e : Exit} (h : Life t ts x)
    (hx : x.state = .finished e) (h' : Life u us y) (hp : ts <+: us) : ts = us := by
  refine hp.eq_of_length_le ?_
  cases h with
  | queued => cases hx
  | running => cases hx
  | finished => cases h' <;> simp
  | startFailed =>
    cases h' with
    | finished => simp [List.cons_prefix_cons] at hp
    | _ => simp

end Life

lemma Event.IsNews.transition?_eq_none {e : Event} (h : e.IsNews) : e.transition? = none := by
  cases e with
  | moved t => exact absurd h id
  | _ => rfl

namespace Manager

variable {J E : Type} {s : Setup J E} {m m' : Manager J E}

/-- A job that departs enters no state yet. -/
lemma Departed.adds {o : Occupant J} {w : Option WaitOutcome} {e : Exit}
    (h : Departed s m o w e m') : Adds [] [] [] m m' := by
  obtain ⟨ns, es, remarks, past, last, hns, hremarks⟩ := h.past
  have told : ∀ {l : List Event}, (∀ x ∈ l, x.IsRemark) → ∀ x ∈ l, x.Silent := fun h x hx =>
    (h x hx).isLogged.silent
  have waited : ∀ x ∈ waitCall o.ticket w, x.Silent := by
    intro x hx
    obtain ⟨x, rfl⟩ := eq_of_mem_waitCall hx
    exact ⟨rfl, rfl, rfl⟩
  refine .silent _ past (List.forall_mem_append.mpr ⟨List.forall_mem_append.mpr ⟨?_, ?_⟩,
    told hremarks⟩)
  · exact List.forall_mem_append.mpr ⟨told hns, waited⟩
  · cases last with
    | before hp delivered => simp
    | delivered hnot ok => simpa using ⟨⟨rfl, rfl, rfl⟩, ⟨rfl, rfl, rfl⟩⟩
    | inVain hnot failed => simpa using ⟨⟨rfl, rfl, rfl⟩, ⟨rfl, rfl, rfl⟩, ⟨rfl, rfl, rfl⟩⟩

/-- The job that has departed is finished. -/
lemma Departed.adds_finish {o : Occupant J} {w : Option WaitOutcome} {e : Exit}
    (h : Departed s m o w e m') :
    Adds [(m'.finish s o e).1] [] [] m (m'.finish s o e).2 :=
  h.adds.trans (Manager.adds_finish s o e m')

/-- The transitions of a submission, in order. -/
def transitionsOf (m : Manager J E) (n : Nat) : List Transition :=
  m.transitions.filter (·.ticket.number = n)

/-- The states that the handle of a submission has entered, in order. -/
def course (m : Manager J E) (n : Nat) : List JobState := statesOf m.transitions n

/-- There is a submission with this ticket, and it has come as far as its handle says. -/
def Lives (m : Manager J E) (t : Ticket) : Prop :=
  ∃ x, m.handles[t.number]? = some x ∧ Life t (m.transitionsOf t.number) x

/-- A handle enters a state: the submission gets on, and the others stay as they are. -/
lemma Lives.enter {u : Ticket} {st : JobState} {d : Option Duration} {now : Nat} (hu : Lives m u)
    (handles : m'.handles = m.handles.modify u.number (·.enter st now))
    (transitions : m'.transitions = m.transitions ++ [⟨u, st, d⟩])
    (step : ∀ ts x, m.handles[u.number]? = some x → Life u ts x →
      Life u (ts ++ [⟨u, st, d⟩]) (x.enter st now)) {t : Ticket} (h : Lives m t) : Lives m' t := by
  obtain ⟨x, hx, life⟩ := h
  rcases eq_or_ne t.number u.number with hn | hn
  · obtain ⟨y, hy, life'⟩ := hu
    obtain rfl : x = y := by
      rw [hn, hy] at hx
      exact (Option.some.inj hx).symm
    rw [hn] at life
    obtain rfl := life.ticket_eq life'
    refine ⟨x.enter st now, by simp [handles, hx], ?_⟩
    have ts : m'.transitionsOf t.number = m.transitionsOf t.number ++ [⟨t, st, d⟩] := by
      simp [transitionsOf, transitions]
    rw [ts]
    exact step _ x hx life
  · have ts : m'.transitionsOf t.number = m.transitionsOf t.number := by
      simp [transitionsOf, transitions, hn.symm]
    refine ⟨x, ?_, ts ▸ life⟩
    rw [handles, List.getElem?_modify_ne _ _ hn.symm]
    exact hx

/-- Every submission lives, and those in the queue, on their way to it and in the slot are known by
their tickets. -/
structure Chronicled (arriving : List (Waiting J)) (m : Manager J E) : Prop where
  placed : ∃ out, Placed m arriving out
  lives : ∀ n < m.handles.length, ∃ t, t.number = n ∧ Lives m t
  waiting : ∀ w ∈ m.queue ++ arriving, Lives m w.ticket
  held : ∀ o, m.slot = some o → Lives m o.ticket
  known : ∀ t ∈ m.transitions, t.ticket.number < m.handles.length

namespace Chronicled

variable {arriving : List (Waiting J)}

lemma fresh (env : E) : Chronicled [] (.fresh env : Manager J E) where
  placed := ⟨[], .fresh env⟩
  lives := by simp [Manager.fresh]
  waiting := by simp [Manager.fresh]
  held := by simp [Manager.fresh]
  known := by simp [Manager.fresh, transitions, history]

/-- No handle enters a state, and the submissions in the queue and in the slot are some of those
before. -/
lemma retain (h : Chronicled arriving m) {arriving' : List (Waiting J)}
    (placed : ∃ out, Placed m' arriving' out) (handles : m'.handles = m.handles)
    (transitions : m'.transitions = m.transitions)
    (waiting : ∀ w ∈ m'.queue ++ arriving', w ∈ m.queue ++ arriving)
    (slot : ∀ t ∈ m'.slot.map (·.ticket), t ∈ m.slot.map (·.ticket)) : Chronicled arriving' m' := by
  have same : ∀ {t : Ticket}, Lives m t → Lives m' t := by
    intro t ht
    simpa only [Lives, transitionsOf, handles, transitions] using ht
  constructor
  · exact placed
  · intro n hn
    rw [handles] at hn
    obtain ⟨t, ht, lives⟩ := h.lives n hn
    exact ⟨t, ht, same lives⟩
  · exact fun w hw => same (h.waiting w (waiting w hw))
  · intro o ho
    obtain ⟨o', ho', hticket⟩ := Option.map_eq_some_iff.mp (slot o.ticket (by simp [ho]))
    exact hticket ▸ same (h.held o' ho')
  · rw [transitions, handles]
    exact h.known

lemma congr (h : Chronicled arriving m) (alike : Alike m m')
    (transitions : m'.transitions = m.transitions) : Chronicled arriving m' :=
  h.retain (h.placed.imp fun _ placed => placed.congr alike) alike.handles transitions
    (fun _ hw => alike.queue ▸ hw) (fun _ ht => alike.slot ▸ ht)

/-- A handle enters a state, and no submission gets to another place but that one. -/
lemma enter (h : Chronicled arriving m) {u : Ticket} {st : JobState} {d : Option Duration}
    {now : Nat} (hu : Lives m u) (placed : ∃ out, Placed m' arriving out)
    (handles : m'.handles = m.handles.modify u.number (·.enter st now))
    (transitions : m'.transitions = m.transitions ++ [⟨u, st, d⟩])
    (step : ∀ ts x, m.handles[u.number]? = some x → Life u ts x →
      Life u (ts ++ [⟨u, st, d⟩]) (x.enter st now))
    (queue : ∀ w ∈ m'.queue, w ∈ m.queue)
    (slot : ∀ o, m'.slot = some o → o.ticket = u ∨ m.slot = some o) : Chronicled arriving m' := by
  have onward : ∀ {t : Ticket}, Lives m t → Lives m' t := hu.enter handles transitions step
  have length : m'.handles.length = m.handles.length := by simp [handles]
  constructor
  · exact placed
  · intro n hn
    obtain ⟨t, ht, lives⟩ := h.lives n (length ▸ hn)
    exact ⟨t, ht, onward lives⟩
  · intro w hw
    refine onward (h.waiting w ?_)
    exact (List.mem_append.mp hw).elim (fun hw => List.mem_append_left _ (queue w hw))
      (List.mem_append_right _)
  · intro o ho
    rcases slot o ho with rfl | ho
    · exact onward hu
    · exact onward (h.held o ho)
  · rw [transitions, length, List.forall_mem_append, List.forall_mem_singleton]
    obtain ⟨x, hx, -⟩ := hu
    exact ⟨h.known, (List.getElem?_eq_some_iff.mp hx).1⟩

/-- A locked section takes one submission a step on at most. -/
lemma advance (h : Chronicled arriving m) {d : Option Transition} (step : Advance s m d m') :
    Chronicled arriving m' := by
  obtain ⟨out, placed⟩ := h.placed
  have placed' : ∃ out, Placed m' arriving out := ⟨out, placed.advance step⟩
  have transitions := step.adds.transitions
  -- the state that the places give is that of the handle
  have state : ∀ {n : Nat} {st : JobState} {x : Handle}, m.state? n = some st →
      m.handles[n]? = some x → x.state = st := by
    intro n st x hst hx
    simpa [state?, hx] using hst
  cases step with
  | rest es slot queue handles past told =>
    exact h.congr ⟨by rw [slot], queue, handles⟩ (transitions.trans (List.append_nil _))
  | kept held next slot queue handles past attends =>
    exact h.congr ⟨by rw [slot, held]; rfl, queue, handles⟩
      (transitions.trans (List.append_nil _))
  | @started w ws j n m' es free head slot queue handles past told =>
    refine h.enter (h.waiting w (by simp [head])) placed' handles transitions ?_ ?_ ?_
    · intro ts x hx life
      exact life.start (state (placed.queued_head head) hx) n
    · intro v hv
      exact head ▸ List.mem_cons_of_mem w (queue ▸ hv)
    · intro o ho
      obtain rfl := Option.some.inj (slot.symm.trans ho)
      exact .inl rfl
  | @startFailed w ws x reason n m' es free head slot queue handles past failed told =>
    refine h.enter (h.waiting w (by simp [head])) placed' handles transitions ?_ ?_ ?_
    · intro ts x hx life
      exact life.failStart (state (placed.queued_head head) hx) reason n
    · intro v hv
      exact head ▸ List.mem_cons_of_mem w (queue ▸ hv)
    · intro o ho
      simp [slot] at ho
  | @released o e x d es n m' held slot queue handles past attends exited =>
    refine h.enter (h.held o held) placed' handles transitions ?_ ?_ ?_
    · intro ts x hx life
      exact life.finish (state (placed.running held) hx) e d n
    · intro v hv
      exact queue ▸ hv
    · intro o ho
      simp [slot] at ho

/-- A new submission is queued. -/
lemma register (h : Chronicled [] m) (j : J) :
    Chronicled [⟨m.nextTicket s j, j⟩] (m.register s (m.nextTicket s j)) := by
  set t := m.nextTicket s j with ht
  have number : t.number = m.handles.length := rfl
  have transitions : (m.register s t).transitions = m.transitions ++ [⟨t, .queued, none⟩] :=
    (adds_register s m t).transitions
  have length : (m.register s t).handles.length = m.handles.length + 1 := by
    simp [Manager.register]
  have old : ∀ {u : Ticket}, Lives m u → Lives (m.register s t) u := by
    rintro u ⟨x, hx, life⟩
    have hlt := (List.getElem?_eq_some_iff.mp hx).1
    have ts : (m.register s t).transitionsOf u.number = m.transitionsOf u.number := by
      simp [transitionsOf, transitions, number, hlt.ne']
    refine ⟨x, ?_, ts ▸ life⟩
    rw [Manager.register, List.getElem?_append_left hlt]
    exact hx
  have new : Lives (m.register s t) t := by
    have none : m.transitionsOf t.number = [] := by
      rw [transitionsOf, List.filter_eq_nil_iff]
      intro u hu
      simpa [number] using (h.known u hu).ne
    refine ⟨.fresh t.id t.label (m.now s), by simp [Manager.register, number], ?_⟩
    have ts : (m.register s t).transitionsOf t.number = [⟨t, .queued, .none⟩] := by
      rw [transitionsOf, transitions, List.filter_append]
      simpa [transitionsOf] using none
    rw [ts]
    exact .queued _
  constructor
  · exact h.placed.imp fun out placed => placed.register j number
  · intro n hn
    rcases Nat.lt_succ_iff_lt_or_eq.mp (length ▸ hn) with hn | rfl
    · obtain ⟨u, hu, lives⟩ := h.lives n hn
      exact ⟨u, hu, old lives⟩
    · exact ⟨t, number, new⟩
  · intro w hw
    rcases List.mem_append.mp hw with hw | hw
    · exact old (h.waiting w (List.mem_append_left _ hw))
    · rw [List.mem_singleton.mp hw]
      exact new
  · exact fun o ho => old (h.held o ho)
  · rw [transitions, length, List.forall_mem_append, List.forall_mem_singleton]
    exact ⟨fun u hu => Nat.lt_succ_of_lt (h.known u hu), number ▸ Nat.lt_succ_self _⟩

lemma depart (h : Chronicled [] m) {o : Occupant J} {w : Option WaitOutcome} {e : Exit}
    (departed : Departed s m o w e m') : Chronicled [] m' :=
  h.retain (h.placed.elim fun _ placed => ⟨_, departed.placed placed⟩) departed.handles
    (departed.adds.transitions.trans (List.append_nil _)) (fun _ hw => departed.queue ▸ hw)
    (by simp [departed.slot])

/-- A job that was taken out of the slot is finished. -/
lemma finish (h : Chronicled [] m) {o : Occupant J} {w : Option WaitOutcome} {e : Exit}
    (departed : Departed s m o w e m') : Chronicled [] (m'.finish s o e).2 := by
  obtain ⟨out, placed⟩ := h.placed
  have placed' := departed.placed placed
  have lives : Lives m' o.ticket := by
    have ts := departed.adds.transitions.trans (List.append_nil _)
    simpa only [Lives, transitionsOf, departed.handles, ts] using h.held o departed.held
  refine (h.depart departed).enter lives ⟨out, Placed.finish (a := []) placed' e⟩ rfl
    (adds_finish s o e m').transitions ?_ (fun _ hw => hw) (fun _ ho => .inr ho)
  intro ts x hx life
  have running : m'.state? o.ticket.number = some .running :=
    (placed'.running_iff _).mpr (by simp [busy])
  exact life.finish (by simpa [state?, hx] using running) e _ _

end Chronicled

/-- Every submission has one of the lives, after any requests and the end of the manager. -/
lemma lifelong_chronicled (s : Setup J E) :
    Lifelong s (Chronicled (J := J) (E := E)) where
  lasting _ :=
    { happen := fun h he => h.congr ⟨rfl, rfl, rfl⟩ (by
        simp [transitions, history, happen, he.transition?_eq_none])
      advance := fun h step => h.advance step }
  pass {arriving m env} h := h.congr ⟨rfl, rfl, rfl⟩ rfl
  register j h := h.register j
  enqueue {m w} h := h.retain (h.placed.imp fun _ placed => Placed.enqueue (a := []) placed) rfl rfl
    (by simp [enqueue]) (fun _ ht => ht)
  depart h departed := h.depart departed
  finish h departed := h.finish departed
  ends h departed := h.finish departed
  drain {m} h := h.retain (h.placed.imp fun _ placed => placed.drain) rfl rfl (by simp)
    (fun _ ht => ht)

/-! ## Telling of all transitions -/

/-- The sink, if there is one, was told of all transitions, each once and in their order. -/
def Relayed (s : Setup J E) (m : Manager J E) : Prop :=
  s.sink.isSome → m.records = m.transitions.map Transition.record

namespace Relayed

variable {us : List Transition}

lemma silent (h : Relayed s m) (adds : Adds [] [] us m m') : Relayed s m' := fun sink => by
  rw [adds.records_eq, adds.transitions, List.append_nil, h sink]

/-- A transition is made and told. -/
lemma told (h : Relayed s m) {t : Transition}
    (adds : Adds [t] (s.sink.map fun _ => t.record).toList us m m') : Relayed s m' := fun sink => by
  obtain ⟨k, hk⟩ := Option.isSome_iff_exists.mp sink
  rw [adds.records, adds.transitions, h sink, hk, List.map_append]
  rfl

end Relayed

/-- The sink, if there is one, and the audit log were told of all transitions, each once and in
their order. -/
structure Balanced (s : Setup J E) (m : Manager J E) : Prop where
  records : s.sink.isSome → m.records = m.transitions.map Transition.record
  entries : List.Forall₂ Transition.ToldBy m.transitions m.entries

namespace Balanced

lemma silent (h : Balanced s m) (adds : Adds [] [] [] m m') : Balanced s m' where
  records := Relayed.silent h.records adds
  entries := by
    obtain ⟨es, entries, told⟩ := adds.entries
    rw [adds.transitions, entries]
    exact List.rel_append h.entries told

/-- A transition is made and told. -/
lemma told (h : Balanced s m) {t : Transition}
    (adds : Adds [t] (s.sink.map fun _ => t.record).toList [t] m m') : Balanced s m' where
  records := Relayed.told h.records adds
  entries := by
    obtain ⟨es, entries, told⟩ := adds.entries
    rw [adds.transitions, entries]
    exact List.rel_append h.entries told

/-- A transition is made and then announced to a sink that does not call back. -/
lemma announce (h : Balanced s m) (passive : s.Passive) {t : Transition}
    (moved : Adds [t] [] [] m m') : Balanced s (m'.announce s t) := by
  rw [announce_eq_publish passive]
  exact h.told (moved.trans (adds_publish s m' t))

lemma announceDue {α : Type} (h : Balanced s m) (passive : s.Passive) {r : Section J E α}
    (step : Advance s m r.due r.manager) : Balanced s (announceDue s r) := by
  have adds := step.adds
  unfold Manager.announceDue
  split
  next hd =>
    rw [hd] at adds
    exact h.silent adds
  next t hd =>
    rw [hd] at adds
    exact h.announce passive adds

lemma submit (h : Balanced s m) (passive : s.Passive) (j : J) : Balanced s (m.submit s j).2 := by
  have ha := h.announce passive (t := ⟨m.nextTicket s j, .queued, none⟩)
    (adds_register s m (m.nextTicket s j))
  exact ha.silent (.silent [.noted (.jobQueued ..)] rfl (by simpa using ⟨rfl, rfl, rfl⟩))

lemma work (h : Balanced s m) (passive : s.Passive) : Balanced s (m.work s).2 :=
  h.announceDue passive (advance_tickSection s m)

lemma iterate (h : Balanced s m) (passive : s.Passive) (l : Loop) :
    Balanced s (Service.iterate s l m).2 := by
  have passed : Balanced s { m with env := s.kind.moment m.env } := h.silent (.same rfl)
  have worked := passed.work passive
  rcases hr : ({ m with env := s.kind.moment m.env } : Manager J E).work s with ⟨k, m'⟩
  rw [hr] at worked
  simp only [Service.iterate, hr]
  split
  · exact worked.silent (.silent [.audited (.heartbeat _)] rfl (by simpa using ⟨rfl, rfl, rfl⟩))
  · exact worked

lemma stop (h : Balanced s m) (passive : s.Passive) : Balanced s (m.stop s).2 := by
  refine stop_keeps ?_ (fun _ => h) ?_ ?_
  · intro m' i n h
    exact h.silent (.silent [.noted (.stopped i n)] rfl (by simpa using ⟨rfl, rfl, rfl⟩))
  · intro o w e m' departed
    exact h.announce passive departed.adds_finish
  · intro o w e m' departed
    exact h.silent departed.adds

lemma serve (h : Balanced s m) (passive : s.Passive) (r : Request J E) :
    Balanced s (m.serve s r).2 := by
  cases r with
  | submit j => exact h.submit passive j
  | work => exact h.work passive
  | iterate l =>
    have hi := h.iterate passive l
    rcases hm : Service.iterate s l m with ⟨l', m'⟩
    simpa only [Manager.serve, hm] using hi
  | kill id c => exact h.announceDue passive (advance_killSection s m id c)
  | stop => exact h.stop passive
  | pass env => exact h.silent (.same rfl)

lemma drop (h : Balanced s m) : Balanced s (m.drop s) := by
  have dropped := dropped_drop s m
  generalize m.drop s = m' at dropped
  cases dropped with
  | idle free => exact h.silent (.same rfl)
  | ended departed =>
    have told := h.told (departed.adds_finish.trans (adds_announceLast s _ _))
    exact told.silent (.same rfl)

/-- After every request, and after the end of the manager, everyone has been told of everything. -/
theorem reached (h : Balanced s m) (passive : s.Passive) {rs : List (Request J E)}
    (reached : Reached s m rs m') : Balanced s m' := by
  have after : Balanced s (m.after s rs) := by
    clear reached
    induction rs using List.reverseRecOn with
    | nil => exact h
    | append_singleton rs r ih =>
      rw [after_append]
      exact ih.serve passive r
  cases reached with
  | after => exact after
  | dropped => exact after.drop

end Balanced

lemma lifelong_transitions (s : Setup J E) (m₀ : Manager J E) :
    Lifelong s fun _ (m : Manager J E) => m₀.transitions <+: m.transitions where
  lasting _ :=
    { happen := fun {m e} h he => by
        simpa [transitions, history, happen, he.transition?_eq_none] using h
      advance := fun h step => h.trans step.adds.isPrefix }
  pass h := h
  register j h := h.trans (adds_register ..).isPrefix
  enqueue h := h
  depart h departed := h.trans departed.adds.isPrefix
  finish h departed := h.trans departed.adds_finish.isPrefix
  ends h departed := h.trans departed.adds_finish.isPrefix
  drain h := h

/-! ## Reporting -/

/-- The event of the audit log is that of the transition, and it has a run time exactly if the job
has finished and had been running. -/
structure Logged (m : Manager J E) (t : Transition) (e : JobEvent) : Prop where
  id : e.id = t.ticket.id
  label : e.label = t.ticket.label
  state : e.state = t.state
  status : e.taskStatus = t.state.taskStatus
  runtime : e.runtimeMillis.isSome ↔
    (∃ x, t.state = .finished x) ∧ .running ∈ m.course t.ticket.number

/-- The handle tells truly how far its submission has come, and in which order. -/
structure Truthful (m : Manager J E) (n : Nat) (x : Handle) : Prop where
  course : (∃ e, m.course n <+: [.queued, .running, .finished e]) ∨
    ∃ reason, m.course n <+: [.queued, .finished (.startFailed reason)]
  state : (m.course n).getLast? = some x.state
  startedAt : x.startedAt.isSome ↔ .running ∈ m.course n
  finishedAt : x.finishedAt.isSome ↔ ∃ e, x.state = .finished e

/-- What a life shows in the handle, whose course it is. -/
lemma truthful_of_life {t : Ticket} {x : Handle} (h : Life t (m.transitionsOf t.number) x) :
    Truthful m t.number x := by
  have course : m.course t.number = (m.transitionsOf t.number).map (·.state) := rfl
  generalize m.transitionsOf t.number = ts at h course
  cases h with
  | queued queuedAt =>
    refine ⟨.inl ⟨.completed, course ▸ ⟨[.running, .finished .completed], rfl⟩⟩, ?_, ?_, ?_⟩ <;>
      simp [course]
  | running queuedAt startedAt =>
    refine ⟨.inl ⟨.completed, course ▸ ⟨[.finished .completed], rfl⟩⟩, ?_, ?_, ?_⟩ <;>
      simp [course]
  | finished queuedAt startedAt finishedAt e d =>
    refine ⟨.inl ⟨e, course ▸ List.prefix_refl _⟩, ?_, ?_, ?_⟩ <;> simp [course]
  | startFailed queuedAt finishedAt reason =>
    refine ⟨.inr ⟨reason, course ▸ List.prefix_refl _⟩, ?_, ?_, ?_⟩ <;> simp [course]

/-- The event that the audit log was told of a transition of a submission. -/
lemma logged_of_life {t : Ticket} {x : Handle} (h : Life t (m.transitionsOf t.number) x)
    {u : Transition} (hu : u ∈ m.transitionsOf t.number) {e : JobEvent} (told : u.ToldBy e) :
    Logged m u e := by
  obtain ⟨time, rfl⟩ := told
  refine ⟨rfl, rfl, rfl, rfl, ?_⟩
  have number : u.ticket.number = t.number := by simpa using (List.mem_filter.mp hu).2
  have course : m.course u.ticket.number = (m.transitionsOf t.number).map (·.state) := by
    rw [number]
    rfl
  rw [course]
  generalize m.transitionsOf t.number = ts at h hu
  simp only [JobEvent.entered, Option.isSome_map]
  cases h with
  | _ =>
    simp only [List.mem_cons, List.not_mem_nil, or_false] at hu
    rcases hu with rfl | rfl | rfl <;> simp

/-- A submission that there was there is later on as well. -/
lemma Chronicled.lt_of_isPrefix {n : Nat} (h : Chronicled [] m) (h' : Chronicled [] m')
    (hp : m.transitions <+: m'.transitions) (hn : n < m.handles.length) :
    n < m'.handles.length := by
  obtain ⟨t, rfl, x, -, life⟩ := h.lives n hn
  have hp' : m.transitionsOf t.number <+: m'.transitionsOf t.number := hp.filter _
  exact h'.known _ (List.mem_filter.mp (hp'.subset life.queued_mem)).1

/-- A finished submission is finished later on as well, and by the same exit. -/
lemma finished_of_isPrefix {n : Nat} {e : Exit} (h : Chronicled [] m) (h' : Chronicled [] m')
    (hp : m.transitions <+: m'.transitions) (hn : m.state? n = some (.finished e)) :
    m'.state? n = some (.finished e) := by
  obtain ⟨x, hx, hxe⟩ := Option.map_eq_some_iff.mp hn
  have there : n < m.handles.length := (List.getElem?_eq_some_iff.mp hx).1
  obtain ⟨t, rfl, x', hx', life⟩ := h.lives n there
  obtain rfl := Option.some.inj (hx'.symm.trans hx)
  have hp' : m.transitionsOf t.number <+: m'.transitionsOf t.number := hp.filter _
  obtain ⟨u, hu, y, hy, life'⟩ := h'.lives t.number (h.lt_of_isPrefix h' hp there)
  rw [hu] at hy
  have same : m.course t.number = m'.course t.number :=
    congrArg (List.map Transition.state) (life.eq_of_isPrefix hxe (hu ▸ life') hp')
  have last := (truthful_of_life life).state
  rw [same, ← hu, (truthful_of_life life').state, hxe] at last
  rw [state?, hy, Option.map_some, last]

/-- Faithful reporting, with a sink that does not call back, after any requests and after the end of
the manager. Every handle tells truly how far its submission has come: its states are queued,
running and finished as far as they go, or queued and finished by a failed start; it has a time of
its start exactly if it was ever running, and a time of its end exactly if it is finished. What has
happened to a submission is never undone, and the exit of a finished one stays. The sink's records,
and the events of the audit log, are those of all transitions, each once and in their order, and an
event has a run time exactly if it is the end of a job that had been running. -/
theorem faithful_reporting (passive : s.Passive) (env : E) {rs : List (Request J E)}
    (run : Reached s (.fresh env) rs m) :
    (∀ n x, m.handles[n]? = some x → Truthful m n x) ∧
      (∀ rs₁ rs₂ n, rs = rs₁ ++ rs₂ → (after s (.fresh env) rs₁).course n <+: m.course n ∧
        ∀ e, (after s (.fresh env) rs₁).state? n = some (.finished e) →
          m.state? n = some (.finished e)) ∧
      (∀ t ∈ m.transitions, ∃ x, m.handles[t.ticket.number]? = some x ∧ x.id = t.ticket.id ∧
        x.label = t.ticket.label) ∧
      (s.sink.isSome → m.records = m.transitions.map Transition.record) ∧
      List.Forall₂ (Logged m) m.transitions m.entries := by
  have hm := (lifelong_chronicled s).reached (.fresh env) run
  have balanced : Balanced s m := Balanced.reached ⟨fun _ => rfl, .nil⟩ passive run
  -- the handle with the given number, and the life of its submission
  have life : ∀ n x, m.handles[n]? = some x →
      ∃ t, t.number = n ∧ Life t (m.transitionsOf n) x := by
    intro n x hx
    obtain ⟨t, rfl, y, hy, life⟩ := hm.lives n (List.getElem?_eq_some_iff.mp hx).1
    obtain rfl := Option.some.inj (hy.symm.trans hx)
    exact ⟨t, rfl, life⟩
  refine ⟨?_, ?_, ?_, balanced.records, ?_⟩
  · intro n x hx
    obtain ⟨t, rfl, life⟩ := life n x hx
    exact truthful_of_life life
  · rintro rs₁ rs₂ n rfl
    have earlier := (lifelong_chronicled s).after (.fresh env) rs₁
    have hp := (lifelong_transitions s _).reached (List.prefix_refl _) run.of_append
    exact ⟨(hp.filter _).map _, fun e => finished_of_isPrefix earlier hm hp⟩
  · intro u hu
    obtain ⟨t, ht, x, hx, life⟩ := hm.lives u.ticket.number (hm.known u hu)
    obtain ⟨ticket, id, label⟩ := life.of_mem (List.mem_filter.mpr ⟨hu, by simp [ht]⟩)
    rw [ht] at hx
    rw [ticket]
    exact ⟨x, ticket ▸ hx, id, label⟩
  · have lives : ∀ u ∈ m.transitions, ∀ e, u.ToldBy e → Logged m u e := by
      intro u hu e told
      obtain ⟨t, ht, x, hx, life⟩ := hm.lives u.ticket.number (hm.known u hu)
      exact logged_of_life life (List.mem_filter.mpr ⟨hu, by simp [ht]⟩) told
    exact ((List.forall₂_and_left _ _).mpr ⟨lives, balanced.entries⟩).imp fun u e h => h.1 e h.2

/-- Workers, and a sink that does not call back. -/
def attentive : Setup Worker Host := { Setup.bare with sink := some .silent }

/-- A job completes, another one is killed by a caller, and a third one is started. -/
def variety : List (Request Worker Host) :=
  [.submit (.reporting 1 (.always (.ok (some .completed)))),
    .submit (.reporting 2 (.always (.ok (some .completed)))), .submit (.endless 3), .work, .work,
    .work, .kill (.ofNat 2) .cancel, .work]

/-- After `variety` the manager ends. The sink was told of nine transitions of three submissions. -/
theorem faithful_reporting_variety : attentive.Passive ∧
    (((after attentive (.fresh {}) variety).drop attentive).course 0 =
        [.queued, .running, .finished .completed] ∧
      ((after attentive (.fresh {}) variety).drop attentive).course 1 =
        [.queued, .running, .finished (.killed .cancel)] ∧
      ((after attentive (.fresh {}) variety).drop attentive).course 2 =
        [.queued, .running, .finished (.killed .shutdown)]) ∧
      ((after attentive (.fresh {}) variety).drop attentive).records.length = 9 ∧
      ((after attentive (.fresh {}) variety).drop attentive).records =
        ((after attentive (.fresh {}) variety).drop attentive).transitions.map
          Transition.record := by
  have passive : attentive.Passive := by
    rintro k ⟨⟩ past r
    rfl
  have run : Reached attentive (.fresh {}) variety
    ((after attentive (.fresh {}) variety).drop attentive) := .dropped
  obtain ⟨-, -, -, records, -⟩ := faithful_reporting passive {} run
  refine ⟨passive, ⟨?_, ?_, ?_⟩, ?_, records rfl⟩ <;> exact of_decide_eq_true (by cbv)

end Manager
end SerialJobs
