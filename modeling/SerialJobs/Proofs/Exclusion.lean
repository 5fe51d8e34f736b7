import Mathlib.Data.List.Basic
import SerialJobs.Proofs.Course

/-!
# One worker at a time

A worker that was started is released when its status check reports an exit, or when a stop has
waited for it and finished it. No start is called while an earlier worker is not released. The
reason is that such a worker's job holds the slot (`Guarded.holder`), which every locked section
keeps although it takes the job out of the slot and puts it back; `guarded_of_served` has it for
every course of requests, whatever the jobs and the sink do.
-/

namespace SerialJobs

/-- A job is called. -/
def Event.isCall : Event → Bool
  | .call _ _ => true
  | _ => false

/-- A start is called. -/
def Event.IsStart : Event → Prop
  | .call _ (.start _) => True
  | _ => False

lemma Event.Attends.not_isStart {e : Event} {t : Ticket} (h : e.Attends t) : ¬ e.IsStart := by
  cases e with
  | call u x =>
    cases x with
    | start o => exact absurd h id
    | _ => exact id
  | _ => exact id

lemma Event.IsTold.not_isStart {e : Event} (h : e.IsTold) : ¬ e.IsStart := by
  cases e with
  | call u x => exact absurd h id
  | _ => exact id

namespace History

/-- In the course of these events the worker of the submission is known to be gone: it has reported
an exit, or a stop, which alone waits for a worker, has waited for it and finished it. -/
def Releases (es : List Event) (t : Ticket) : Prop :=
  (∃ x, .call t (.tryExit (.ok (some x))) ∈ es) ∨
    ∃ w e d, List.Sublist [.call t (.wait w), .moved ⟨t, .finished e, d⟩] es

/-- The worker of the submission was started and is not released. -/
def Holds (h : List Event) (t : Ticket) : Prop :=
  ∃ a b, h = a ++ .call t (.start (.ok ())) :: b ∧ ¬ Releases b t

/-- Whenever a start is called, every worker started before is released. -/
def Exclusive (h : List Event) : Prop :=
  ∀ a b c t u o, h = a ++ .call t (.start (.ok ())) :: b ++ .call u (.start o) :: c → Releases b t

lemma Releases.mono {es es' : List Event} {t : Ticket} (h : Releases es t)
    (hs : List.Sublist es es') : Releases es' t := by
  rcases h with ⟨x, hx⟩ | ⟨w, e, d, hw⟩
  · exact .inl ⟨x, hs.subset hx⟩
  · exact .inr ⟨w, e, d, hw.trans hs⟩

/-- A worker that holds on after further events held on before, or they started it. -/
lemma Holds.of_append {h l : List Event} {t : Ticket} (hh : Holds (h ++ l) t) :
    (Holds h t ∧ ¬ Releases l t) ∨ .call t (.start (.ok ())) ∈ l := by
  obtain ⟨a, b, eq, hb⟩ := hh
  rcases append_eq_split eq with ⟨b', rfl, rfl⟩ | ⟨a', rfl, rfl⟩
  · refine .inl ⟨⟨a, b', rfl, ?_⟩, ?_⟩
    · intro hr
      exact hb (hr.mono (List.sublist_append_left _ _))
    · intro hr
      exact hb (hr.mono (List.sublist_append_right _ _))
  · exact .inr (by simp)

lemma Exclusive.append {h l : List Event} (hh : Exclusive h) (hl : ∀ e ∈ l, ¬ e.IsStart) :
    Exclusive (h ++ l) := by
  intro a b c t u o eq
  -- the second of the two starts is among the old events, for there is none among the new ones
  rcases append_eq_split eq with ⟨c', eq', rfl⟩ | ⟨a', rfl, -⟩
  · exact hh a b c' t u o eq'
  · exact absurd trivial (hl (.call u (.start o)) (by simp))

/-- A start may be called when no worker holds on. -/
lemma Exclusive.start {h : List Event} (hh : Exclusive h) (free : ∀ t, ¬ Holds h t) (u : Ticket)
    (o : Outcome Unit) : Exclusive (h ++ [.call u (.start o)]) := by
  intro a b c t v o' eq
  rcases append_eq_split eq with ⟨c', eq', rfl⟩ | ⟨a', hl, ha⟩
  · exact hh a b c' t v o' eq'
  · obtain ⟨rfl, -⟩ | ⟨-, h'⟩ := List.append_eq_singleton_iff.mp hl.symm
    · rw [List.append_nil] at ha
      by_contra hb
      exact free t ⟨a, b, ha.symm, hb⟩
    · simp at h'

end History

namespace Manager

open History

variable {J E : Type}

/-- No start was called too early, and a worker that is not released has its job in the slot. -/
structure Guarded (m : Manager J E) : Prop where
  past : Exclusive m.history
  holder : ∀ t, Holds m.history t → ∃ o, m.slot = some o ∧ o.ticket = t

lemma history_of_past {m m' : Manager J E} {es : List Event} (h : m'.past = es ++ m.past) :
    m'.history = m.history ++ es.reverse := by
  simp [history, h]

/-- Events without a start keep the slot guarded, as long as those jobs keep it whose workers are
not released. -/
lemma Guarded.extend {m m' : Manager J E} (h : Guarded m) (es : List Event)
    (past : m'.past = es ++ m.past) (hes : ∀ e ∈ es, ¬ e.IsStart)
    (slot : ∀ o, m.slot = some o → Releases es.reverse o.ticket ∨
      ∃ o', m'.slot = some o' ∧ o'.ticket = o.ticket) : Guarded m' where
  past := by
    rw [history_of_past past]
    exact h.past.append (by simpa using hes)
  holder t ht := by
    rw [history_of_past past] at ht
    rcases ht.of_append with ⟨ht, hr⟩ | ht
    · obtain ⟨o, ho, rfl⟩ := h.holder t ht
      exact (slot o ho).resolve_left hr
    · exact absurd trivial (hes _ (List.mem_reverse.mp ht))

/-- When the slot is free, a start may be called; if it succeeds the job has to get the slot. -/
lemma Guarded.start {m m' : Manager J E} {es : List Event} {u : Ticket} {x : Outcome Unit}
    (h : Guarded m) (free : m.slot = none) (past : m'.past = es ++ .call u (.start x) :: m.past)
    (hes : ∀ e ∈ es, ¬ e.IsStart)
    (slot : x = .ok () → ∃ o, m'.slot = some o ∧ o.ticket = u) : Guarded m' := by
  have hfree : ∀ t, ¬ Holds m.history t := by
    intro t ht
    obtain ⟨o, ho, -⟩ := h.holder t ht
    simp [free] at ho
  have hist : m'.history = m.history ++ [.call u (.start x)] ++ es.reverse := by
    simp [history, past]
  constructor
  · rw [hist]
    exact (h.past.start hfree u x).append (by simpa using hes)
  · -- a worker that holds on now held on before, which none did, or it was started just now
    intro t ht
    rw [hist] at ht
    rcases ht.of_append with ⟨ht, -⟩ | ht
    · rcases ht.of_append with ⟨ht, -⟩ | ht
      · exact absurd ht (hfree t)
      · simp only [List.mem_singleton, Event.call.injEq, Exchange.start.injEq] at ht
        obtain ⟨rfl, rfl⟩ := ht
        exact slot rfl
    · exact absurd trivial (hes _ (List.mem_reverse.mp ht))

lemma Guarded.advance {s : Setup J E} {m m' : Manager J E} {d : Option Transition} (h : Guarded m)
    (step : Advance s m d m') : Guarded m' := by
  cases step with
  | rest es slot queue handles past told =>
    refine h.extend es past (fun e he => (told e he).isTold.not_isStart) ?_
    intro o ho
    exact .inr ⟨o, by rw [slot, ho], rfl⟩
  | @started w ws j n m' es free head slot queue handles past told =>
    have hes : ∀ e ∈ es, ¬ e.IsStart := fun e he => (told e he).isTold.not_isStart
    exact h.start free past (List.forall_mem_cons.mpr ⟨id, hes⟩) fun _ => ⟨_, slot, rfl⟩
  | @startFailed w ws x reason n m' es free head slot queue handles past failed told =>
    have hes : ∀ e ∈ es, ¬ e.IsStart := fun e he => (told e he).isTold.not_isStart
    exact h.start free past (List.forall_mem_cons.mpr ⟨id, hes⟩) fun hx => absurd hx failed
  | @kept o j n p es m' held next slot queue handles past attends =>
    refine h.extend es past (fun e he => (attends e he).not_isStart) ?_
    intro o' ho
    obtain rfl : o = o' := Option.some.inj (held.symm.trans ho)
    exact .inr ⟨_, slot, rfl⟩
  | @released o e x d es n m' held slot queue handles past attends exited =>
    have hes : ∀ e ∈ es, ¬ e.IsStart := fun e he => (attends e he).not_isStart
    refine h.extend _ past (List.forall_mem_cons.mpr ⟨id, hes⟩) ?_
    intro o' ho
    obtain rfl : o = o' := Option.some.inj (held.symm.trans ho)
    exact .inl (.inl ⟨x, by simp [exited]⟩)

lemma enduring_guarded (s : Setup J E) : Enduring s (Guarded (J := J) (E := E)) where
  happen {m e} h he :=
    h.extend [e] rfl (by simpa using he.isTold.not_isStart) fun o ho => .inr ⟨o, ho, rfl⟩
  advance h step := h.advance step
  pass h := ⟨h.past, h.holder⟩
  register {m t} h :=
    h.extend [_] rfl (by simp [Event.IsStart]) fun o ho => .inr ⟨o, ho, rfl⟩
  enqueue h := ⟨h.past, h.holder⟩

/-- A stop that completes releases the worker of the job in the slot before it announces its end. -/
lemma Guarded.stopped {s : Setup J E} {m m' : Manager J E} {r : Report J} (h : Guarded m)
    (hs : Stopped s m r m') : Guarded m' := by
  cases hs with
  | idle free =>
    refine h.extend [_] rfl (by simp [Event.IsStart]) ?_
    intro o ho
    simp [free] at ho
  | @ended o e es x m₁ m₂ m₃ held signalled awaited noPanic announced =>
    obtain ⟨es', hes', told⟩ := awaited.past
    have hpast : (m₂.finish s o e).2.past =
        (.moved (m₂.finish s o e).1 :: es' ++ .call o.ticket (.wait x) :: es) ++ m.past := by
      simp only [finish, enter, hes', signalled.past, List.cons_append, List.append_assoc]
    -- what releases the worker is the wait and, after it, the end of the job
    have hfin : Guarded (m₂.finish s o e).2 := by
      refine h.extend _ hpast ?_ ?_
      · intro e' he'
        simp only [List.cons_append, List.mem_cons, List.mem_append] at he'
        rcases he' with rfl | he' | rfl | he'
        · exact id
        · exact (told e' he').isTold.not_isStart
        · exact id
        · exact (signalled.attends e' he').not_isStart
      · intro o' ho
        obtain rfl : o = o' := Option.some.inj (held.symm.trans ho)
        refine .inl (.inr ⟨x, e, some (.ofNanos (m₂.age s o)), ?_⟩)
        simp only [finish, List.cons_append, List.reverse_cons, List.reverse_append,
          List.append_assoc]
        refine List.Sublist.trans ?_ (List.sublist_append_right _ _)
        exact List.Sublist.cons_cons _ (List.sublist_append_right _ _)
    have hann : Guarded m₃ := announced ▸ (enduring_guarded s).announce hfin _
    exact hann.extend [_] rfl (by simp [Event.IsStart]) fun o ho => .inr ⟨o, ho, rfl⟩

lemma guarded_fresh (env : E) : Guarded (.fresh env : Manager J E) where
  past := by
    intro a b c t u o eq
    simp [history, fresh] at eq
  holder := by
    rintro t ⟨a, b, eq, -⟩
    simp [history, fresh] at eq

/-- The slot is guarded after every course of requests. -/
theorem guarded_of_served {s : Setup J E} {env : E} {rs : List (Request J E)}
    {as : List (Answer J)} {m : Manager J E} (h : Served s (.fresh env) rs as m) : Guarded m := by
  refine h.keeps (P := fun _ m => Guarded m) (guarded_fresh env) ?_
  intro as m r a m' hm hr
  exact (enduring_guarded s).serve hm hr fun _ _ hs => hm.stopped hs

/-- Since `m₀` the worker of the job with the ticket `t` has reported an exit, or that job has the
slot and no start was called. -/
def Blocks (t : Ticket) (m₀ m : Manager J E) : Prop :=
  ∃ es, m.history = m₀.history ++ es ∧
    ((∃ x, .call t (.tryExit (.ok (some x))) ∈ es) ∨
      (∃ o, m.slot = some o ∧ o.ticket = t) ∧ ∀ e ∈ es, ¬ e.IsStart)

lemma Blocks.extend {t : Ticket} {m₀ m m' : Manager J E} (h : Blocks t m₀ m) (es : List Event)
    (past : m'.past = es ++ m.past)
    (step : ∀ o, m.slot = some o → o.ticket = t → (∃ x, .call t (.tryExit (.ok (some x))) ∈ es) ∨
      (∃ o', m'.slot = some o' ∧ o'.ticket = t) ∧ ∀ e ∈ es, ¬ e.IsStart) : Blocks t m₀ m' := by
  obtain ⟨es₀, hist, h⟩ := h
  refine ⟨es₀ ++ es.reverse, by rw [history_of_past past, hist, List.append_assoc], ?_⟩
  rcases h with ⟨x, hx⟩ | ⟨⟨o, ho, ht⟩, hes₀⟩
  · exact .inl ⟨x, List.mem_append_left _ hx⟩
  · rcases step o ho ht with ⟨x, hx⟩ | ⟨hslot, hes⟩
    · exact .inl ⟨x, List.mem_append_right _ (List.mem_reverse.mpr hx)⟩
    · refine .inr ⟨hslot, List.forall_mem_append.mpr ⟨hes₀, ?_⟩⟩
      intro e he
      exact hes e (List.mem_reverse.mp he)

lemma Blocks.advance {s : Setup J E} {t : Ticket} {m₀ m m' : Manager J E} {d : Option Transition}
    (h : Blocks t m₀ m) (step : Advance s m d m') : Blocks t m₀ m' := by
  cases step with
  | rest es slot queue handles past told =>
    refine h.extend es past ?_
    intro o ho ht
    exact .inr ⟨⟨o, slot.trans ho, ht⟩, fun e he => (told e he).isTold.not_isStart⟩
  | started es free head slot queue handles past told =>
    refine h.extend _ (past.trans (List.append_cons ..)) ?_
    intro o ho
    simp [free] at ho
  | startFailed es free head slot queue handles past failed told =>
    refine h.extend _ (past.trans (List.append_cons ..)) ?_
    intro o ho
    simp [free] at ho
  | @kept o j n p es m' held next slot queue handles past attends =>
    refine h.extend es past ?_
    intro o' ho ht
    obtain rfl : o = o' := Option.some.inj (held.symm.trans ho)
    exact .inr ⟨⟨_, slot, ht⟩, fun e he => (attends e he).not_isStart⟩
  | @released o e x d es n m' held slot queue handles past attends exited =>
    refine h.extend _ past ?_
    intro o' ho ht
    obtain rfl : o = o' := Option.some.inj (held.symm.trans ho)
    exact .inl ⟨x, List.mem_cons_of_mem _ (ht ▸ exited)⟩

lemma enduring_blocks (s : Setup J E) (t : Ticket) (m₀ : Manager J E) :
    Enduring s (Blocks t m₀) where
  happen {m e} h he :=
    h.extend [e] rfl fun o ho ht => .inr ⟨⟨o, ho, ht⟩, by simpa using he.isTold.not_isStart⟩
  advance h step := h.advance step
  pass h := h
  register {m u} h :=
    h.extend [_] rfl fun o ho ht => .inr ⟨⟨o, ho, ht⟩, by simp [Event.IsStart]⟩
  enqueue h := h

lemma blocks_of_served {s : Setup J E} {t : Ticket} {m m' : Manager J E} {o : Occupant J}
    (held : m.slot = some o) (ht : o.ticket = t) {rs : List (Request J E)} {as : List (Answer J)}
    (h : Served s m rs as m') (noStop : ∀ r ∈ rs, r ≠ .stop) : Blocks t m m' := by
  induction h with
  | nil => exact ⟨[], by simp, .inr ⟨⟨o, held, ht⟩, by simp⟩⟩
  | snoc _ last ih =>
    have hm := ih fun r hr => noStop r (List.mem_append_left _ hr)
    exact (enduring_blocks s t m).serve hm last fun _ hr =>
      absurd hr (noStop _ (List.mem_append_right _ List.mem_cons_self))

/-- One worker at a time: after a start that succeeded, the next start is called only when the
worker has reported its exit or a stop has ended it. Hence a worker that is not released blocks
every further start, however many submissions, iterations and kills follow, until it reports an
exit. -/
theorem start_after_release {s : Setup J E} {env : E} {rs : List (Request J E)}
    {as : List (Answer J)} {m : Manager J E} (h : Served s (.fresh env) rs as m) {a b : List Event}
    {t : Ticket} (started : m.history = a ++ .call t (.start (.ok ())) :: b) :
    (∀ b₁ b₂ u o, b = b₁ ++ .call u (.start o) :: b₂ → Releases b₁ t) ∧
      (¬ Releases b t → ∀ rs' as' m', Served s m rs' as' m' → (∀ r ∈ rs', r ≠ .stop) →
        ∃ c, m'.history = m.history ++ c ∧
          ((∃ x, .call t (.tryExit (.ok (some x))) ∈ c) ∨ ∀ u o, .call u (.start o) ∉ c)) := by
  have hm := guarded_of_served h
  constructor
  · rintro b₁ b₂ u o rfl
    exact hm.past a b₁ b₂ t u o (by rw [started, List.append_assoc, List.cons_append])
  · -- its job has the slot, and keeps it until the exit is reported
    intro hb rs' as' m' hs noStop
    obtain ⟨o, ho, ht⟩ := hm.holder t ⟨a, b, started, hb⟩
    obtain ⟨c, hist, hc⟩ := blocks_of_served ho ht hs noStop
    exact ⟨c, hist, hc.imp_right fun ⟨_, hc⟩ u o hu => hc _ hu trivial⟩

/-- The first of two submissions is started and killed, and the second is started. -/
def relay : Manager Worker Host :=
  after .bare (.fresh {}) [.submit (.reporting 1 (.always (.ok (some .completed)))),
    .submit (.reporting 2 (.always (.ok none))), .work, .kill (.ofNat 1) .cancel, .work]

/-- The second submission of `relay` is started after the first is released, and then nothing that
callers do starts a third one. -/
theorem start_after_release_relay :
    Releases ((relay.history.drop 7).take 8) ⟨0, .ofNat 1, "scan"⟩ ∧
      ∃ c, (after .bare relay [.submit (.reporting 3 (.always (.ok none))), .work,
          .kill (.ofNat 2) .pause, .work]).history = relay.history ++ c ∧
        ((∃ x, .call ⟨1, .ofNat 2, "scan"⟩ (.tryExit (.ok (some x))) ∈ c) ∨
          ∀ u o, .call u (.start o) ∉ c) := by
  obtain ⟨as, h⟩ := served_of_noStop .bare (.fresh {} : Manager Worker Host)
    [.submit (.reporting 1 (.always (.ok (some .completed)))),
      .submit (.reporting 2 (.always (.ok none))), .work, .kill (.ofNat 1) .cancel, .work] (by simp)
  have first : relay.history = relay.history.take 6 ++ .call ⟨0, .ofNat 1, "scan"⟩
      (.start (.ok ())) :: relay.history.drop 7 := of_decide_eq_true (by cbv)
  have second : relay.history = relay.history.take 15 ++ .call ⟨1, .ofNat 2, "scan"⟩
      (.start (.ok ())) :: relay.history.drop 16 := of_decide_eq_true (by cbv)
  have between : relay.history.drop 7 = (relay.history.drop 7).take 8 ++
      .call ⟨1, .ofNat 2, "scan"⟩ (.start (.ok ())) :: relay.history.drop 16 :=
    of_decide_eq_true (by cbv)
  have quiet : (relay.history.drop 16).any Event.isCall = false := by cbv
  have holds : ¬ Releases (relay.history.drop 16) ⟨1, .ofNat 2, "scan"⟩ := by
    rintro (⟨x, hx⟩ | ⟨w, e, d, hw⟩)
    · exact List.any_eq_false.mp quiet _ hx rfl
    · exact List.any_eq_false.mp quiet _ (hw.subset List.mem_cons_self) rfl
  obtain ⟨as', h'⟩ := served_of_noStop .bare relay
    [.submit (.reporting 3 (.always (.ok none))), .work, .kill (.ofNat 2) .pause, .work] (by simp)
  exact ⟨(start_after_release h first).1 _ _ _ _ between,
    (start_after_release h second).2 holds _ _ _ h' (by simp)⟩

end Manager
end SerialJobs
