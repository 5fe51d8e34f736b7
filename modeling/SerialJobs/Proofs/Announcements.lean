import SerialJobs.Manager.Calls
import SerialJobs.Proofs.Sections

/-!
# What an announcement keeps

An announcement tells the sink and the audit log of one transition, and the sink may call the
manager back before it returns. A property that holds on through all news and every locked section
is `Lasting`; an announcement keeps it whatever the sink calls, and so do `work` and `kill`. A
property is `Steady` if it may be broken for a moment, while the sink has not been told of a
transition that was made.

A sink that never calls back is told and no more. Then an announcement is `publish`, which adds to
the history and changes nothing else.
-/

namespace SerialJobs

/-- The sink, if there is one, never calls the manager back. -/
def Setup.Passive {J E : Type} (s : Setup J E) : Prop := ∀ k ∈ s.sink, k.Passive

namespace Manager

variable {J E : Type}

/-- A property that holds whenever the sink is called and whenever it calls back. No news ends it,
and no locked section does once the sink was told of the transition that the section has left. -/
structure Steady (s : Setup J E) (P : Manager J E → Prop) : Prop where
  happen : ∀ {m : Manager J E} {e : Event}, P m → e.IsNews → e.record? = none → P (m.happen e)
  rest : ∀ {m m' : Manager J E}, P m → Advance s m none m' → P m'
  told : ∀ {m m' : Manager J E} {t : Transition}, P m → Advance s m (some t) m' → P (m'.tell s t).2

namespace Steady

variable {s : Setup J E} {P : Manager J E → Prop} {m : Manager J E} (hP : Steady s P)

include hP

lemma follow {α : Type} {r : Section J E α} (h : P m) (step : Advance s m r.due r.manager)
    (answer : Errand) : P (Manager.follow s r answer).2 := by
  unfold Manager.follow
  split
  next hd => exact hP.rest h (hd ▸ step)
  next t hd => exact hP.told h (hd ▸ step)

lemma perform (h : P m) (a : Act) : P (m.perform s a).2 := by
  cases a with
  | work => exact hP.follow h (advance_tickSection s m) _
  | kill id c => exact hP.follow h (advance_killSection s m id c) _

lemma discharge (h : P m) (e : Errand) : P (m.discharge s e) := by
  cases e with
  | act a => exact h
  | worked k => exact hP.happen (e := .sinkWorked k) h trivial rfl
  | killed b => exact hP.happen (e := .sinkKilled b) h trivial rfl
  | panicked r p => exact hP.happen (e := .noted (.sinkPanicked r.id r.state p)) h trivial rfl
  | report t => exact hP.happen (e := .audited (.entered _)) h trivial rfl

/-- Every errand is a piece of news or a call whose section comes first, so the whole list keeps
what they keep. -/
lemma run (es : List Errand) (h : P m) : P (Manager.run s es m) := by
  induction es, m using Manager.run.induct s with
  | case1 m => simpa only [Manager.run] using h
  | case2 a es m ih =>
    -- the errands of the call are put in front of the others
    rw [Manager.run]
    exact ih (hP.perform h a)
  | case3 e es m hne ih =>
    rw [Manager.run]
    · exact ih (hP.discharge h e)
    · exact hne

/-- What holds once the sink was told holds on to the end of the announcement. -/
lemma announce {t : Transition} (h : P (m.tell s t).2) : P (m.announce s t) := hP.run _ h

lemma announceDue {α : Type} {r : Section J E α} (h : P m)
    (step : Advance s m r.due r.manager) : P (Manager.announceDue s r) := by
  unfold Manager.announceDue
  split
  next hd => exact hP.rest h (hd ▸ step)
  next t hd => exact hP.announce (hP.told h (hd ▸ step))

lemma work (h : P m) : P (m.work s).2 := hP.announceDue h (advance_tickSection s m)

lemma kill (h : P m) (id : JobId) (c : KillCommand) : P (m.kill s id c).2 :=
  hP.announceDue h (advance_killSection s m id c)

end Steady

/-- A property that neither news nor a locked section ends. -/
structure Lasting (s : Setup J E) (P : Manager J E → Prop) : Prop where
  happen : ∀ {m : Manager J E} {e : Event}, P m → e.IsNews → P (m.happen e)
  advance : ∀ {m m' : Manager J E} {t : Option Transition}, P m → Advance s m t m' → P m'

namespace Lasting

variable {s : Setup J E} {P : Manager J E → Prop} {m : Manager J E} (hP : Lasting s P)

include hP

lemma tell (h : P m) (t : Transition) : P (m.tell s t).2 := by
  unfold Manager.tell
  split
  · exact h
  · exact hP.happen h trivial

/-- What lasts holds at the calls of the sink as well. -/
lemma steady : Steady s P where
  happen h news _ := hP.happen h news
  rest h step := hP.advance h step
  told h step := hP.tell (hP.advance h step) _

lemma perform (h : P m) (a : Act) : P (m.perform s a).2 := hP.steady.perform h a

lemma discharge (h : P m) (e : Errand) : P (m.discharge s e) := hP.steady.discharge h e

lemma run (es : List Errand) (h : P m) : P (Manager.run s es m) := hP.steady.run es h

lemma announce (h : P m) (t : Transition) : P (m.announce s t) :=
  hP.steady.announce (hP.tell h t)

lemma work (h : P m) : P (m.work s).2 := hP.steady.work h

lemma kill (h : P m) (id : JobId) (c : KillCommand) : P (m.kill s id c).2 := hP.steady.kill h id c

end Lasting

/-! ## The queue and the load -/

section Queue

variable {s : Setup J E} {m m' : Manager J E}

/-- A locked section takes away the head of the queue at most. -/
lemma Advance.queue_suffix {d : Option Transition} (step : Advance s m d m') :
    m'.queue <:+ m.queue := by
  cases step with
  | rest es slot queue handles past told => exact queue ▸ List.suffix_refl _
  | started es free head slot queue handles past told =>
    rw [head, queue]
    exact List.suffix_cons ..
  | startFailed es free head slot queue handles past failed told =>
    rw [head, queue]
    exact List.suffix_cons ..
  | kept held next slot queue handles past attends => exact queue ▸ List.suffix_refl _
  | released held slot queue handles past attends => exact queue ▸ List.suffix_refl _

lemma lasting_suffix (s : Setup J E) (q : List (Waiting J)) :
    Lasting s fun (m : Manager J E) => m.queue <:+ q where
  happen h _ := h
  advance h step := step.queue_suffix.trans h

/-- A locked section lowers the load if it leaves a transition, and never raises it. -/
lemma Advance.load {d : Option Transition} (step : Advance s m d m') :
    m'.load + d.toList.length ≤ m.load := by
  cases step with
  | rest es slot queue handles past told => simp [Manager.load, slot, queue]
  | started es free head slot queue handles past told =>
    simp only [Manager.load, free, head, slot, queue, List.length_cons, Option.toList_none,
      Option.toList_some, List.length_nil]
    omega
  | startFailed es free head slot queue handles past failed told =>
    simp only [Manager.load, free, head, slot, queue, List.length_cons, Option.toList_none,
      Option.toList_some, List.length_nil]
    omega
  | kept held next slot queue handles past attends => simp [Manager.load, held, slot, queue]
  | released held slot queue handles past attends => simp [Manager.load, held, slot, queue]

end Queue

/-! ## Sinks that do not call back -/

/-- From `m` to `m'` only the events `es` are added, the latest first, and all of them are told. -/
structure Informed (es : List Event) (m m' : Manager J E) : Prop where
  env : m'.env = m.env
  slot : m'.slot = m.slot
  queue : m'.queue = m.queue
  handles : m'.handles = m.handles
  past : m'.past = es ++ m.past
  told : ∀ e ∈ es, e.IsTold

lemma Informed.refl (m : Manager J E) : Informed [] m m :=
  ⟨rfl, rfl, rfl, rfl, rfl, by simp⟩

lemma Informed.happen {es : List Event} {m m' : Manager J E} (h : Informed es m m') {e : Event}
    (he : e.IsTold) : Informed (e :: es) m (m'.happen e) where
  env := h.env
  slot := h.slot
  queue := h.queue
  handles := h.handles
  past := by simp [Manager.happen, h.past]
  told := by simpa using ⟨he, h.told⟩

/-- Tells the sink and the audit log of a transition. The calls that the sink makes are left out. -/
def publish (s : Setup J E) (m : Manager J E) (t : Transition) : Manager J E :=
  (m.tell s t).1.foldl (·.discharge s ·) (m.tell s t).2

variable {s : Setup J E}

/-- Errands without a call are done one after the other. -/
lemma run_eq_foldl (es : List Errand) (h : ∀ a, .act a ∉ es) (m : Manager J E) :
    run s es m = es.foldl (·.discharge s ·) m := by
  induction es generalizing m with
  | nil => rw [run, List.foldl_nil]
  | cons e es ih =>
    have hes : ∀ a, .act a ∉ es := fun a ha => h a (List.mem_cons_of_mem e ha)
    rw [run, List.foldl_cons, ih hes]
    rintro a rfl
    exact h a List.mem_cons_self

lemma act_notMem_tell (hs : s.Passive) (m : Manager J E) (t : Transition) (a : Act) :
    .act a ∉ (m.tell s t).1 := by
  unfold tell
  split
  next => simp
  next k hk =>
    have h := hs k hk m.records t.record
    cases hp : (k.react m.records t.record).panic <;> simp [h, hp]

/-- A sink that does not call back is told, and no more. -/
theorem announce_eq_publish (hs : s.Passive) (m : Manager J E) (t : Transition) :
    m.announce s t = m.publish s t :=
  run_eq_foldl _ (act_notMem_tell hs m t) _

lemma informed_discharge {es : List Event} {m m' : Manager J E} (h : Informed es m m')
    (errands : List Errand) : ∃ es', Informed es' m (errands.foldl (·.discharge s ·) m') := by
  induction errands generalizing es m' with
  | nil => exact ⟨es, h⟩
  | cons e errands ih =>
    rw [List.foldl_cons]
    cases e with
    | act a => exact ih h
    | worked k => exact ih (h.happen (e := .sinkWorked k) trivial)
    | killed b => exact ih (h.happen (e := .sinkKilled b) trivial)
    | panicked r p => exact ih (h.happen (e := .noted (.sinkPanicked r.id r.state p)) trivial)
    | report t => exact ih (h.happen (e := .audited (m'.auditEvent s t)) trivial)

/-- Publishing changes the history and nothing else. -/
lemma informed_publish (s : Setup J E) (m : Manager J E) (t : Transition) :
    ∃ es, Informed es m (m.publish s t) := by
  have h : ∃ es, Informed es m (m.tell s t).2 := by
    unfold tell
    split
    · exact ⟨_, .refl m⟩
    · exact ⟨_, (Informed.refl m).happen (e := .recorded _ _) trivial⟩
  obtain ⟨es, hes⟩ := h
  exact informed_discharge hes _

end Manager
end SerialJobs
