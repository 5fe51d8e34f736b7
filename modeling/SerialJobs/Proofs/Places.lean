import Mathlib.Data.List.Permutation
import Mathlib.Logic.Function.Basic
import SerialJobs.Proofs.Announcements

/-!
# Where submissions are

A submission waits, or it is busy, or it is done with. Those that wait are in the queue or on their
way to it, and their handles are queued; those that are busy are in the slot, or a stop has taken
them out of it and not finished them yet, and theirs are the handles that are running.
`Places` says so of the handles' states and two lists of numbers, with one lemma for each way in
which a submission changes its place. `Manager.Placed` says so of a manager, and every operation on
the manager is one of these ways.
-/

namespace SerialJobs

lemma Handle.state_enter (h : Handle) (st : JobState) (now : Nat) :
    (h.enter st now).state = st := by
  cases st <;> rfl

/-- The handles that are running are those of the busy submissions, each of which is in one place,
and the submissions that wait are queued, each of them once. -/
structure Places (states : Nat → Option JobState) (waiting busy : List Nat) : Prop where
  queued : ∀ n ∈ waiting, states n = some .queued
  running_iff : ∀ n, states n = some .running ↔ n ∈ busy
  waiting_nodup : waiting.Nodup
  busy_nodup : busy.Nodup

namespace Places

variable {states : Nat → Option JobState} {ws ws' bs bs' : List Nat} {n : Nat}

lemma perm (h : Places states ws bs) (hw : ws.Perm ws') (hb : bs.Perm bs') :
    Places states ws' bs' where
  queued k hk := h.queued k (hw.mem_iff.mpr hk)
  running_iff k := (h.running_iff k).trans hb.mem_iff
  waiting_nodup := hw.nodup_iff.mp h.waiting_nodup
  busy_nodup := hb.nodup_iff.mp h.busy_nodup

/-- Submissions that wait are given up. -/
lemma sublist (h : Places states ws bs) (hw : ws'.Sublist ws) : Places states ws' bs where
  queued k hk := h.queued k (hw.subset hk)
  running_iff := h.running_iff
  waiting_nodup := h.waiting_nodup.sublist hw
  busy_nodup := h.busy_nodup

/-- A new submission waits. -/
lemma submit (h : Places states ws bs) (new : states n = none) :
    Places (Function.update states n (some .queued)) (n :: ws) bs where
  queued k hk := by
    rcases eq_or_ne k n with rfl | hne
    · exact Function.update_self ..
    · rw [Function.update_of_ne hne]
      exact h.queued k ((List.mem_cons.mp hk).resolve_left hne)
  running_iff k := by
    rcases eq_or_ne k n with rfl | hne
    · have hb : k ∉ bs := by
        intro hk
        simpa [new] using (h.running_iff k).mpr hk
      simp [hb]
    · rw [Function.update_of_ne hne]
      exact h.running_iff k
  waiting_nodup := by
    refine List.nodup_cons.mpr ⟨?_, h.waiting_nodup⟩
    intro hn
    simpa [new] using h.queued n hn
  busy_nodup := h.busy_nodup

/-- One submission enters a state, and the others stay in their places. -/
lemma others (queued : ∀ k ∈ ws, k ≠ n ∧ states k = some .queued)
    (running : ∀ k, k ≠ n → (states k = some .running ↔ k ∈ bs)) (hw : ws.Nodup) (hb : bs.Nodup)
    (st : JobState) (hn : st = .running ↔ n ∈ bs) :
    Places (Function.update states n (some st)) ws bs where
  queued k hk := by
    rw [Function.update_of_ne (queued k hk).1]
    exact (queued k hk).2
  running_iff k := by
    rcases eq_or_ne k n with rfl | hne
    · rw [Function.update_self, Option.some.injEq]
      exact hn
    · rw [Function.update_of_ne hne]
      exact running k hne
  waiting_nodup := hw
  busy_nodup := hb

/-- A submission that waits is not busy. -/
lemma notMem_busy (h : Places states ws bs) (hn : n ∈ ws) : n ∉ bs := by
  intro hb
  have heq := (h.queued n hn).symm.trans ((h.running_iff n).mpr hb)
  simp at heq

/-- The first submission that waits is another one than those behind it, which are queued. -/
lemma queued_behind (h : Places states (n :: ws) bs) :
    ∀ k ∈ ws, k ≠ n ∧ states k = some .queued := by
  intro k hk
  refine ⟨?_, h.queued k (List.mem_cons_of_mem n hk)⟩
  rintro rfl
  exact (List.nodup_cons.mp h.waiting_nodup).1 hk

/-- The first submission that waits is started. -/
lemma start (h : Places states (n :: ws) bs) :
    Places (Function.update states n (some .running)) ws (n :: bs) := by
  have hw := (List.nodup_cons.mp h.waiting_nodup).2
  have hb : (n :: bs).Nodup :=
    List.nodup_cons.mpr ⟨h.notMem_busy List.mem_cons_self, h.busy_nodup⟩
  refine others h.queued_behind ?_ hw hb .running (by simp)
  intro k hne
  rw [h.running_iff k, List.mem_cons, or_iff_right hne]

/-- The first submission that waits fails to start. -/
lemma startFailed (h : Places states (n :: ws) bs) (e : Exit) :
    Places (Function.update states n (some (.finished e))) ws bs := by
  have hw := (List.nodup_cons.mp h.waiting_nodup).2
  have hn : n ∉ bs := h.notMem_busy List.mem_cons_self
  exact others h.queued_behind (fun k _ => h.running_iff k) hw h.busy_nodup _ (by simpa using hn)

/-- The first busy submission finishes. -/
lemma finish (h : Places states ws (n :: bs)) (e : Exit) :
    Places (Function.update states n (some (.finished e))) ws bs := by
  obtain ⟨hn, hb⟩ := List.nodup_cons.mp h.busy_nodup
  refine others ?_ ?_ h.waiting_nodup hb _ (by simpa using hn)
  · intro k hk
    refine ⟨?_, h.queued k hk⟩
    rintro rfl
    exact h.notMem_busy hk List.mem_cons_self
  · intro k hne
    rw [h.running_iff k, List.mem_cons, or_iff_right hne]

end Places

namespace Manager

variable {J E : Type}

/-- The state of a submission's handle, by the number of the submission. -/
def state? (m : Manager J E) (n : Nat) : Option JobState := m.handles[n]?.map (·.state)

/-- The submissions that wait, where `arriving` are on their way to the queue. -/
def waiting (m : Manager J E) (arriving : List (Waiting J)) : List Nat :=
  (m.queue ++ arriving).map (·.ticket.number)

/-- The submissions that are busy, where `out` are those taken out of the slot. -/
def busy (m : Manager J E) (out : List Nat) : List Nat :=
  m.slot.toList.map (·.ticket.number) ++ out

/-- Every submission is in its place. -/
def Placed (m : Manager J E) (arriving : List (Waiting J)) (out : List Nat) : Prop :=
  Places m.state? (m.waiting arriving) (m.busy out)

/-- No submission changes its place from `m` to `m'`, and no handle changes. -/
structure Alike (m m' : Manager J E) : Prop where
  slot : m'.slot.map (·.ticket) = m.slot.map (·.ticket)
  queue : m'.queue = m.queue
  handles : m'.handles = m.handles

section State

variable {m m' : Manager J E}

lemma Alike.refl (m : Manager J E) : Alike m m := ⟨rfl, rfl, rfl⟩

lemma Attended.alike {t : Ticket} {es : List Event} (h : Attended t es m m') : Alike m m' :=
  ⟨by rw [h.slot], h.queue, h.handles⟩

lemma Informed.alike {es : List Event} (h : Informed es m m') : Alike m m' :=
  ⟨by rw [h.slot], h.queue, h.handles⟩

lemma Alike.busy (h : Alike m m') (out : List Nat) : m'.busy out = m.busy out := by
  have hs := h.slot
  rcases ho : m.slot with _ | o <;> rcases ho' : m'.slot with _ | o' <;> simp_all [Manager.busy]

lemma alike_publish (s : Setup J E) (m : Manager J E) (t : Transition) : Alike m (m.publish s t) :=
  (informed_publish s m t).choose_spec.alike

lemma state?_congr (handles : m'.handles = m.handles) : m'.state? = m.state? := by
  funext n
  simp only [state?, handles]

lemma state?_eq_none_iff {n : Nat} : m.state? n = none ↔ m.handles.length ≤ n := by
  simp [state?]

/-- A handle that there is enters a state. -/
lemma state?_of_modify {n k : Nat} {st st' : JobState} (h : m.state? n = some st')
    (handles : m'.handles = m.handles.modify n (·.enter st k)) :
    m'.state? = Function.update m.state? n (some st) := by
  funext i
  rcases eq_or_ne i n with rfl | hne
  · obtain ⟨a, ha, -⟩ := Option.map_eq_some_iff.mp h
    simp [state?, handles, ha, Handle.state_enter]
  · simp [state?, handles, Function.update_of_ne hne, List.getElem?_modify_ne _ _ hne.symm]

/-- A handle is made. -/
lemma state?_of_append {h : Handle} (handles : m'.handles = m.handles ++ [h]) :
    m'.state? = Function.update m.state? m.handles.length (some h.state) := by
  funext i
  rcases eq_or_ne i m.handles.length with rfl | hne
  · simp [state?, handles]
  · rw [Function.update_of_ne hne]
    -- before the new handle nothing changes, and behind it there is none
    rcases Nat.lt_or_gt_of_ne hne with hi | hi
    · simp only [state?, handles, List.getElem?_append_left hi]
    · rw [state?_eq_none_iff.mpr (Nat.le_of_lt hi), state?_eq_none_iff, handles, List.length_append]
      exact hi

end State

namespace Placed

variable {s : Setup J E} {m m' : Manager J E} {arriving : List (Waiting J)} {out : List Nat}

lemma fresh (env : E) : Placed (.fresh env : Manager J E) [] [] where
  queued := by simp [waiting, Manager.fresh]
  running_iff := by simp [state?, busy, Manager.fresh]
  waiting_nodup := by simp [waiting, Manager.fresh]
  busy_nodup := by simp [busy, Manager.fresh]

lemma congr (h : Placed m arriving out) (alike : Alike m m') : Placed m' arriving out := by
  show Places m'.state? ((m'.queue ++ arriving).map (·.ticket.number)) (m'.busy out)
  rw [state?_congr alike.handles, alike.busy, alike.queue]
  exact h

/-- The job in the slot has a running handle. -/
lemma running (h : Placed m arriving out) {o : Occupant J} (held : m.slot = some o) :
    m.state? o.ticket.number = some .running :=
  (h.running_iff _).mpr (by simp [busy, held])

lemma queued_head (h : Placed m arriving out) {w : Waiting J} {ws : List (Waiting J)}
    (head : m.queue = w :: ws) : m.state? w.ticket.number = some .queued :=
  h.queued _ (by simp [waiting, head])

/-- A locked section moves the submission of which it leaves a transition, and no other. -/
lemma state?_advance (h : Placed m arriving out) {d : Option Transition}
    (step : Advance s m d m') :
    m'.state? =
      d.elim m.state? fun t => Function.update m.state? t.ticket.number (some t.state) := by
  cases step with
  | rest es slot queue handles past told => exact state?_congr handles
  | started es free head slot queue handles past told =>
    exact state?_of_modify (h.queued_head head) handles
  | startFailed es free head slot queue handles past failed told =>
    exact state?_of_modify (h.queued_head head) handles
  | kept held next slot queue handles past attends => exact state?_congr handles
  | released held slot queue handles past attends exited =>
    exact state?_of_modify (h.running held) handles

/-- A locked section moves no submission that has finished. -/
lemma finished_of_advance (h : Placed m arriving out) {d : Option Transition}
    (step : Advance s m d m') {n : Nat} {e : Exit} (hn : m.state? n = some (.finished e)) :
    m'.state? n = some (.finished e) := by
  have other : ∀ {k : Nat} {st : JobState}, m.state? k = some st → st ≠ .finished e → n ≠ k := by
    rintro k st hk hst rfl
    exact hst (Option.some.inj (hk.symm.trans hn))
  have hst := h.state?_advance step
  cases step with
  | rest es slot queue handles past told => rw [hst]; exact hn
  | started es free head slot queue handles past told =>
    rw [hst]
    exact (Function.update_of_ne (other (h.queued_head head) (by simp)) ..).trans hn
  | startFailed es free head slot queue handles past failed told =>
    rw [hst]
    exact (Function.update_of_ne (other (h.queued_head head) (by simp)) ..).trans hn
  | kept held next slot queue handles past attends => rw [hst]; exact hn
  | released held slot queue handles past attends exited =>
    rw [hst]
    exact (Function.update_of_ne (other (h.running held) (by simp)) ..).trans hn

/-- A locked section leaves every submission in its place. -/
lemma advance (h : Placed m arriving out) {d : Option Transition} (step : Advance s m d m') :
    Placed m' arriving out := by
  have hst := h.state?_advance step
  cases step with
  | rest es slot queue handles past told => exact h.congr ⟨by rw [slot], queue, handles⟩
  | @started w ws j n m' es free head slot queue handles past told =>
    show Places m'.state? (m'.waiting arriving) (m'.busy out)
    simp only [Placed, waiting, busy, free, head] at h
    rw [hst]
    simp only [waiting, busy, slot, queue]
    exact h.start
  | @startFailed w ws x reason n m' es free head slot queue handles past failed told =>
    show Places m'.state? (m'.waiting arriving) (m'.busy out)
    simp only [Placed, waiting, busy, free, head] at h
    rw [hst]
    simp only [waiting, busy, slot, queue]
    exact h.startFailed _
  | kept held next slot queue handles past attends =>
    exact h.congr ⟨by rw [slot, held]; rfl, queue, handles⟩
  | @released o e x d es n m' held slot queue handles past attends exited =>
    show Places m'.state? (m'.waiting arriving) (m'.busy out)
    simp only [Placed, waiting, busy, held] at h
    rw [hst]
    simp only [waiting, busy, slot, queue]
    exact h.finish e

/-- A new submission is on its way to the queue. -/
lemma register (h : Placed m arriving out) {t : Ticket} (j : J) (ht : t.number = m.handles.length) :
    Placed (m.register s t) (arriving ++ [⟨t, j⟩]) out := by
  have hst : (m.register s t).state? = Function.update m.state? t.number (some .queued) := by
    rw [ht]
    exact state?_of_append (h := .fresh t.id t.label (m.now s)) rfl
  have hnew : m.state? t.number = none := state?_eq_none_iff.mpr (Nat.le_of_eq ht.symm)
  have hw : (m.register s t).waiting (arriving ++ [⟨t, j⟩]) = m.waiting arriving ++ [t.number] := by
    simp [waiting, Manager.register]
  show Places (m.register s t).state? _ (m.busy out)
  rw [hst, hw]
  exact (Places.submit h hnew).perm (List.perm_append_singleton _ _).symm .rfl

/-- A submission gets to the queue. -/
lemma enqueue {a b : List (Waiting J)} {w : Waiting J} (h : Placed m (a ++ w :: b) out) :
    Placed (m.enqueue w) (a ++ b) out := by
  refine Places.perm h ?_ .rfl
  show ((m.queue ++ (a ++ w :: b)).map _).Perm ((m.queue ++ [w] ++ (a ++ b)).map _)
  rw [List.append_assoc, List.singleton_append]
  exact (List.perm_middle.append_left _).map _

/-- The job in the slot is taken out of it. -/
lemma vacate (h : Placed m arriving out) {o : Occupant J} (held : m.slot = some o) :
    Placed { m with slot := none } arriving (o.ticket.number :: out) := by
  refine Places.perm h .rfl ?_
  simp [busy, held]

/-- A job that was taken out of the slot finishes. -/
lemma finish {a b : List Nat} {o : Occupant J} (h : Placed m arriving (a ++ o.ticket.number :: b))
    (e : Exit) : Placed (m.finish s o e).2 arriving (a ++ b) := by
  have hst : m.state? o.ticket.number = some .running :=
    (h.running_iff _).mpr (by simp [busy])
  have hst' : (m.finish s o e).2.state? =
      Function.update m.state? o.ticket.number (some (.finished e)) := state?_of_modify hst rfl
  have hb : (m.busy (a ++ o.ticket.number :: b)).Perm (o.ticket.number :: m.busy (a ++ b)) := by
    simp only [busy, ← List.append_assoc]
    exact List.perm_middle
  show Places (m.finish s o e).2.state? (m.waiting arriving) (m.busy (a ++ b))
  rw [hst']
  exact Places.finish (Places.perm h .rfl hb) e

/-- The queue is emptied. -/
lemma drain (h : Placed m arriving out) : Placed { m with queue := [] } arriving out :=
  Places.sublist h (by simp [waiting])

end Placed

end Manager
end SerialJobs
