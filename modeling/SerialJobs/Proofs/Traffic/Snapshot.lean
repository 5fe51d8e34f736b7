import SerialJobs.Proofs.Keeping
import SerialJobs.Proofs.Traffic

/-!
# Snapshots in traffic

A snapshot reads the slot and then the queue, and other callers may make moves in between. It shows
the manager at one moment as long as the queue changes first, if both change: then the slot still
shows what was read when the queue gets to be what will be read. A job that the manager holds at
both reads is missing exactly when it is started between them, since it leaves the queue for the
slot after the one was read and before the other is (`snapshot_misses_iff`). `handoff` is a run in
which that happens.

A read of the queue in the middle of a locked section is as good as one before or after it, since
the section takes away the head of the queue and does nothing else to it.
-/

namespace SerialJobs

/-- The submissions in the slot and in the queue. -/
def Manager.places {J E : Type} (m : Manager J E) : Option Nat × List Nat :=
  (m.slot.map (·.ticket.number), m.queue.map (·.ticket.number))

namespace Traffic

open Manager

variable {J E : Type} {s : Setup J E} {x y z : Traffic J E} {mv : Move J E} {n : Nat}
  {trail : List (Traffic J E × Move J E)}

/-- What a snapshot shows that reads the slot when the traffic is `x`, and the queue when it is `y`.
-/
def glimpse (x y : Traffic J E) (alive : Bool) : Snapshot :=
  ⟨alive, x.manager.occupancy, y.manager.queuedIds⟩

/-- Without other callers a snapshot shows the manager as it is. -/
lemma glimpse_self (x : Traffic J E) (alive : Bool) :
    glimpse x x alive = x.manager.snapshot alive := rfl

/-- The move changes what the slot shows. -/
def TurnsSlot (s : Setup J E) (p : Traffic J E × Move J E) : Prop :=
  ∃ y ∈ p.1.step s p.2, y.manager.occupancy ≠ p.1.manager.occupancy

/-- The move changes what the queue shows. -/
def TurnsQueue (s : Setup J E) (p : Traffic J E × Move J E) : Prop :=
  ∃ y ∈ p.1.step s p.2, y.manager.queuedIds ≠ p.1.manager.queuedIds

/-- The move starts the job of the submission. -/
def StartsOf (s : Setup J E) (n : Nat) (p : Traffic J E × Move J E) : Prop :=
  ∃ t ∈ p.1.leaves s p.2, t.state = .running ∧ t.ticket.number = n

/-- No change of the queue comes together with, or after, a change of the slot. -/
structure QueueFirst (s : Setup J E) (trail : List (Traffic J E × Move J E)) : Prop where
  apart : ∀ p ∈ trail, TurnsSlot s p → ¬TurnsQueue s p
  ordered : trail.Pairwise fun p q => TurnsSlot s p → ¬TurnsQueue s q

instance (s : Setup J E) (p : Traffic J E × Move J E) : Decidable (TurnsSlot s p) :=
  inferInstanceAs (Decidable (∃ y ∈ p.1.step s p.2, _))

instance (s : Setup J E) (p : Traffic J E × Move J E) : Decidable (TurnsQueue s p) :=
  inferInstanceAs (Decidable (∃ y ∈ p.1.step s p.2, _))

instance (s : Setup J E) (n : Nat) (p : Traffic J E × Move J E) : Decidable (StartsOf s n p) :=
  inferInstanceAs (Decidable (∃ t ∈ p.1.leaves s p.2, _))

instance (s : Setup J E) (trail : List (Traffic J E × Move J E)) :
    Decidable (QueueFirst s trail) :=
  decidable_of_iff _ ⟨fun h => ⟨h.1, h.2⟩, fun h => And.intro h.apart h.ordered⟩

/-! ## A moment that the snapshot shows -/

lemma Run.start_mem_visited (h : Run s x trail y) : x ∈ visited trail y := by
  induction h with
  | nil => exact List.mem_singleton_self x
  | snoc past last ih =>
    rw [visited_snoc]
    exact List.mem_append_left _ ih

lemma end_mem_visited (trail : List (Traffic J E × Move J E)) (y : Traffic J E) :
    y ∈ visited trail y :=
  List.mem_append_right _ (List.mem_singleton_self y)

/-- If no move changes what the slot shows then it shows the same at the end. -/
lemma Run.occupancy_eq (h : Run s x trail y) (still : ∀ p ∈ trail, ¬TurnsSlot s p) :
    y.manager.occupancy = x.manager.occupancy := by
  induction h with
  | nil => rfl
  | @snoc trail y z mv past last ih =>
    obtain ⟨before, now⟩ := List.forall_mem_append.mp still
    have same : z.manager.occupancy = y.manager.occupancy := by
      by_contra changed
      exact now (y, mv) (List.mem_singleton_self _) ⟨z, last, changed⟩
    exact same.trans (ih before)

/-- If the queue changes first then there is a moment at which the slot shows what it did at the
beginning, and the queue what it does at the end. -/
lemma QueueFirst.moment (first : QueueFirst s trail) (h : Run s x trail y) :
    ∃ z ∈ visited trail y, z.manager.occupancy = x.manager.occupancy ∧
      z.manager.queuedIds = y.manager.queuedIds := by
  induction h with
  | nil => exact ⟨x, end_mem_visited [] x, rfl, rfl⟩
  | @snoc trail y z mv past last ih =>
    obtain ⟨apart, ordered⟩ := first
    obtain ⟨apartBefore, apartNow⟩ := List.forall_mem_append.mp apart
    obtain ⟨orderedBefore, -, orderedNow⟩ := List.pairwise_append.mp ordered
    by_cases turns : TurnsQueue s (y, mv)
    · -- up to now the slot has not changed
      have still : ∀ p ∈ trail ++ [(y, mv)], ¬TurnsSlot s p := by
        rw [List.forall_mem_append, List.forall_mem_singleton]
        refine ⟨?_, fun turned => apartNow (y, mv) (List.mem_singleton_self _) turned turns⟩
        intro p hp turned
        exact orderedNow p hp (y, mv) (List.mem_singleton_self _) turned turns
      exact ⟨z, end_mem_visited _ z, (past.snoc last).occupancy_eq still, rfl⟩
    · have same : z.manager.queuedIds = y.manager.queuedIds := by
        by_contra changed
        exact turns ⟨z, last, changed⟩
      obtain ⟨w, hw, slot, queue⟩ := ih ⟨apartBefore, orderedBefore⟩
      refine ⟨w, ?_, slot, queue.trans same.symm⟩
      rw [visited_snoc]
      exact List.mem_append_left _ hw

/-! ## Starts between the reads -/

/-- A move leaves the states of the handles as they are, or a handle enters a state. It is queued
only if it is new, and running only if its job is started. -/
lemma state?_of_effect (hx : Placed x.manager x.arriving x.out) (effect : Effect s x mv y) :
    y.manager.state? = x.manager.state? ∨
      ∃ k st, y.manager.state? = Function.update x.manager.state? k (some st) ∧
        (st = .queued → x.manager.state? k = none) ∧ (st = .running → StartsOf s k (x, mv)) := by
  cases effect with
  | quiet leaves silent alike arriving due told out records =>
    exact .inl (state?_congr alike.handles)
  | @arrive j y t number alike arriving due told out records =>
    refine .inr ⟨x.manager.handles.length, .queued, ?_, ?_, by simp⟩
    · rw [state?_congr alike.handles]
      exact state?_of_append (h := .fresh t.id t.label (x.manager.now s)) rfl
    · exact fun _ => state?_eq_none_iff.mpr le_rfl
  | push arriving alike arriving' due told out records =>
    exact .inl (state?_congr alike.handles)
  | advance silent advance arriving due told out =>
    have states := hx.state?_advance advance
    rcases hd : x.leaves s mv with _ | t
    · rw [hd] at states
      exact .inl states
    · have moves := advance.state_ne_queued t hd
      rw [hd] at states
      have starts : t.state = .running → StartsOf s t.ticket.number (x, mv) :=
        fun h => ⟨t, hd, h, rfl⟩
      exact .inr ⟨t.ticket.number, t.state, states, fun h => absurd h moves, starts⟩
  | publish due place alike arriving due' told out records =>
    exact .inl (state?_congr alike.handles)
  | take held manager arriving due told out => exact .inl (by rw [manager]; rfl)
  | @finish i y a b o e m alike out manager arriving due told out' records =>
    have running : m.state? o.ticket.number = some .running := by
      rw [state?_congr alike.handles]
      exact (hx.running_iff _).mpr (by simp [Manager.busy, out])
    refine .inr ⟨o.ticket.number, .finished e, ?_, by simp, by simp⟩
    rw [manager, ← state?_congr alike.handles]
    exact state?_of_modify running rfl
  | drain alike arriving due told out records => exact .inl (state?_congr alike.handles)

/-- What has begun does not get back to the queue. -/
lemma begun_of_effect (hx : Placed x.manager x.arriving x.out) (effect : Effect s x mv y)
    (h : x.manager.Begun n) : y.manager.Begun n := by
  rcases state?_of_effect hx effect with states | ⟨k, st, states, queued, -⟩
  · rwa [Begun, states]
  · refine begun_of_update h states ?_
    rintro rfl hst
    obtain ⟨st', hst', -⟩ := h
    rw [queued hst] at hst'
    cases hst'

/-- Only what is started gets to run. -/
lemma running_of_effect (hx : Placed x.manager x.arriving x.out) (effect : Effect s x mv y)
    (h : y.manager.state? n = some .running) :
    x.manager.state? n = some .running ∨ StartsOf s n (x, mv) := by
  rcases state?_of_effect hx effect with states | ⟨k, st, states, -, starts⟩
  · exact .inl (states ▸ h)
  · rw [states] at h
    rcases eq_or_ne n k with rfl | hne
    · rw [Function.update_self, Option.some.injEq] at h
      exact .inr (starts h)
    · rw [Function.update_of_ne hne] at h
      exact .inl h

/-- What is started was queued, and has begun then. -/
lemma begun_of_startsOf (hx : Placed x.manager x.arriving x.out) (effect : Effect s x mv y)
    (h : StartsOf s n (x, mv)) : ¬x.manager.Begun n ∧ y.manager.Begun n := by
  obtain ⟨t, ht, hrun, rfl⟩ := h
  cases effect with
  | quiet leaves silent alike arriving due told out records => simp [leaves] at ht
  | advance silent advance arriving due told out =>
    have states := hx.state?_advance advance
    rw [Option.mem_def.mp ht] at states advance
    refine ⟨?_, .running, ?_, by simp⟩
    · rintro ⟨st, hst, hne⟩
      cases advance with
      | @started w ws j k m' es free head slot queue handles past told =>
        rw [hx.queued_head head, Option.some.injEq] at hst
        exact hne hst.symm
      | _ => simp at hrun
    · rw [states, ← hrun]
      exact Function.update_self ..
  | _ => simp [leaves] at ht

section Between

variable {env : E} {past : List (Traffic J E × Move J E)} (before : Run s (fresh env) past x)

include before

lemma begun_of_run (h : Run s x trail y) (hn : x.manager.Begun n) : y.manager.Begun n := by
  induction h with
  | nil => exact hn
  | snoc past last ih =>
    exact begun_of_effect (placed_of_run (before.trans past)) (effect_of_step last) ih

lemma running_or_started (h : Run s x trail y) (hn : y.manager.state? n = some .running) :
    x.manager.state? n = some .running ∨ ∃ p ∈ trail, StartsOf s n p := by
  induction h with
  | nil => exact .inl hn
  | @snoc trail y z mv past last ih =>
    rcases running_of_effect (placed_of_run (before.trans past)) (effect_of_step last) hn with
      running | starts
    · exact (ih running).imp_right fun ⟨p, hp, hs⟩ => ⟨p, List.mem_append_left _ hp, hs⟩
    · exact .inr ⟨(y, mv), by simp, starts⟩

lemma begun_of_started (h : Run s x trail y) (started : ∃ p ∈ trail, StartsOf s n p) :
    ¬x.manager.Begun n ∧ y.manager.Begun n := by
  induction h with
  | nil => simp at started
  | @snoc trail y z mv past last ih =>
    have placed := placed_of_run (before.trans past)
    have effect := effect_of_step last
    obtain ⟨p, hp, starts⟩ := started
    rcases List.mem_append.mp hp with hp | hp
    · obtain ⟨unbegun, begun⟩ := ih ⟨p, hp, starts⟩
      exact ⟨unbegun, begun_of_effect placed effect begun⟩
    · rw [List.mem_singleton.mp hp] at starts
      obtain ⟨unbegun, begun⟩ := begun_of_startsOf placed effect starts
      exact ⟨fun hn => unbegun (begun_of_run before past hn), begun⟩

/-- What the manager holds at both reads is missing from the snapshot exactly when it is started
between them. -/
lemma missing_iff_started (h : Run s x trail y) (atFirst : x.manager.Keeps n)
    (atLast : y.manager.Keeps n) :
    ¬x.manager.Occupies n ∧ ¬y.manager.Queues n ↔ ∃ p ∈ trail, StartsOf s n p := by
  have hx := placed_of_run before
  have hy := placed_of_run (before.trans h)
  constructor
  · rintro ⟨notHeld, notQueued⟩
    have queued := hx.queued_of_queues (atFirst.resolve_left notHeld)
    have running := hy.running_of_occupies (atLast.resolve_right notQueued)
    refine (running_or_started before h running).resolve_left ?_
    simp [queued]
  · intro started
    obtain ⟨unbegun, st, hst, hne⟩ := begun_of_started before h started
    refine ⟨fun held => unbegun ⟨.running, hx.running_of_occupies held, by simp⟩, ?_⟩
    intro queues
    exact hne (Option.some.inj (hst.symm.trans (hy.queued_of_queues queues)))

end Between

/-- A snapshot whose first read comes at one moment of a run and whose second read comes later shows
the manager at some moment in between, if no change of the queue comes together with, or after, a
change of what the slot shows. A submission that the manager holds at both reads is missing from it
exactly when it is started between them; and then, if the manager holds it all the time, there is no
moment at which the slot is as at the first read and the queue as at the second one. -/
theorem snapshot_misses_iff {env : E} {past : List (Traffic J E × Move J E)}
    (before : Run s (fresh env) past x) (during : Run s x trail y) (alive : Bool) :
    (QueueFirst s trail → ∃ z ∈ visited trail y, z.manager.snapshot alive = glimpse x y alive) ∧
      (∀ n, x.manager.Keeps n → y.manager.Keeps n →
        (¬x.manager.Occupies n ∧ ¬y.manager.Queues n ↔ ∃ p ∈ trail, StartsOf s n p)) ∧
      ∀ n, (∀ z ∈ visited trail y, z.manager.Keeps n) → (∃ p ∈ trail, StartsOf s n p) →
        ∀ z ∈ visited trail y, z.manager.places ≠ (x.manager.places.1, y.manager.places.2) := by
  refine ⟨?_, fun n => missing_iff_started before during, ?_⟩
  · intro first
    obtain ⟨z, hz, slot, queue⟩ := first.moment during
    refine ⟨z, hz, ?_⟩
    rw [← glimpse_self, glimpse, glimpse, slot, queue]
  · intro n keeps started z hz same
    obtain ⟨slot, queue⟩ := Prod.mk.inj same
    have missing := (missing_iff_started before during (keeps x during.start_mem_visited)
      (keeps y (end_mem_visited trail y))).mpr started
    rcases keeps z hz with occupies | queues
    · exact missing.1 (slot.symm.trans occupies)
    · rw [Queues, queue] at queues
      exact missing.2 queues

/-- A job is started, and another one is on its way to the queue. -/
def arrival : List (Move Worker Host) :=
  [.arrive (.endless 1), .push 0, .tick, .publish 0, .arrive (.endless 2)]

/-- A job is queued. -/
def handoff : List (Move Worker Host) := [.arrive (.endless 1), .push 0]

/-- After `arrival` a snapshot shows the manager at one moment if the second job gets to the queue
and then a stop takes the first one out of the slot. After `handoff` a snapshot misses the job that
is started between its reads. -/
theorem snapshot_misses_iff_handoff :
    (∃ past x trail y, follow .bare (fresh {}) arrival = some (past, x) ∧
      follow .bare x [.push 0, .take] = some (trail, y) ∧
        ∃ z ∈ visited trail y, z.manager.snapshot false = glimpse x y false) ∧
    ∃ past x trail y, follow .bare (fresh {}) handoff = some (past, x) ∧
      follow .bare x [.tick] = some (trail, y) ∧ (x.manager.Keeps 0 ∧ y.manager.Keeps 0) ∧
        ¬x.manager.Occupies 0 ∧ ¬y.manager.Queues 0 := by
  constructor
  · have orderly : ((follow .bare (fresh {}) arrival).bind fun r =>
        (follow .bare r.2 [.push 0, .take]).map fun q => decide (QueueFirst .bare q.1)) =
          some true := by decide
    obtain ⟨⟨past, x⟩, before, h⟩ := Option.bind_eq_some_iff.mp orderly
    obtain ⟨⟨trail, y⟩, during, first⟩ := Option.map_eq_some_iff.mp h
    obtain ⟨moment, -⟩ := snapshot_misses_iff (run_of_follow before) (run_of_follow during) false
    exact ⟨past, x, trail, y, before, during, moment (of_decide_eq_true first)⟩
  · have started : ((follow .bare (fresh {}) handoff).bind fun r =>
        (follow .bare r.2 [.tick]).map fun q => decide
          ((r.2.manager.Keeps 0 ∧ q.2.manager.Keeps 0) ∧ ∃ p ∈ q.1, StartsOf .bare 0 p)) =
            some true := by decide
    obtain ⟨⟨past, x⟩, before, h⟩ := Option.bind_eq_some_iff.mp started
    obtain ⟨⟨trail, y⟩, during, h⟩ := Option.map_eq_some_iff.mp h
    obtain ⟨keeps, starts⟩ := of_decide_eq_true h
    obtain ⟨-, missing, -⟩ :=
      snapshot_misses_iff (run_of_follow before) (run_of_follow during) false
    exact ⟨past, x, trail, y, before, during, keeps, (missing 0 keeps.1 keeps.2).mpr starts⟩

/-- The manager holds a job all the time, and a snapshot shows an empty slot and an empty queue,
which it does not at any moment. -/
theorem snapshot_of_no_moment : ∃ past x trail y,
    Run Setup.bare (fresh ({} : Host)) past x ∧ Run .bare x trail y ∧
      (∀ z ∈ visited trail y, z.manager.Keeps 0) ∧ glimpse x y false = ⟨false, none, []⟩ ∧
        ∀ z ∈ visited trail y, z.manager.snapshot false ≠ glimpse x y false := by
  have torn : ((follow .bare (fresh {}) handoff).bind fun r =>
      (follow .bare r.2 [.tick]).map fun (q : List (Traffic Worker Host × _) × _) => decide
        ((∀ z ∈ visited q.1 q.2, z.manager.Keeps 0) ∧ glimpse r.2 q.2 false = ⟨false, none, []⟩ ∧
          ∀ z ∈ visited q.1 q.2, z.manager.snapshot false ≠ glimpse r.2 q.2 false)) =
        some true := by decide
  obtain ⟨⟨past, x⟩, before, h⟩ := Option.bind_eq_some_iff.mp torn
  obtain ⟨⟨trail, y⟩, during, h⟩ := Option.map_eq_some_iff.mp h
  exact ⟨past, x, trail, y, run_of_follow before, run_of_follow during, of_decide_eq_true h⟩

end Traffic
end SerialJobs
