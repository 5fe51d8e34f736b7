import Mathlib.Order.WellFounded
import SerialJobs.Proofs.Representation

/-!
# What the manager holds comes to an end

A manager holds a submission in its slot or in its queue. What it holds is finished as the loop goes
on, unless a job never leaves the slot (`kept_resolves`). The loop goes on if iterations are made
again and again, with kills among them and in any surroundings (`Upkeep`). The load does not rise in
the course of that, so there is a last time that it falls; from then on the slot keeps its job, or
there is nothing left in the slot and in the queue.
-/

namespace SerialJobs

/-- The request is one that a manager may get while nobody submits a job and nobody stops it. -/
def Request.IsUpkeep {J E : Type} : Request J E → Prop
  | submit _ | stop => False
  | _ => True

/-- The request is an iteration of the scheduling loop, whoever makes it. -/
def Request.IsIteration {J E : Type} : Request J E → Prop
  | work | iterate _ => True
  | _ => False

/-- Requests without end: nobody submits a job or stops the manager, and there is always a further
iteration. -/
structure Upkeep {J E : Type} (rs : Nat → Request J E) : Prop where
  upkeep : ∀ k, (rs k).IsUpkeep
  iterates : ∀ k, ∃ j ≥ k, (rs j).IsIteration

namespace Manager

variable {J E : Type} {s : Setup J E} {m m' : Manager J E} {n : Nat}

/-- The handle has not finished. -/
def Unfinished (m : Manager J E) (n : Nat) : Prop :=
  m.state? n = some .queued ∨ m.state? n = some .running

/-- The job of the submission is in the slot. -/
def Occupies (m : Manager J E) (n : Nat) : Prop := m.slot.map (·.ticket.number) = some n

/-- The job of the submission is in the queue. -/
def Queues (m : Manager J E) (n : Nat) : Prop := n ∈ m.queue.map (·.ticket.number)

/-- The manager holds the job of the submission. -/
def Keeps (m : Manager J E) (n : Nat) : Prop := m.Occupies n ∨ m.Queues n

instance (m : Manager J E) (n : Nat) : Decidable (m.Occupies n) :=
  inferInstanceAs (Decidable (_ = _))

instance (m : Manager J E) (n : Nat) : Decidable (m.Queues n) :=
  inferInstanceAs (Decidable (_ ∈ _))

instance (m : Manager J E) (n : Nat) : Decidable (m.Keeps n) :=
  inferInstanceAs (Decidable (_ ∨ _))

lemma mem_waiting_iff : n ∈ m.waiting [] ↔ m.Queues n := by
  rw [waiting, List.append_nil, Queues]

lemma mem_busy_iff {out : List Nat} : n ∈ m.busy out ↔ m.Occupies n ∨ n ∈ out := by
  cases hs : m.slot <;> simp [busy, Occupies, hs, eq_comm]

lemma Placed.running_of_occupies {arriving : List (Waiting J)} {out : List Nat}
    (h : Placed m arriving out) (hn : m.Occupies n) : m.state? n = some .running :=
  (h.running_iff n).mpr (mem_busy_iff.mpr (.inl hn))

lemma Placed.queued_of_queues {arriving : List (Waiting J)} {out : List Nat}
    (h : Placed m arriving out) (hn : m.Queues n) : m.state? n = some .queued := by
  refine h.queued n ?_
  rw [waiting, List.map_append]
  exact List.mem_append_left _ hn

/-- What the manager holds was not taken out of the slot. -/
lemma Placed.notMem_out {out : List Nat} (h : Placed m [] out) (hn : m.Keeps n) : n ∉ out := by
  rcases hn with occupies | queues
  · obtain ⟨o, ho, rfl⟩ := Option.map_eq_some_iff.mp occupies
    have nodup := h.busy_nodup
    simp only [busy, ho, Option.toList_some, List.map_cons, List.map_nil] at nodup
    exact (List.nodup_cons.mp nodup).1
  · intro taken
    exact h.notMem_busy (mem_waiting_iff.mpr queues) (mem_busy_iff.mpr (.inr taken))

/-! ## Going on -/

/-- The manager after the first `k` requests. -/
def along (s : Setup J E) (m : Manager J E) (rs : Nat → Request J E) (k : Nat) : Manager J E :=
  m.after s ((List.range k).map rs)

lemma along_succ (s : Setup J E) (m : Manager J E) (rs : Nat → Request J E) (k : Nat) :
    m.along s rs (k + 1) = ((m.along s rs k).serve s (rs k)).2 := by
  rw [along, List.range_succ, List.map_append, after_append]
  rfl

section Lasting

variable {P : Manager J E → Prop} (hP : Lasting s P)
  (pass : ∀ m env, P m → P { m with env := env })

include hP pass

/-- What lasts in any surroundings holds after upkeep. -/
lemma Lasting.serve (h : P m) {r : Request J E} (upkeep : r.IsUpkeep) : P (m.serve s r).2 := by
  cases r with
  | submit j => exact absurd upkeep id
  | work => exact hP.work h
  | iterate l =>
    have hi := hP.iterate pass h l
    -- without a name for it the kernel would run the iteration
    rcases hm : Service.iterate s l m with ⟨l', m'⟩
    simpa only [Manager.serve, hm] using hi
  | kill id c => exact hP.kill h id c
  | stop => exact absurd upkeep id
  | pass env => exact pass m env h

lemma Lasting.along {rs : Nat → Request J E} (upkeep : Upkeep rs) {k : Nat}
    (h : P (m.along s rs k)) {j : Nat} (later : k ≤ j) : P (m.along s rs j) := by
  induction j, later using Nat.le_induction with
  | base => exact h
  | succ j _ ih =>
    rw [along_succ]
    exact hP.serve pass ih (upkeep.upkeep j)

end Lasting

lemma lasting_load (s : Setup J E) (k : Nat) : Lasting s fun (m : Manager J E) => m.load ≤ k where
  happen h _ := h
  advance h step := by
    have load := step.load
    omega

/-- An iteration that finds the slot free takes the head of the queue. -/
lemma load_work_lt (free : m.slot = none) (waits : m.queue ≠ []) : (m.work s).2.load < m.load := by
  obtain ⟨w, ws, head⟩ := List.exists_cons_of_ne_nil waits
  have due : (m.tickSection s).due.isSome := by
    simp only [tickSection, free, head, startHead]
    split <;> rfl
  have lower : (m.tickSection s).manager.load < m.load := by
    have lowers := lowers_tickSection m s
    rwa [Lowers, if_pos due] at lowers
  obtain ⟨t, ht⟩ := Option.isSome_iff_exists.mp due
  have told := (lasting_load s _).announce (m := (m.tickSection s).manager) le_rfl t
  have work : (m.work s).2 = (m.tickSection s).manager.announce s t := by
    simp only [Manager.work, announceDue, ht]
  rw [work]
  exact told.trans_lt lower

/-- So does an iteration of the loop. -/
lemma load_serve_lt (free : m.slot = none) (waits : m.queue ≠ []) {r : Request J E}
    (iterates : r.IsIteration) : (m.serve s r).2.load < m.load := by
  cases r with
  | work => exact load_work_lt free waits
  | iterate l =>
    have falls : (({ m with env := s.kind.moment m.env } : Manager J E).work s).2.load < m.load :=
      load_work_lt (m := { m with env := s.kind.moment m.env }) free waits
    rcases hr : ({ m with env := s.kind.moment m.env } : Manager J E).work s with ⟨k, m'⟩
    rw [hr] at falls
    have iterated : (Service.iterate s l m).2.load = m'.load := by
      simp only [Service.iterate, hr]
      split <;> rfl
    rcases hm : Service.iterate s l m with ⟨l', m''⟩
    rw [hm] at iterated
    simpa only [serve, hm, iterated] using falls
  | _ => exact absurd iterates id

/-- There is a last time that the load falls. -/
lemma exists_load_rests (s : Setup J E) (m : Manager J E) {rs : Nat → Request J E}
    (upkeep : Upkeep rs) : ∃ k, ∀ j ≥ k, (m.along s rs j).load = (m.along s rs k).load := by
  let load (k : Nat) : Nat := (m.along s rs k).load
  refine ⟨Function.argmin load, ?_⟩
  intro j later
  refine le_antisymm ?_ (Function.argmin_le load j)
  exact (lasting_load s _).along (fun _ _ h => h) upkeep le_rfl later

/-- As long as the load does not fall the slot keeps its job. -/
lemma lasting_occupies (s : Setup J E) (m₀ : Manager J E) :
    Lasting s fun (m : Manager J E) => m.load ≤ m₀.load ∧
      (m.load = m₀.load → m.slot.map (·.ticket) = m₀.slot.map (·.ticket)) where
  happen h _ := h
  advance := by
    rintro m m' d ⟨le, same⟩ step
    have load := step.load
    refine ⟨by omega, ?_⟩
    intro rests
    have before := same (by omega)
    cases step with
    | rest es slot queue handles past told => rw [slot, before]
    | kept held next slot queue handles past attends =>
      rw [← before, slot, held]
      rfl
    | _ =>
      simp only [Option.toList_some, List.length_singleton] at load
      omega

/-- What leaves the queue makes the transition that the section leaves. -/
lemma Advance.queue_or_due {d : Option Transition} (step : Advance s m d m') :
    ∀ w ∈ m.queue, w ∈ m'.queue ∨ ∃ t ∈ d, t.ticket = w.ticket := by
  intro w hw
  cases step with
  | started es free head slot queue handles past told =>
    rw [head] at hw
    rcases List.mem_cons.mp hw with rfl | hw
    · exact .inr ⟨_, rfl, rfl⟩
    · exact .inl (queue ▸ hw)
  | startFailed es free head slot queue handles past failed told =>
    rw [head] at hw
    rcases List.mem_cons.mp hw with rfl | hw
    · exact .inr ⟨_, rfl, rfl⟩
    · exact .inl (queue ▸ hw)
  | rest es slot queue handles past told => exact .inl (queue ▸ hw)
  | kept held next slot queue handles past attends => exact .inl (queue ▸ hw)
  | released held slot queue handles past attends => exact .inl (queue ▸ hw)

/-- No locked section leaves the transition of a new submission. -/
lemma Advance.state_ne_queued {d : Option Transition} (step : Advance s m d m') :
    ∀ t ∈ d, t.state ≠ .queued := by
  cases step <;> simp

/-- A submission waits until it is begun. -/
lemma lasting_queues_or_begun (s : Setup J E) (out : List Nat) (n : Nat) :
    Lasting s fun (m : Manager J E) => Placed m [] out ∧ (m.Queues n ∨ m.Begun n) where
  happen := fun ⟨h, hn⟩ _ => ⟨h.congr ⟨rfl, rfl, rfl⟩, hn⟩
  advance := by
    rintro m m' d ⟨h, hn⟩ step
    refine ⟨h.advance step, ?_⟩
    have states := h.state?_advance step
    rcases hn with queues | begun
    · obtain ⟨w, hw, rfl⟩ := List.mem_map.mp queues
      refine (step.queue_or_due w hw).imp (List.mem_map_of_mem ·) ?_
      rintro ⟨t, ht, same⟩
      rw [Option.mem_def.mp ht] at states
      exact ⟨t.state, by rw [states, ← same]; exact Function.update_self ..,
        step.state_ne_queued t ht⟩
    · refine .inr ?_
      cases d with
      | none => rwa [Begun, states]
      | some t => exact begun_of_update begun states fun _ => step.state_ne_queued t rfl

/-- What the manager holds is finished as the loop goes on, unless a job never leaves the slot. -/
theorem kept_resolves (s : Setup J E) {out : List Nat} (placed : Placed m [] out) (h : m.Keeps n)
    {rs : Nat → Request J E} (upkeep : Upkeep rs) :
    (∃ k e, (m.along s rs k).state? n = some (.finished e)) ∨
      ∃ b k, ∀ j ≥ k, (m.along s rs j).Occupies b := by
  obtain ⟨k₀, rests⟩ := exists_load_rests s m upkeep
  obtain ⟨k, later, iterates⟩ := upkeep.iterates k₀
  rcases held : (m.along s rs k).slot with _ | o
  · -- the iteration would lower the load if there were something to start
    have empty : (m.along s rs k).queue = [] := by
      by_contra waits
      have falls := load_serve_lt (s := s) held waits iterates
      rw [← along_succ, rests k later, rests (k + 1) (by omega)] at falls
      exact falls.ne rfl
    have begins : m.Queues n ∨ m.Begun n := by
      rcases h with occupies | queues
      · exact .inr ⟨.running, placed.running_of_occupies occupies, by simp⟩
      · exact .inl queues
    obtain ⟨placed', begun⟩ := (lasting_queues_or_begun s out n).along
      (fun _ _ h => ⟨h.1.congr ⟨rfl, rfl, rfl⟩, h.2⟩) upkeep (k := 0) ⟨placed, begins⟩
      (Nat.zero_le k)
    obtain ⟨st, hst, hne⟩ := begun.resolve_left (by simp [Queues, empty])
    refine .inl ⟨k, ?_⟩
    cases st with
    | queued => exact absurd rfl hne
    | running =>
      have busy := mem_busy_iff.mp ((placed'.running_iff n).mp hst)
      exact absurd (busy.resolve_left (by simp [Occupies, held])) (placed.notMem_out h)
    | finished e => exact ⟨e, hst⟩
  · refine .inr ⟨o.ticket.number, k, ?_⟩
    intro j later'
    obtain ⟨-, stays⟩ := (lasting_occupies s (m.along s rs k)).along (fun _ _ h => h) upkeep
      ⟨le_rfl, fun _ => rfl⟩ later'
    have same := stays ((rests j (later.trans later')).trans (rests k later).symm)
    rw [held] at same
    obtain ⟨o', ho', ticket⟩ := Option.map_eq_some_iff.mp same
    rw [Occupies, ho', Option.map_some, ticket]

end Manager
end SerialJobs
