import SerialJobs.Proofs.Traffic

/-!
# Starts while a stop is waiting

While a stop waits for its job, the slot is free and the queue is not drained. So another caller's
iteration can start the next job, and then two handles are running. At every moment the running
handles are those of the job in the slot and of the jobs that stops have taken out of it and not
finished; there is at most one of them all the time exactly when no job is started while a stop has
one out of the slot (`at_most_one_running_iff`). `overlap` is a run in which that happens.
-/

namespace SerialJobs
namespace Traffic

open Manager

variable {J E : Type} {s : Setup J E} {x y : Traffic J E} {mv : Move J E}

/-- At most one submission's handle is running. -/
def AtMostOne (x : Traffic J E) : Prop :=
  ∀ a b, x.manager.state? a = some .running → x.manager.state? b = some .running → a = b

/-- The locked section of the move starts a job. -/
def Starts (s : Setup J E) (x : Traffic J E) (mv : Move J E) : Prop :=
  ∃ t ∈ x.leaves s mv, t.state = .running

instance (s : Setup J E) (x : Traffic J E) (mv : Move J E) : Decidable (Starts s x mv) :=
  inferInstanceAs (Decidable (∃ t ∈ x.leaves s mv, t.state = .running))

/-- The submissions that are busy. -/
def busy (x : Traffic J E) : List Nat := x.manager.busy x.out

lemma length_le_one_iff {l : List Nat} (h : l.Nodup) :
    l.length ≤ 1 ↔ ∀ a ∈ l, ∀ b ∈ l, a = b := by
  rcases l with _ | ⟨a, _ | ⟨b, l⟩⟩
  · simp
  · simp
  · have hne : a ≠ b := by
      rintro rfl
      simp at h
    simpa using fun hab => absurd hab hne

lemma atMostOne_iff (h : Placed x.manager x.arriving x.out) : AtMostOne x ↔ x.busy.length ≤ 1 := by
  rw [busy, length_le_one_iff h.busy_nodup]
  simp only [AtMostOne, h.running_iff]
  exact ⟨fun hx a ha b hb => hx a b ha hb, fun hx a b ha hb => hx a ha b hb⟩

/-- A locked section starts a job while the slot is free, or it starts none, and then one submission
at most is done with. -/
lemma busy_of_advance {m m' : Manager J E} {d : Option Transition} (step : Advance s m d m')
    (out : List Nat) :
    ((∀ t, d = some t → t.state ≠ .running) ∧
        (m'.busy out = m.busy out ∨ ∃ n, m.busy out = n :: m'.busy out)) ∨
      ((∃ t, d = some t ∧ t.state = .running) ∧ ∃ n, m'.busy out = n :: out) := by
  cases step with
  | rest es slot queue handles past told =>
    exact .inl ⟨by simp, .inl (by simp [Manager.busy, slot])⟩
  | started es free head slot queue handles past told =>
    exact .inr ⟨⟨_, rfl, rfl⟩, _, by rw [Manager.busy, slot]; rfl⟩
  | startFailed es free head slot queue handles past failed told =>
    exact .inl ⟨by simp, .inl (by simp [Manager.busy, slot, free])⟩
  | kept held next slot queue handles past attends =>
    exact .inl ⟨by simp, .inl (by simp [Manager.busy, slot, held])⟩
  | @released o e x d es n m' held slot queue handles past attends exited =>
    exact .inl ⟨by simp, .inr ⟨o.ticket.number, by simp [Manager.busy, slot, held]⟩⟩

/-- A move starts no job, and then no submission gets busy and one at most is done with; or it
starts a job while the slot is free. -/
lemma busy_of_effect (effect : Effect s x mv y) :
    (¬ Starts s x mv ∧ (y.busy.Perm x.busy ∨ ∃ n, x.busy.Perm (n :: y.busy))) ∨
      (Starts s x mv ∧ ∃ n, y.busy = n :: x.out) := by
  have idle : x.leaves s mv = none → ¬ Starts s x mv := by
    rintro hn ⟨t, ht, -⟩
    simp [hn] at ht
  unfold busy
  cases effect with
  | quiet leaves silent alike arriving due told out records =>
    exact .inl ⟨idle leaves, .inl (by rw [out, alike.busy])⟩
  | arrive number alike arriving due told out records =>
    exact .inl ⟨idle rfl, .inl (by rw [out, alike.busy]; rfl)⟩
  | push arriving alike arriving' due told out records =>
    exact .inl ⟨idle rfl, .inl (by rw [out, alike.busy]; rfl)⟩
  | advance silent advance arriving due told out =>
    rw [out]
    rcases busy_of_advance advance x.out with ⟨hd, hb | ⟨n, hb⟩⟩ | ⟨hd, hb⟩
    · exact .inl ⟨fun ⟨t, ht, hr⟩ => hd t ht hr, .inl (.of_eq hb)⟩
    · exact .inl ⟨fun ⟨t, ht, hr⟩ => hd t ht hr, .inr ⟨n, .of_eq hb⟩⟩
    · exact .inr ⟨hd, hb⟩
  | publish due place alike arriving due' told out records =>
    exact .inl ⟨idle rfl, .inl (by rw [out, alike.busy])⟩
  | take held manager arriving due told out =>
    refine .inl ⟨idle rfl, .inl ?_⟩
    rw [manager, out]
    simp only [Manager.busy, held, Option.toList_none, Option.toList_some, List.map_nil,
      List.map_cons, List.nil_append, List.singleton_append]
    exact List.perm_append_singleton _ _
  | @finish i y a b o e m alike out manager arriving due told out' records =>
    refine .inl ⟨idle rfl, .inr ⟨o.ticket.number, ?_⟩⟩
    rw [out, out', manager, ← alike.busy]
    simp only [Manager.busy, ← List.append_assoc]
    exact List.perm_middle
  | drain alike arriving due told out records =>
    exact .inl ⟨idle rfl, .inl (by rw [out, alike.busy]; rfl)⟩

/-- From a moment with at most one running handle, a move leads to another one exactly when it does
not start a job while a stop has one out of the slot. -/
lemma atMostOne_step (hx : Placed x.manager x.arriving x.out) (effect : Effect s x mv y)
    (one : AtMostOne x) : AtMostOne y ↔ (x.out ≠ [] → ¬ Starts s x mv) := by
  rw [atMostOne_iff hx] at one
  rw [atMostOne_iff (placed_of_effect hx effect)]
  rcases busy_of_effect effect with ⟨hs, hb⟩ | ⟨hs, n, hb⟩
  · have hle : y.busy.length ≤ 1 := by
      rcases hb with hb | ⟨n, hb⟩
      · rwa [hb.length_eq]
      · rw [hb.length_eq, List.length_cons] at one
        omega
    exact iff_of_true hle fun _ => hs
  · rw [hb, List.length_cons]
    constructor
    · intro hle hout
      exact absurd (List.length_pos_iff.mpr hout) (by omega)
    · intro hno
      have hout : x.out = [] := by
        by_contra hne
        exact hno hne hs
      rw [hout]
      simp

/-- At every moment of a run the running handles are those of the job in the slot and of the jobs
that stops have taken out of it and not finished. There is at most one at every moment of the run
exactly when no move of it starts a job while a stop has one out of the slot. -/
theorem at_most_one_running_iff {env : E} {trail : List (Traffic J E × Move J E)}
    (h : Run s (fresh env) trail x) :
    (∀ y ∈ visited trail x, ∀ n, y.manager.state? n = some .running ↔
      (∃ o, y.manager.slot = some o ∧ o.ticket.number = n) ∨ n ∈ y.out) ∧
    ((∀ y ∈ visited trail x, AtMostOne y) ↔ ∀ p ∈ trail, p.1.out ≠ [] → ¬ Starts s p.1 p.2) := by
  constructor
  · intro y hy n
    obtain ⟨trail', h'⟩ := h.of_visited hy
    rw [(placed_of_run h').running_iff n]
    simp [Manager.busy]
  · induction h with
    | nil => simp [visited, AtMostOne, fresh, manager, Manager.fresh, state?]
    | @snoc trail x y mv past last ih =>
      rw [visited_snoc, List.forall_mem_append, List.forall_mem_append, ih,
        List.forall_mem_singleton, List.forall_mem_singleton]
      -- up to the last move there is one at most, and so it depends on this move alone
      refine and_congr_right ?_
      intro hno
      have one : AtMostOne x := ih.mpr hno x (by simp [visited])
      exact atMostOne_step (placed_of_run past) (effect_of_step last) one

/-- Of two jobs the first is started and the second is queued, and a stop has taken the first one
out of the slot and signalled it. -/
def meeting : List (Move Worker Host) :=
  [.arrive (.endless 1), .push 0, .arrive (.endless 2), .push 0, .tick, .publish 0, .take,
    .signal 0]

lemma not_atMostOne_meeting : ∃ trail x,
    follow .bare (fresh {}) (meeting ++ [.tick]) = some (trail, x) ∧ ¬ AtMostOne x := by
  have two : ((follow .bare (fresh {}) (meeting ++ [.tick])).map fun r =>
      (r.2.manager.state? 0, r.2.manager.state? 1)) = some (some .running, some .running) := by
    decide
  obtain ⟨⟨trail, x⟩, hr, heq⟩ := Option.map_eq_some_iff.mp two
  obtain ⟨h0, h1⟩ := Prod.mk.inj heq
  exact ⟨trail, x, hr, fun one => absurd (one 0 1 h0 h1) (by simp)⟩

/-- After `meeting` the stop may go on and a caller may start the second job then, with at most one
handle running all the time; but a caller who has an iteration at once starts it while the stop has
the first one out of the slot. -/
theorem at_most_one_running_iff_meeting :
    (∃ trail x,
      follow .bare (fresh {}) (meeting ++ [.await 0, .publish 0, .tick]) = some (trail, x) ∧
        ∀ y ∈ visited trail x, AtMostOne y) ∧
    ∃ trail x, follow .bare (fresh {}) (meeting ++ [.tick]) = some (trail, x) ∧
      ∃ p ∈ trail, p.1.out ≠ [] ∧ Starts .bare p.1 p.2 := by
  constructor
  · have orderly : ((follow .bare (fresh {})
        (meeting ++ [.await 0, .publish 0, .tick])).map fun r =>
          decide (∀ p ∈ r.1, p.1.out ≠ [] → ¬ Starts .bare p.1 p.2)) = some true := by decide
    obtain ⟨⟨trail, x⟩, hr, hno⟩ := Option.map_eq_some_iff.mp orderly
    have no : ∀ p ∈ trail, p.1.out ≠ [] → ¬ Starts .bare p.1 p.2 := of_decide_eq_true hno
    exact ⟨trail, x, hr, (at_most_one_running_iff (run_of_follow hr)).2.mpr no⟩
  · obtain ⟨trail, x, hr, hx⟩ := not_atMostOne_meeting
    refine ⟨trail, x, hr, ?_⟩
    by_contra hno
    simp only [not_exists, not_and] at hno
    exact hx ((at_most_one_running_iff (run_of_follow hr)).2.mpr hno x (by simp [visited]))

/-- Two handles are running once a caller's iteration has come in while a stop is waiting. -/
theorem two_running_across_stop :
    ¬ ∀ trail x, Run Setup.bare (fresh ({} : Host)) trail x → AtMostOne x := by
  intro h
  obtain ⟨trail, x, hr, hx⟩ := not_atMostOne_meeting
  exact hx (h trail x (run_of_follow hr))

end Traffic
end SerialJobs
