import SerialJobs.Proofs.Conclusion
import SerialJobs.Proofs.Fifo
import SerialJobs.Proofs.Lock
import SerialJobs.Proofs.Reporting

/-!
# Sinks that call back

A sink may call the manager back whenever it is told of something, any finite number of times, and
panic after that. A call of a caller returns nevertheless, and without waiting for itself; the sink
is told of no more transitions than the jobs in the slot and in the queue can make, and the new
submission; it is told of all of them, in their order; and the queue keeps its order. The job in the
slot is the only one with a running handle, unless a stop has panicked before
(`reentrant_calls_return`).
-/

namespace SerialJobs
namespace Manager

variable {J E : Type} {s : Setup J E} {m m' : Manager J E}

/-! ## How often the sink is told -/

lemma records_happen {e : Event} (he : e.record? = none) : (m.happen e).records = m.records := by
  simp [records, history, happen, he]

lemma length_records_tell (s : Setup J E) (m : Manager J E) (t : Transition) :
    (m.tell s t).2.records.length ≤ m.records.length + 1 := by
  rw [(adds_tell s m t).records, List.length_append]
  cases s.sink <;> simp

/-- Every record uses up some of the load. -/
lemma steady_load (s : Setup J E) (k : Nat) :
    Steady s fun (m : Manager J E) => m.records.length + m.load ≤ k where
  happen h _ he := by
    rw [records_happen he, load_happen]
    exact h
  rest h step := by
    have load := step.load
    rw [step.adds.records_eq]
    simp only [Option.toList_none, List.length_nil] at load
    omega
  told {m m' t} h step := by
    have load := step.load
    have told := length_records_tell s m' t
    rw [step.adds.records_eq] at told
    rw [load_tell]
    simp only [Option.toList_some, List.length_singleton] at load
    omega

/-- A submission that was announced gets to the queue, and those who look after the manager are told
so. -/
lemma records_submit (s : Setup J E) (m : Manager J E) (j : J) :
    (m.submit s j).2.records = ((m.register s (m.nextTicket s j)).announce s
      ⟨m.nextTicket s j, .queued, none⟩).records :=
  records_happen (e := .noted (.jobQueued ..)) rfl

/-- A call tells the sink of two transitions for every queued job at most, of one for the job in the
slot, and of the new submission. -/
lemma length_records_serve (s : Setup J E) (m : Manager J E) (c : Call J) :
    (m.serve s c.request).2.records.length ≤
      m.records.length + (2 * m.queue.length + (if m.slot.isSome then 1 else 0) + 1) := by
  have bound : (m.serve s c.request).2.records.length ≤ m.records.length + m.load + 1 := by
    cases c with
    | submit j =>
      set t := m.nextTicket s j
      have told : ((m.register s t).tell s ⟨t, .queued, none⟩).2.records.length +
          ((m.register s t).tell s ⟨t, .queued, none⟩).2.load ≤ m.records.length + m.load + 1 := by
        have new := length_records_tell s (m.register s t) ⟨t, .queued, none⟩
        have same : (m.register s t).load = m.load := rfl
        rw [(adds_register s m t).records_eq] at new
        rw [load_tell, same]
        omega
      have kept := (steady_load s _).announce told
      change (m.submit s j).2.records.length ≤ _
      rw [records_submit]
      exact (Nat.le_add_right ..).trans kept
    | work =>
      have kept := (steady_load s _).work (m := m) le_rfl
      change (m.work s).2.records.length ≤ _
      omega
    | kill id c =>
      have kept := (steady_load s _).kill (m := m) le_rfl id c
      change (m.kill s id c).2.records.length ≤ _
      omega
  have load : m.load = 2 * m.queue.length + (if m.slot.isSome then 1 else 0) := by
    cases hs : m.slot <;> simp [Manager.load, hs]
  omega

/-! ## What the sink is told -/

/-- Whenever the sink is told of a transition, it has been told of all those before. -/
lemma steady_relayed (s : Setup J E) : Steady s (Relayed s : Manager J E → Prop) where
  happen {m e} h news he sink := by
    rw [records_happen he, h sink]
    simp [transitions, history, Manager.happen, news.transition?_eq_none]
  rest h step := h.silent step.adds
  told h step := h.told (step.adds.trans (adds_tell ..))

namespace Relayed

lemma submit (h : Relayed s m) (j : J) : Relayed s (m.submit s j).2 := by
  have told := h.told ((adds_register s m (m.nextTicket s j)).trans
    (adds_tell s _ ⟨m.nextTicket s j, .queued, none⟩))
  have announced := (steady_relayed s).announce told
  exact announced.silent (.silent [.noted (.jobQueued ..)] rfl (by simpa using ⟨rfl, rfl, rfl⟩))

lemma stop (h : Relayed s m) : Relayed s (m.stop s).2 := by
  refine stop_keeps ?_ (fun _ => h) ?_ ?_
  · intro m' i n h
    exact h.silent (.silent [.noted (.stopped i n)] rfl (by simpa using ⟨rfl, rfl, rfl⟩))
  · intro o w e m' departed
    exact (steady_relayed s).announce (h.told (departed.adds_finish.trans (adds_tell ..)))
  · intro o w e m' departed
    exact h.silent departed.adds

lemma serve (h : Relayed s m) (r : Request J E) : Relayed s (m.serve s r).2 := by
  cases r with
  | submit j => exact h.submit j
  | work => exact (steady_relayed s).work h
  | iterate l =>
    have hi := (steady_relayed s).iterate (fun _ _ h => h.silent (.same rfl)) h l
    rcases hm : Service.iterate s l m with ⟨l', m'⟩
    simpa only [Manager.serve, hm] using hi
  | kill id c => exact (steady_relayed s).kill h id c
  | stop => exact h.stop
  | pass env => exact h.silent (.same rfl)

theorem after (h : Relayed s m) (rs : List (Request J E)) : Relayed s (m.after s rs) := by
  induction rs using List.reverseRecOn with
  | nil => exact h
  | append_singleton rs r ih =>
    rw [after_append]
    exact ih.serve r

end Relayed

/-- The states that a handle enters come in the order of a life, also if there is no such handle. -/
lemma Chronicled.course (h : Chronicled [] m) (n : Nat) :
    (∃ e, m.course n <+: [.queued, .running, .finished e]) ∨
      ∃ reason, m.course n <+: [.queued, .finished (.startFailed reason)] := by
  rcases Nat.lt_or_ge n m.handles.length with hn | hn
  · obtain ⟨t, rfl, x, -, life⟩ := h.lives n hn
    exact (truthful_of_life life).course
  · have none : m.course n = [] := by
      rw [Manager.course, statesOf, List.map_eq_nil_iff, List.filter_eq_nil_iff]
      intro t ht
      simpa using ((h.known t ht).trans_le hn).ne
    exact .inl ⟨.completed, none ▸ List.nil_prefix⟩

/-! ## Where submissions are -/

/-- The submission that a call puts in the queue. -/
def arrival (s : Setup J E) (m : Manager J E) : Call J → List (Waiting J)
  | .submit j => [⟨m.nextTicket s j, j⟩]
  | _ => []

/-- A call takes away the first jobs of the queue at most, and puts its own at the end. -/
lemma queue_serve (s : Setup J E) (m : Manager J E) (c : Call J) :
    ∃ q, (m.serve s c.request).2.queue = q ++ m.arrival s c ∧ q <:+ m.queue := by
  cases c with
  | submit j =>
    obtain ⟨q, queue, suffix, -⟩ := queue_submit s m j
    exact ⟨q, queue, suffix⟩
  | work =>
    have suffix := (lasting_suffix s m.queue).work (List.suffix_refl _)
    exact ⟨_, (List.append_nil _).symm, suffix⟩
  | kill id c =>
    have suffix := (lasting_suffix s m.queue).kill (List.suffix_refl _) id c
    exact ⟨_, (List.append_nil _).symm, suffix⟩

/-- The running handle is that of the job in the slot, and there is no other. -/
def Sole (m : Manager J E) : Prop :=
  ∀ n, m.state? n = some .running ↔ ∃ o, m.slot = some o ∧ o.ticket.number = n

lemma Sole.isSome_iff (h : m.Sole) :
    m.slot.isSome ↔ ∃! n, m.state? n = some .running := by
  constructor
  · intro held
    obtain ⟨o, ho⟩ := Option.isSome_iff_exists.mp held
    refine ⟨o.ticket.number, (h _).mpr ⟨o, ho, rfl⟩, ?_⟩
    intro n hn
    obtain ⟨o', ho', rfl⟩ := (h n).mp hn
    rw [Option.some.inj (ho'.symm.trans ho)]
  · rintro ⟨n, hn, -⟩
    obtain ⟨o, ho, -⟩ := (h n).mp hn
    exact ho ▸ rfl

/-- The running handles are those of the job in the slot and of the jobs that stops have lost. -/
lemma Placed.sole_iff {out : List Nat} (h : Placed m [] out) : m.Sole ↔ out = [] := by
  have slot : ∀ n, n ∈ m.slot.toList.map (·.ticket.number) ↔
      ∃ o, m.slot = some o ∧ o.ticket.number = n := by simp
  constructor
  · intro sole
    refine List.eq_nil_iff_forall_not_mem.mpr fun n hn => ?_
    have running : m.state? n = some .running :=
      (h.running_iff n).mpr (List.mem_append_right _ hn)
    -- it would be both in the slot and out of it
    have held := (slot n).mpr ((sole n).mp running)
    exact (List.nodup_append.mp h.busy_nodup).2.2 n held n hn rfl
  · rintro rfl n
    rw [h.running_iff n, busy, List.append_nil]
    exact slot n

/-- A request that completes loses no job, and one that panics loses one. -/
lemma placed_serve {out : List Nat} (h : Placed m [] out) (r : Request J E) :
    ∃ out', Placed (m.serve s r).2 [] out' ∧
      (out' = [] ↔ out = [] ∧ (m.serve s r).1.isOk) := by
  by_cases hr : r = .stop
  · subst hr
    have conclude : ∀ {m' : Manager J E} (i : Option JobId) (n : Nat), Placed m' [] out →
        Placed (({ m' with queue := [] } : Manager J E).note (.stopped i n)) [] out :=
      fun i n h => h.drain.congr ⟨rfl, rfl, rfl⟩
    have halted := halted_stop s m
    change ∃ out', Placed (m.stop s).2 [] out' ∧ (out' = [] ↔ out = [] ∧ ((m.stop s).1.map _).isOk)
    generalize (m.stop s).1 = x, (m.stop s).2 = m' at halted
    cases halted with
    | idle free => exact ⟨out, conclude _ _ h, by simp [Except.map, Except.isOk, Except.toBool]⟩
    | @ended o x e m₁ m₂ departed ends announced =>
      have finished : Placed (m₁.finish s o e).2 [] out :=
        Placed.finish (a := []) (departed.placed h) e
      have placed := ((admitting_placed s out).lasting []).announce finished (m₁.finish s o e).1
      rw [← announced] at placed
      exact ⟨out, conclude _ _ placed, by simp [Except.map, Except.isOk, Except.toBool]⟩
    | broken departed panics =>
      exact ⟨_, departed.placed h, by simp [Except.map, Except.isOk, Except.toBool]⟩
  · obtain ⟨a, ha⟩ := serve_completes s m hr
    exact ⟨out, (admitting_placed s out).serve h hr, by simp [ha, Except.isOk, Except.toBool]⟩

/-- The job in the slot is the only one with a running handle exactly if no request has panicked. -/
lemma sole_after (s : Setup J E) (env : E) (rs : List (Request J E)) :
    (after s (.fresh env) rs).Sole ↔ (answers s (.fresh env) rs).all (·.isOk) := by
  have placed : ∃ out, Placed (after s (.fresh env) rs) [] out ∧
      (out = [] ↔ (answers s (.fresh env) rs).all (·.isOk)) := by
    induction rs using List.reverseRecOn with
    | nil => exact ⟨[], .fresh env, by simp [answers]⟩
    | append_singleton rs r ih =>
      obtain ⟨out, placed, lost⟩ := ih
      obtain ⟨out', placed', lost'⟩ := placed_serve (s := s) placed r
      refine ⟨out', after_append s _ rs [r] ▸ placed', ?_⟩
      rw [lost', lost, answers_append, List.all_append, Bool.and_eq_true]
      simp [answers]
  obtain ⟨out, placed, lost⟩ := placed
  exact placed.sole_iff.trans lost

/-! ## Calls -/

/-- After any requests, whatever calls the sink makes when it is told of something, and whether it
panics after that or not, a call of a caller returns: at any point of it the caller gets on to its
end, and the slot is never locked when a call of the sink comes to lock it. The sink is told of two
transitions for every queued job at most, of one for the job in the slot, and of one more. It has
been told of all transitions in their order, those of one submission in the order of its life. The
queue loses its first jobs at most and gets the submission at its end. The slot is occupied exactly
if one handle is running, which is that of the job in the slot; this last holds exactly if no stop
has panicked before. -/
theorem reentrant_calls_return (s : Setup J E) (env : E) (rs : List (Request J E)) (c : Call J) :
    let m := after s (.fresh env) rs
    let m' := (m.serve s c.request).2
    Machine.Returns s ⟨false, c.instrs, m⟩ m' ∧
      m'.records.length ≤
        m.records.length + (2 * m.queue.length + (if m.slot.isSome then 1 else 0) + 1) ∧
      ((s.sink.isSome → m'.records = m'.transitions.map Transition.record) ∧
        ∀ n, (∃ e, m'.course n <+: [.queued, .running, .finished e]) ∨
          ∃ reason, m'.course n <+: [.queued, .finished (.startFailed reason)]) ∧
      (∃ q, m'.queue = q ++ m.arrival s c ∧ q <:+ m.queue) ∧
      (((answers s (.fresh env) rs).all (·.isOk) →
          (m'.slot.isSome ↔ ∃! n, m'.state? n = some .running)) ∧
        (m'.Sole ↔ (answers s (.fresh env) rs).all (·.isOk))) := by
  intro m m'
  have next : m' = after s (.fresh env) (rs ++ [c.request]) :=
    (after_append s (.fresh env) rs [c.request]).symm
  have relayed : Relayed s m' := next ▸ Relayed.after (fun _ => rfl) _
  have chronicled : Chronicled [] m' := next ▸ (lifelong_chronicled s).after (.fresh env) _
  have sole : m'.Sole ↔ (answers s (.fresh env) rs).all (·.isOk) := by
    have noStop : (c.request : Request J E) ≠ .stop := by cases c <;> simp [Call.request]
    obtain ⟨a, ha⟩ := serve_completes s m noStop
    rw [next, sole_after, answers_append, List.all_append, Bool.and_eq_true]
    refine and_iff_left ?_
    simp [answers, m, ha, Except.isOk, Except.toBool]
  exact ⟨Machine.machine_returns s m c, length_records_serve s m c, ⟨relayed, chronicled.course⟩,
    queue_serve s m c, fun ok => (sole.mpr ok).isSome_iff, sole⟩

/-- Workers, and a sink that makes an iteration whenever a job is queued. -/
def eager : Setup Worker Host :=
  { Setup.bare with
    sink := some ⟨fun _ r => if r.state = .queued then { acts := [.work] } else {}⟩ }

/-- A stop has panicked, and the job that was in the slot keeps its running handle. After the next
submission the slot is free, and there is one running handle. -/
theorem running_without_slot :
    let m := after eager (.fresh {}) [.submit fragile, .work, .stop]
    let m' := (m.serve eager (Call.submit (.endless 2)).request).2
    ¬(m'.slot.isSome ↔ ∃! n, m'.state? n = some .running) := by
  have outcome : ((((after eager (.fresh {}) [.submit fragile, .work, .stop]).serve eager
      (Call.submit (.endless 2)).request).2.slot.isSome,
      ((after eager (.fresh {}) [.submit fragile, .work, .stop]).serve eager
        (Call.submit (.endless 2)).request).2.handles.map (·.state)) : Bool × List JobState) =
      (false, [.running, .queued]) := of_decide_eq_true (by cbv)
  intro m m'
  obtain ⟨free, states⟩ := Prod.mk.inj outcome
  have state : ∀ n, m'.state? n = [JobState.running, .queued][n]? := by
    intro n
    rw [← states, List.getElem?_map, Manager.state?]
  rw [free, Bool.false_eq_true, false_iff, not_not]
  refine ⟨0, state 0, ?_⟩
  intro n hn
  rw [state] at hn
  rcases n with _ | _ | n
  · rfl
  · simp at hn
  · simp at hn

end Manager
end SerialJobs
