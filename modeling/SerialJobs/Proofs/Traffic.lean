import SerialJobs.Proofs.Course
import SerialJobs.Proofs.Records

/-!
# Traffic of many callers

Callers that hold the same manager make their calls at the same time. A call is then a row of
moves, and the moves of other callers come in between: a submission is told to the sink and then
gets to the queue; an iteration and a kill are a locked section and then the announcement of the
transition that the section left; a stop takes the job out of the slot, signals it, waits for it and
finishes it, and drains the queue once the end of the job is announced. A sink that calls back is
one more caller.

`Traffic` is the manager together with what its callers are in the middle of, and `Traffic.step`
makes one move. `Effect` lists what a move does to submissions and to what is still to be announced,
and `effect_of_step` says that there is nothing else. The calls of a caller who is alone are among
the runs (`Traffic.leads_of_served`).
-/

namespace SerialJobs

/-- How far a stop has got. -/
inductive Phase (J : Type)
  /-- The job is taken out of the slot. -/
  | taken (o : Occupant J)
  /-- The job is signalled and waited for, and will be given this exit. -/
  | waiting (o : Occupant J) (exit : Exit) (job : J)
  /-- The wait panicked, and the stop with it. -/
  | broken (o : Occupant J) (p : PanicPayload)
  /-- There is no job, or it is finished, by this transition. -/
  | cleared (ended : Option Transition)
  /-- The stop is over. -/
  | over (r : Report J)

/-- The submission that a stop has taken out of the slot and not finished. -/
def Phase.out {J : Type} : Phase J → List Nat
  | .taken o | .waiting o _ _ | .broken o _ => [o.ticket.number]
  | .cleared _ | .over _ => []

/-- A manager and its loop, with the calls that are under way. -/
structure Traffic (J E : Type) where
  service : Service J E
  /-- The jobs that were announced and are not in the queue yet. -/
  arriving : List (Waiting J) := []
  /-- The transitions that were made and not announced yet. -/
  due : List Transition := []
  /-- The transitions that were announced, in order. -/
  told : List Transition := []
  /-- The stops, those included that are over. -/
  stops : List (Phase J) := []

/-- A move of one of the callers, of the loop, or of the surroundings. -/
inductive Move (J E : Type)
  /-- A submission gets its handle and is announced. -/
  | arrive (j : J)
  /-- A submission gets to the queue. -/
  | push (i : Nat)
  /-- The locked section of an iteration. -/
  | tick
  /-- The locked section of a kill. -/
  | kill (id : JobId) (c : KillCommand)
  /-- A transition is announced. -/
  | publish (i : Nat)
  /-- The loop is started. -/
  | start (runtime : Bool)
  /-- A stop tells the loop to end. -/
  | tell
  /-- The loop that was told to ends. -/
  | endLoop
  /-- The loop tells the audit log of a heartbeat. -/
  | beat
  /-- A stop takes the job out of the slot. -/
  | take
  /-- A stop signals its job. -/
  | signal (i : Nat)
  /-- A stop has waited for its job. -/
  | await (i : Nat)
  /-- A stop drains the queue. -/
  | drain (i : Nat)
  /-- The surroundings turn into the given ones. -/
  | pass (env : E)

namespace Traffic

open Manager

variable {J E : Type}

/-- A manager that nothing was submitted to, and no callers. -/
def fresh (env : E) : Traffic J E := { service := { manager := .fresh env } }

/-- The manager that the callers share. -/
def manager (x : Traffic J E) : Manager J E := x.service.manager

/-- The traffic with another manager in place of its own. -/
def withManager (x : Traffic J E) (m : Manager J E) : Traffic J E :=
  { x with service := { x.service with manager := m } }

/-- The submissions that stops have taken out of the slot and not finished. -/
def out (x : Traffic J E) : List Nat := x.stops.flatMap Phase.out

/-- The transition that the locked section of a move leaves. -/
def leaves (s : Setup J E) (x : Traffic J E) : Move J E → Option Transition
  | .tick => (x.manager.tickSection s).due
  | .kill id c => (x.manager.killSection s id c).due
  | _ => none

/-- The transition that a move announces, other than that of a new submission. -/
def announces (x : Traffic J E) : Move J E → Option Transition
  | .publish i => x.due[i]?
  | _ => none

/-- After a locked section. -/
def afterSection {α : Type} (x : Traffic J E) (r : Section J E α) : Traffic J E :=
  { x.withManager r.manager with due := x.due ++ r.due.toList }

/-- One move, if it can be made. -/
def step (s : Setup J E) (x : Traffic J E) : Move J E → Option (Traffic J E)
  | .arrive j =>
    let t := x.manager.nextTicket s j
    some { x.withManager ((x.manager.register s t).publish s ⟨t, .queued, none⟩) with
      arriving := x.arriving ++ [⟨t, j⟩], told := x.told ++ [⟨t, .queued, none⟩] }
  | .push i =>
    x.arriving[i]?.map fun w =>
      let m := x.manager.enqueue w
      { x.withManager (m.note (.jobQueued w.ticket.id w.ticket.label m.queue.length)) with
        arriving := x.arriving.eraseIdx i }
  | .tick => some (x.afterSection (x.manager.tickSection s))
  | .kill id c => some (x.afterSection (x.manager.killSection s id c))
  | .publish i =>
    x.due[i]?.map fun t =>
      { x.withManager (x.manager.publish s t) with
        due := x.due.eraseIdx i, told := x.told ++ [t] }
  | .start runtime => some { x with service := (x.service.start s runtime).2 }
  | .tell => some { x with service := x.service.tell }
  | .endLoop =>
    if x.service.loop.any (·.told) then some { x with service := x.service.endLoop } else none
  | .beat => some (x.withManager (x.manager.audit (.heartbeat (x.manager.snapshot true))))
  | .take =>
    match x.manager.vacate with
    | (none, m) => some { x.withManager m with stops := x.stops ++ [.cleared none] }
    | (some o, m) => some { x.withManager m with stops := x.stops ++ [.taken o] }
  | .signal i =>
    match x.stops[i]? with
    | some (.taken o) =>
      let (e, j, m) := x.manager.signalLast s o
      some { x.withManager m with stops := x.stops.set i (.waiting o e j) }
    | _ => none
  | .await i =>
    match x.stops[i]? with
    | some (.waiting o e j) =>
      match x.manager.awaitExit s o.ticket j with
      | (.error p, m) => some { x.withManager m with stops := x.stops.set i (.broken o p) }
      | (.ok (), m) =>
        let (t, m) := m.finish s o e
        some { x.withManager m with
          due := x.due ++ [t], stops := x.stops.set i (.cleared (some t)) }
    | _ => none
  | .drain i =>
    match x.stops[i]? with
    | some (.cleared ended) =>
      if ∀ t ∈ ended, t ∉ x.due then
        let (r, m) := x.manager.concludeStop (ended.map (·.ticket.id))
        some { x.withManager m with stops := x.stops.set i (.over r) }
      else none
    | _ => none
  | .pass env => some (x.withManager { x.manager with env := env })

/-- Moves made one after the other: each with the traffic before it, and the traffic after all. -/
inductive Run (s : Setup J E) (x₀ : Traffic J E) :
    List (Traffic J E × Move J E) → Traffic J E → Prop
  | nil : Run s x₀ [] x₀
  | snoc {trail : List (Traffic J E × Move J E)} {x y : Traffic J E} {mv : Move J E}
      (past : Run s x₀ trail x) (last : x.step s mv = some y) : Run s x₀ (trail ++ [(x, mv)]) y

/-- The traffic at every moment of a run. -/
def visited (trail : List (Traffic J E × Move J E)) (x : Traffic J E) : List (Traffic J E) :=
  trail.map Prod.fst ++ [x]

lemma visited_snoc (trail : List (Traffic J E × Move J E)) (x y : Traffic J E) (mv : Move J E) :
    visited (trail ++ [(x, mv)]) y = visited trail x ++ [y] := by
  simp [visited]

lemma Run.trans {s : Setup J E} {x y z : Traffic J E} {trail trail' : List (Traffic J E × Move J E)}
    (h : Run s x trail y) (h' : Run s y trail' z) : Run s x (trail ++ trail') z := by
  induction h' with
  | nil => simpa using h
  | snoc past last ih =>
    rw [← List.append_assoc]
    exact ih.snoc last

lemma Run.of_visited {s : Setup J E} {x₀ x y : Traffic J E} {trail : List (Traffic J E × Move J E)}
    (h : Run s x₀ trail x) (hy : y ∈ visited trail x) : ∃ trail', Run s x₀ trail' y := by
  induction h with
  | nil => exact ⟨[], (List.mem_singleton.mp hy) ▸ .nil⟩
  | snoc past last ih =>
    rw [visited_snoc, List.mem_append, List.mem_singleton] at hy
    rcases hy with hy | rfl
    · exact ih hy
    · exact ⟨_, past.snoc last⟩

/-- Makes the moves, if they can be made. -/
def follow (s : Setup J E) (x₀ : Traffic J E) (mvs : List (Move J E)) :
    Option (List (Traffic J E × Move J E) × Traffic J E) :=
  mvs.foldlM (fun p mv => (p.2.step s mv).map fun y => (p.1 ++ [(p.2, mv)], y)) ([], x₀)

lemma run_of_follow {s : Setup J E} {x₀ x : Traffic J E} {mvs : List (Move J E)}
    {trail : List (Traffic J E × Move J E)} (h : follow s x₀ mvs = some (trail, x)) :
    Run s x₀ trail x := by
  induction mvs using List.reverseRecOn generalizing trail x with
  | nil =>
    cases h
    exact .nil
  | append_singleton mvs mv ih =>
    rw [follow, List.foldlM_append] at h
    obtain ⟨⟨trail', x'⟩, hp, h⟩ := Option.bind_eq_some_iff.mp h
    simp only [List.foldlM_cons, List.foldlM_nil, Option.bind_eq_bind, Option.pure_def,
      Option.bind_fun_some] at h
    obtain ⟨y, hy, heq⟩ := Option.map_eq_some_iff.mp h
    cases heq
    exact (ih hp).snoc hy

/-- What every move keeps holds after every run. -/
theorem Run.keeps {s : Setup J E} {P : Traffic J E → Prop} {x₀ x : Traffic J E} (start : P x₀)
    (step : ∀ x mv y, P x → x.step s mv = some y → P y) {trail : List (Traffic J E × Move J E)}
    (h : Run s x₀ trail x) : P x := by
  induction h with
  | nil => exact start
  | snoc _ last ih => exact step _ _ _ ih last

/-! ## What a move does -/

/-- What a move does to the submissions, to what is still to be announced, and to the records. -/
inductive Effect (s : Setup J E) (x : Traffic J E) : Move J E → Traffic J E → Prop
  /-- No submission is concerned. -/
  | quiet {mv : Move J E} {y : Traffic J E} (leaves : x.leaves s mv = none)
      (silent : x.announces mv = none) (alike : Alike x.manager y.manager)
      (arriving : y.arriving = x.arriving) (due : y.due = x.due) (told : y.told = x.told)
      (out : y.out = x.out) (records : y.manager.records = x.manager.records) : Effect s x mv y
  /-- A new submission is announced. -/
  | arrive {j : J} {y : Traffic J E} {t : Ticket} (number : t.number = x.manager.handles.length)
      (alike : Alike (x.manager.register s t) y.manager)
      (arriving : y.arriving = x.arriving ++ [⟨t, j⟩]) (due : y.due = x.due)
      (told : y.told = x.told ++ [⟨t, .queued, none⟩]) (out : y.out = x.out)
      (records : y.manager.records =
        x.manager.records ++ (s.sink.map fun _ => Transition.record ⟨t, .queued, none⟩).toList) :
      Effect s x (.arrive j) y
  /-- A submission gets to the queue. -/
  | push {i : Nat} {y : Traffic J E} {a b : List (Waiting J)} {w : Waiting J}
      (arriving : x.arriving = a ++ w :: b) (alike : Alike (x.manager.enqueue w) y.manager)
      (arriving' : y.arriving = a ++ b) (due : y.due = x.due) (told : y.told = x.told)
      (out : y.out = x.out) (records : y.manager.records = x.manager.records) :
      Effect s x (.push i) y
  /-- A locked section. -/
  | advance {mv : Move J E} {y : Traffic J E} (silent : x.announces mv = none)
      (advance : Advance s x.manager (x.leaves s mv) y.manager) (arriving : y.arriving = x.arriving)
      (due : y.due = x.due ++ (x.leaves s mv).toList) (told : y.told = x.told)
      (out : y.out = x.out) : Effect s x mv y
  /-- A transition is announced. -/
  | publish {i : Nat} {y : Traffic J E} {a b : List Transition} {t : Transition}
      (due : x.due = a ++ t :: b) (place : x.due[i]? = some t) (alike : Alike x.manager y.manager)
      (arriving : y.arriving = x.arriving) (due' : y.due = a ++ b) (told : y.told = x.told ++ [t])
      (out : y.out = x.out)
      (records : y.manager.records = x.manager.records ++ (s.sink.map fun _ => t.record).toList) :
      Effect s x (.publish i) y
  /-- The job in the slot is taken out of it. -/
  | take {y : Traffic J E} {o : Occupant J} (held : x.manager.slot = some o)
      (manager : y.manager = { x.manager with slot := none }) (arriving : y.arriving = x.arriving)
      (due : y.due = x.due) (told : y.told = x.told) (out : y.out = x.out ++ [o.ticket.number]) :
      Effect s x .take y
  /-- A job that was taken out of the slot is finished. -/
  | finish {i : Nat} {y : Traffic J E} {a b : List Nat} {o : Occupant J} {e : Exit}
      {m : Manager J E} (alike : Alike x.manager m) (out : x.out = a ++ o.ticket.number :: b)
      (manager : y.manager = (m.finish s o e).2) (arriving : y.arriving = x.arriving)
      (due : y.due = x.due ++ [(m.finish s o e).1]) (told : y.told = x.told) (out' : y.out = a ++ b)
      (records : m.records = x.manager.records) : Effect s x (.await i) y
  /-- The queue is drained. -/
  | drain {i : Nat} {y : Traffic J E} (alike : Alike { x.manager with queue := [] } y.manager)
      (arriving : y.arriving = x.arriving) (due : y.due = x.due) (told : y.told = x.told)
      (out : y.out = x.out) (records : y.manager.records = x.manager.records) :
      Effect s x (.drain i) y

/-- A list around one of its places. -/
lemma exists_append_of_getElem? {α : Type} {xs : List α} {i : Nat} {a : α} (h : xs[i]? = some a) :
    ∃ l r, xs = l ++ a :: r ∧ xs.eraseIdx i = l ++ r ∧ ∀ b, xs.set i b = l ++ b :: r := by
  obtain ⟨hi, rfl⟩ := List.getElem?_eq_some_iff.mp h
  refine ⟨xs.take i, xs.drop (i + 1), ?_, List.eraseIdx_eq_take_drop_succ .., fun b => ?_⟩
  · rw [List.getElem_cons_drop, List.take_append_drop]
  · rw [List.set_eq_take_append_cons_drop, if_pos hi]

variable {s : Setup J E} {x y : Traffic J E}

/-- A stop gets on: its phase is replaced. -/
lemma out_set {i : Nat} {p : Phase J} (h : x.stops[i]? = some p) (q : Phase J)
    (stops : y.stops = x.stops.set i q) :
    ∃ a b, x.out = a ++ p.out ++ b ∧ y.out = a ++ q.out ++ b := by
  obtain ⟨l, r, hx, -, hset⟩ := exists_append_of_getElem? h
  refine ⟨l.flatMap Phase.out, r.flatMap Phase.out, ?_, ?_⟩
  · simp [out, hx]
  · simp [out, stops, hset]

lemma out_set_of_eq {i : Nat} {p q : Phase J} (h : x.stops[i]? = some p)
    (stops : y.stops = x.stops.set i q) (same : q.out = p.out) : y.out = x.out := by
  obtain ⟨a, b, hx, hy⟩ := out_set h q stops
  rw [hx, hy, same]

lemma effect_take (h : x.step s .take = some y) : Effect s x .take y := by
  rcases ho : x.manager.slot with _ | o
  · simp only [step, vacate, ho] at h
    obtain rfl := Option.some.inj h
    refine .quiet rfl rfl ⟨?_, rfl, rfl⟩ rfl rfl rfl (by simp [out, Phase.out]) rfl
    rw [ho]
    rfl
  · simp only [step, vacate, ho] at h
    obtain rfl := Option.some.inj h
    exact .take ho rfl rfl rfl rfl (by simp [out, Phase.out])

lemma effect_signal {i : Nat} (h : x.step s (.signal i) = some y) : Effect s x (.signal i) y := by
  simp only [step] at h
  split at h
  next o hi =>
    obtain rfl := Option.some.inj h
    obtain ⟨es, hes, -⟩ := attended_signalLast s o x.manager
    exact .quiet rfl rfl hes.alike rfl rfl rfl (out_set_of_eq hi rfl rfl) hes.adds.records_eq
  next => cases h

/-- After a wait that panicked the job stays out of the slot, and after any other it is finished. -/
lemma effect_await {i : Nat} (h : x.step s (.await i) = some y) : Effect s x (.await i) y := by
  simp only [step] at h
  split at h
  next o e j hi =>
    have alike := alike_awaitExit s o.ticket j x.manager
    have records := (adds_awaitExit s o.ticket j x.manager).records_eq
    rcases hw : x.manager.awaitExit s o.ticket j with ⟨p | _, m⟩
    · simp only [hw] at h alike records
      obtain rfl := Option.some.inj h
      exact .quiet rfl rfl alike rfl rfl rfl (out_set_of_eq hi rfl rfl) records
    · simp only [hw] at h alike records
      have stops : y.stops = x.stops.set i (.cleared (some (m.finish s o e).1)) := by
        rw [← Option.some.inj h]
      obtain ⟨a, b, hx, hy⟩ := out_set hi _ stops
      obtain rfl := Option.some.inj h
      simp only [Phase.out, List.append_nil, List.append_assoc, List.singleton_append] at hx hy
      exact .finish alike hx rfl rfl rfl rfl hy records
  next => cases h

lemma effect_drain {i : Nat} (h : x.step s (.drain i) = some y) : Effect s x (.drain i) y := by
  simp only [step] at h
  split at h
  next ended hi =>
    split_ifs at h
    obtain rfl := Option.some.inj h
    exact .drain ⟨rfl, rfl, rfl⟩ rfl rfl rfl (out_set_of_eq hi rfl rfl)
      (records_logged (e := .noted _) trivial)
  next => cases h

lemma effect_start {runtime : Bool} (h : x.step s (.start runtime) = some y) :
    Effect s x (.start runtime) y := by
  obtain rfl := Option.some.inj h
  simp only [Service.start]
  split_ifs
  · exact .quiet rfl rfl (.refl _) rfl rfl rfl rfl rfl
  · exact .quiet rfl rfl (.refl _) rfl rfl rfl rfl rfl
  · exact .quiet rfl rfl ⟨rfl, rfl, rfl⟩ rfl rfl rfl rfl (records_logged (e := .noted _) trivial)

lemma effect_endLoop (h : x.step s .endLoop = some y) : Effect s x .endLoop y := by
  simp only [step] at h
  split_ifs at h
  obtain rfl := Option.some.inj h
  exact .quiet rfl rfl ⟨rfl, rfl, rfl⟩ rfl rfl rfl rfl (records_logged (e := .noted _) trivial)

/-- A move has one of the effects. -/
theorem effect_of_step {mv : Move J E} (h : x.step s mv = some y) : Effect s x mv y := by
  cases mv with
  | arrive j =>
    obtain rfl := Option.some.inj h
    refine .arrive rfl (alike_publish ..) rfl rfl rfl rfl ((adds_publish ..).records.trans ?_)
    rw [(adds_register s x.manager _).records_eq]
  | push i =>
    obtain ⟨w, hw, rfl⟩ := Option.map_eq_some_iff.mp h
    obtain ⟨l, r, hx, herase, -⟩ := exists_append_of_getElem? hw
    exact .push hx ⟨rfl, rfl, rfl⟩ herase rfl rfl rfl (records_logged (e := .noted _) trivial)
  | tick =>
    obtain rfl := Option.some.inj h
    exact .advance rfl (advance_tickSection s x.manager) rfl rfl rfl rfl
  | kill id c =>
    obtain rfl := Option.some.inj h
    exact .advance rfl (advance_killSection s x.manager id c) rfl rfl rfl rfl
  | publish i =>
    obtain ⟨t, ht, rfl⟩ := Option.map_eq_some_iff.mp h
    obtain ⟨l, r, hx, herase, -⟩ := exists_append_of_getElem? ht
    exact .publish hx ht (alike_publish ..) rfl herase rfl rfl (adds_publish ..).records
  | start runtime => exact effect_start h
  | tell =>
    obtain rfl := Option.some.inj h
    exact .quiet rfl rfl (.refl _) rfl rfl rfl rfl rfl
  | endLoop => exact effect_endLoop h
  | beat =>
    obtain rfl := Option.some.inj h
    exact .quiet rfl rfl ⟨rfl, rfl, rfl⟩ rfl rfl rfl rfl
      (records_logged (e := .audited _) trivial)
  | take => exact effect_take h
  | signal i => exact effect_signal h
  | await i => exact effect_await h
  | drain i => exact effect_drain h
  | pass env =>
    obtain rfl := Option.some.inj h
    exact .quiet rfl rfl ⟨rfl, rfl, rfl⟩ rfl rfl rfl rfl rfl

/-! ## Where submissions are -/

lemma placed_of_effect {mv : Move J E} (h : Placed x.manager x.arriving x.out)
    (effect : Effect s x mv y) : Placed y.manager y.arriving y.out := by
  cases effect with
  | quiet leaves silent alike arriving due told out records =>
    rw [arriving, out]
    exact h.congr alike
  | arrive number alike arriving due told out records =>
    rw [arriving, out]
    exact (h.register _ number).congr alike
  | push arriving alike arriving' due told out records =>
    rw [arriving', out]
    rw [arriving] at h
    exact h.enqueue.congr alike
  | advance silent advance arriving due told out =>
    rw [arriving, out]
    exact h.advance advance
  | publish due place alike arriving due' told out records =>
    rw [arriving, out]
    exact h.congr alike
  | take held manager arriving due told out =>
    rw [manager, arriving, out]
    exact Places.perm (h.vacate held) .rfl ((List.perm_append_singleton _ _).symm.append_left _)
  | finish alike out manager arriving due told out' records =>
    rw [manager, arriving, out']
    rw [out] at h
    exact (h.congr alike).finish _
  | drain alike arriving due told out records =>
    rw [arriving, out]
    exact h.drain.congr alike

/-- At every moment of a run every submission is in its place. -/
theorem placed_of_run {env : E} {trail : List (Traffic J E × Move J E)}
    (h : Run s (fresh env) trail x) : Placed x.manager x.arriving x.out := by
  refine h.keeps (P := fun x => Placed x.manager x.arriving x.out) ?_ ?_
  · exact .fresh env
  · intro x mv y hx hstep
    exact placed_of_effect hx (effect_of_step hstep)

/-- The records of a sink are those of the transitions that were announced, in the same order. -/
theorem records_of_run (sink : s.sink.isSome) {env : E} {trail : List (Traffic J E × Move J E)}
    (h : Run s (fresh env) trail x) : x.manager.records = x.told.map Transition.record := by
  obtain ⟨k, hk⟩ := Option.isSome_iff_exists.mp sink
  refine h.keeps (P := fun x => x.manager.records = x.told.map Transition.record) rfl ?_
  intro x mv y hx hstep
  cases effect_of_step hstep with
  | quiet leaves silent alike arriving due told out records => rw [records, told, hx]
  | arrive number alike arriving due told out records => rw [records, told, hx, hk]; simp
  | push arriving alike arriving' due told out records => rw [records, told, hx]
  | advance silent advance arriving due told out => rw [advance.adds.records_eq, told, hx]
  | publish due place alike arriving due' told out records => rw [records, told, hx, hk]; simp
  | take held manager arriving due told out => rw [manager, told, ← hx]; rfl
  | @finish i y a b o e m alike out manager arriving due told out' records =>
    have hm : (m.finish s o e).2.records = m.records := (adds_finish s o e m).records_eq
    rw [manager, hm, records, told, hx]
  | drain alike arriving due told out records => rw [records, told, hx]

/-! ## A caller who is alone -/

/-- From `x` there is a run to traffic with the manager `m`, after which no call is under way. -/
def Leads (s : Setup J E) (x : Traffic J E) (m : Manager J E) : Prop :=
  ∃ trail y, Run s x trail y ∧ y.manager = m ∧ y.arriving = [] ∧ y.due = []

lemma Leads.refl (arriving : x.arriving = []) (due : x.due = []) : Leads s x x.manager :=
  ⟨[], x, .nil, rfl, arriving, due⟩

/-- A first move. -/
lemma Leads.step (mv : Move J E) {m : Manager J E} (first : x.step s mv = some y)
    (h : Leads s y m) : Leads s x m := by
  obtain ⟨trail, z, hz, rest⟩ := h
  exact ⟨_, z, (Run.nil.snoc first).trans hz, rest⟩

/-- The transition that is due after a locked section is announced, if there is one. -/
lemma leads_announceDue (hs : s.Passive) {α : Type} (r : Section J E α) (arriving : x.arriving = [])
    (due : x.due = []) : Leads s (x.afterSection r) (announceDue s r) := by
  unfold announceDue
  split
  next hr => exact .refl arriving (by simp [afterSection, hr, due])
  next t hr =>
    have hdue : (x.afterSection r).due = [t] := by simp [afterSection, hr, due]
    rw [announce_eq_publish hs]
    refine .step (.publish 0) (by simp only [Traffic.step, hdue]; rfl) ?_
    exact .refl arriving (by simp)

lemma leads_submit (hs : s.Passive) (arriving : x.arriving = []) (due : x.due = []) (j : J) :
    Leads s x (x.manager.submit s j).2 := by
  simp only [submit, announce_eq_publish hs]
  refine .step (.arrive j) rfl ?_
  refine .step (.push 0) (by simp only [Traffic.step, arriving]; rfl) ?_
  exact .refl rfl due

lemma leads_stop (hs : s.Passive) (arriving : x.arriving = []) (due : x.due = []) {r : Report J}
    {m : Manager J E} (h : x.manager.stop s = (.ok r, m)) : Leads s x m := by
  have here : ∀ p : Phase J, (x.stops ++ [p])[x.stops.length]? = some p := fun p =>
    List.getElem?_concat_length
  have next : ∀ p q : Phase J, (x.stops ++ [p]).set x.stops.length q = x.stops ++ [q] := by simp
  rcases ho : x.manager.slot with _ | o
  · simp only [Manager.stop, vacate, ho] at h
    cases h
    refine .step .take (by simp only [Traffic.step, vacate, ho]; rfl) ?_
    refine .step (.drain x.stops.length) (by simp [Traffic.step]; rfl) ?_
    exact .refl arriving due
  · simp only [Manager.stop, vacate, ho, shutDown] at h
    rcases hsig : ({ x.manager with slot := none } : Manager J E).signalLast s o with ⟨e, j, m₁⟩
    rcases hw : m₁.awaitExit s o.ticket j with ⟨_ | _, m₂⟩
    · simp only [hsig, hw] at h
      cases h
    · simp only [hsig, hw, announce_eq_publish hs] at h
      cases h
      simp only [manager] at hsig
      -- the moves of a stop that finds a job in the slot
      refine .step .take (by simp only [Traffic.step, vacate, ho]; rfl) ?_
      refine .step (.signal x.stops.length)
        (by simp only [Traffic.step, here, next, manager, withManager, hsig]; rfl) ?_
      refine .step (.await x.stops.length)
        (by simp only [Traffic.step, here, next, manager, withManager, hw]; rfl) ?_
      refine .step (.publish 0)
        (by simp only [Traffic.step, due, manager, withManager]; rfl) ?_
      refine .step (.drain x.stops.length)
        (by simp only [Traffic.step, here, next, manager, withManager]; rfl) ?_
      exact .refl arriving rfl

/-- An iteration of the loop takes a moment, works, and may tell the audit log of a heartbeat. -/
lemma leads_iterate (hs : s.Passive) (arriving : x.arriving = []) (due : x.due = []) (l : Loop) :
    Leads s x (Service.iterate s l x.manager).2 := by
  have work : Leads s x (({ x.manager with env := s.kind.moment x.manager.env }).work s).2 :=
    .step (.pass _) rfl (.step .tick rfl (leads_announceDue hs _ arriving due))
  rcases hr : ({ x.manager with env := s.kind.moment x.manager.env }).work s with ⟨k, m⟩
  rw [hr] at work
  simp only [Service.iterate, hr]
  split
  · obtain ⟨trail, y, hy, rfl, rest⟩ := work
    have beat : y.step s .beat = some (y.withManager (y.manager.audit _)) := rfl
    exact ⟨_, _, hy.snoc beat, rfl, rest⟩
  · exact work

/-- A request of a caller who is alone is made by moves, if the sink does not call back. -/
lemma leads_of_serve (hs : s.Passive) (arriving : x.arriving = []) (due : x.due = [])
    {r : Request J E} {a : Answer J} {m : Manager J E} (h : x.manager.serve s r = (.ok a, m)) :
    Leads s x m := by
  cases r with
  | submit j => cases h; exact leads_submit hs arriving due j
  | work => cases h; exact .step .tick rfl (leads_announceDue hs _ arriving due)
  | iterate l => cases h; exact leads_iterate hs arriving due l
  | kill id c => cases h; exact .step (.kill id c) rfl (leads_announceDue hs _ arriving due)
  | stop =>
    rcases hstop : x.manager.stop s with ⟨_ | r, m'⟩
    · simp [serve, hstop, Except.map] at h
    · simp only [serve, hstop, Except.map, Prod.mk.injEq] at h
      exact h.2 ▸ leads_stop hs arriving due hstop
  | pass env => cases h; exact .step (.pass env) rfl (.refl arriving due)

/-- Every course of requests of a caller who is alone is a run, if the sink does not call back. -/
theorem leads_of_served (hs : s.Passive) {env : E} {rs : List (Request J E)} {as : List (Answer J)}
    {m : Manager J E} (h : Served s (.fresh env) rs as m) : Leads s (fresh env) m := by
  induction h with
  | nil => exact .refl rfl rfl
  | snoc past last ih =>
    obtain ⟨trail, y, hy, rfl, arriving, due⟩ := ih
    obtain ⟨trail', z, hz, rest⟩ := leads_of_serve hs arriving due last
    exact ⟨trail ++ trail', z, hy.trans hz, rest⟩

end Traffic
end SerialJobs
