import SerialJobs.Proofs.Discipline.Course
import SerialJobs.Proofs.Supervision.Lifecycle
import SerialJobs.Proofs.Supervision.Renewal
import SerialJobs.Proofs.Supervision.Service

/-!
# What a stop leaves behind

A stop tells the loop to end and waits until it has. The loop may still work in the meantime, so
that what the stop finds in the slot and in the queue is what there is when the loop has ended. From
then on nothing changes but the surroundings, as long as nobody else calls (`quiet_of_run`). The
job in the slot is finished then, the queue is handed back, and every other handle stays as it is
(`Cleared`).

A stopped manager has nothing to do and no loop. Another stop finds nothing (`Stops.idle`), and from
then on all goes as on a fresh manager (`renewed_of_idle`). `Closed` puts this together.
-/

namespace SerialJobs

variable {J E : Type} {s : Setup J E}

namespace Manager

variable {m : Manager J E}

/-- What a stop of the manager `m` does, where it ends with the report `r` and the manager `m'`. -/
structure Cleared (m : Manager J E) (r : Report J) (m' : Manager J E) : Prop where
  free : m'.slot = none
  empty : m'.queue = []
  /-- The job in the slot is reported by its identity. -/
  terminated : r.terminated = m.currentId
  finished : ∀ o, m.slot = some o → ∃ e, m'.state? o.ticket.number = some (.finished e)
  /-- All that was queued is handed back, head first. -/
  drained : r.drained = m.queue
  /-- What is handed back was never called, and its handle is still queued. -/
  untouched : ∀ w ∈ r.drained, m'.state? w.ticket.number = some .queued ∧
    m'.dealings w.ticket.number = []
  others : ∀ n, (∀ o, m.slot = some o → o.ticket.number ≠ n) → m'.handles[n]? = m.handles[n]?

/-- A stop whose wait does not panic completes, and with a sink that does not call back it does
nothing else. -/
lemma cleared_of_stop (passive : s.Passive) (h : Disciplined s [] m)
    (calm : ∀ o, m.slot = some o → ∀ p, m.lastWait s o ≠ .panic p) :
    ∃ r, (m.stop s).1 = .ok r ∧ Cleared m r (m.stop s).2 := by
  obtain ⟨out, placed⟩ := h.placed
  have after : Disciplined s [] (m.stop s).2 :=
    ((abiding_since s m).stop ⟨h, .of_eq fun _ => rfl⟩).1
  have untouched {r : Report J} (hr : (m.stop s).1 = .ok r) : ∀ w ∈ r.drained,
      (m.stop s).2.state? w.ticket.number = some .queued ∧
        (m.stop s).2.dealings w.ticket.number = [] := by
    intro w hw
    obtain ⟨-, queued, -⟩ := withdrawn_of_stop placed hr hw
    refine ⟨queued, after.unmet _ fun st hst => ?_⟩
    exact (Option.some.inj (queued.symm.trans hst)).symm
  have halted := halted_stop s m
  generalize (m.stop s).1 = x, (m.stop s).2 = m' at halted untouched
  cases halted with
  | idle free =>
    exact ⟨_, rfl, free, rfl, by simp [currentId, free], by simp [free], rfl, untouched rfl,
      fun _ _ => rfl⟩
  | broken departed panics => exact absurd panics (calm _ departed.held _)
  | @ended o x e m₁ m₂ departed ends announced =>
    have running : m₁.state? o.ticket.number = some .running := by
      rw [state?_congr departed.handles]
      exact placed.running departed.held
    -- a sink that does not call back is told, and no more
    rw [announce_eq_publish passive] at announced
    obtain ⟨es, informed⟩ := informed_publish s (m₁.finish s o e).2 (m₁.finish s o e).1
    rw [← announced] at informed
    have queue : m₂.queue = m.queue := informed.queue.trans departed.queue
    have handles : m₂.handles =
        m.handles.modify o.ticket.number (·.enter (.finished e) (m₁.now s)) := by
      rw [← departed.handles]
      exact informed.handles
    refine ⟨_, rfl, informed.slot.trans departed.slot, rfl, ?_, ?_, queue, untouched rfl, ?_⟩
    · simp [currentId, departed.held]
    · intro o' held
      obtain rfl := Option.some.inj (departed.held.symm.trans held)
      refine ⟨e, ?_⟩
      change m₂.state? o.ticket.number = _
      rw [state?_of_modify running (departed.handles ▸ handles), Function.update_self]
    · intro n others
      change m₂.handles[n]? = _
      rw [handles, List.getElem?_modify_ne _ _ (others o departed.held)]

/-- The surroundings do not matter for what a stop does. -/
lemma Cleared.congr {m₀ m' : Manager J E} {r : Report J} (h : Cleared m r m')
    (slot : m.slot = m₀.slot) (queue : m.queue = m₀.queue) (handles : m.handles = m₀.handles) :
    Cleared m₀ r m' where
  free := h.free
  empty := h.empty
  terminated := by rw [h.terminated, currentId, currentId, slot]
  finished := slot ▸ h.finished
  drained := queue ▸ h.drained
  untouched := h.untouched
  others := slot ▸ handles ▸ h.others

/-- A stop of a manager that has nothing to do tells nobody. -/
lemma stop_idle (free : m.slot = none) (empty : m.queue = []) :
    m.stop s = (.ok ⟨none, []⟩, m.note (.stopped none 0)) := by
  rcases m with ⟨env, slot, queue, handles, past⟩
  obtain rfl : slot = none := free
  obtain rfl : queue = [] := empty
  rfl

end Manager

/-- A move of a loop, or of the surroundings. -/
def LoopMove.isAside : LoopMove J E → Bool
  | iterate _ | wake _ | heed _ | expire _ | serve (.pass _) => true
  | _ => false

namespace Supervision

variable {x y z : Supervision J E}

/-! ## Runs without a call -/

/-- No move ends what abides, as long as someone holds the manager. -/
lemma abiding_of_step {P : List (Waiting J) → Manager J E → Prop} (hP : Manager.Abiding s P)
    {mv : LoopMove J E} (h : x.held → P [] x.manager) (step : x.step s mv = some y)
    (held : y.held) : P [] y.manager := by
  have noted {m : Manager J E} {d : Diagnostic} (hm : P [] m) (news : (Event.noted d).IsNews) :
      P [] (m.note d) := (hP.lasting []).happen hm news
  cases mv with
  | start runtime =>
    obtain ⟨isOpen, step⟩ := Option.ite_none_right_eq_some.mp step
    cases step
    have now := h (isOpen_iff.mp isOpen).1
    simp only [Supervision.start]
    split_ifs
    · exact now
    · exact now
    · exact noted now trivial
  | tell =>
    obtain ⟨isOpen, step⟩ := Option.ite_none_right_eq_some.mp step
    cases step
    exact h held
  | conclude =>
    obtain ⟨ended, step⟩ := Option.ite_none_right_eq_some.mp step
    cases step
    exact hP.stop (h held)
  | serve r =>
    obtain ⟨call, step⟩ := Option.ite_none_right_eq_some.mp step
    cases step
    exact hP.serve (h held) r
  | drop =>
    obtain ⟨isOpen, step⟩ := Option.ite_none_right_eq_some.mp step
    cases step
    cases held
  | iterate i =>
    obtain ⟨now, step⟩ := Option.ite_none_right_eq_some.mp step
    obtain ⟨a, ha, rfl⟩ := Option.map_eq_some_iff.mp step
    have iterated := (hP.lasting []).iterate (fun _ _ h => hP.pass h) (h now) a.loop
    -- without a name for it the kernel would run the iteration
    rcases hm : Service.iterate s a.loop x.manager with ⟨l, m⟩
    rw [hm] at iterated
    rw [round_eq hm]
    exact iterated
  | wake i =>
    obtain ⟨a, ha, rfl⟩ := Option.map_eq_some_iff.mp step
    exact h held
  | heed i =>
    obtain ⟨a, ha, step⟩ := Option.bind_eq_some_iff.mp step
    obtain ⟨signal, step⟩ := Option.ite_none_right_eq_some.mp step
    cases step
    exact noted (h held) trivial
  | expire i =>
    obtain ⟨gone, step⟩ := Option.ite_none_left_eq_some.mp step
    obtain ⟨a, ha, rfl⟩ := Option.map_eq_some_iff.mp step
    exact noted (h held) trivial

/-- What abides holds as long as someone holds the manager. -/
lemma abiding_of_run {P : List (Waiting J) → Manager J E → Prop} (hP : Manager.Abiding s P)
    {env : E} (start : P [] (.fresh env)) {mvs : List (LoopMove J E)}
    (h : (fresh env).run s mvs = some x) (held : x.held) : P [] x.manager :=
  run_keeps (fun _ x => x.held → P [] x.manager) (fun _ => start)
    (fun _ _ _ _ _ hy step => abiding_of_step hP hy step) h held

/-- Without a live loop, only the surroundings can move. -/
lemma pass_of_moved (dead : ∀ i, ¬x.isLive i) {mv : LoopMove J E} (aside : mv.isAside)
    (step : Moved s x mv y) : y = { x with manager := { x.manager with env := y.manager.env } } := by
  have awake {i : Nat} {a : Spawned} (here : x.loops[i]? = some a) (live : a.phase ≠ .ended) :
      False := dead i (isLive_iff.mpr ⟨a, here, live⟩)
  cases step with
  | iterated held here poised told => exact (awake here (by simp [poised])).elim
  | woken here asleep => exact (awake here (by simp [asleep])).elim
  | heeded here asleep signal => exact (awake here (by simp [asleep])).elim
  | expired gone here poised => exact (awake here (by simp [poised])).elim
  | @served r held =>
    cases r with
    | pass env => rfl
    | _ => cases aside
  | _ => cases aside

/-- Without a live loop, only the surroundings change as long as nobody calls. -/
lemma quiet_of_run (dead : ∀ i, ¬x.isLive i) {mvs : List (LoopMove J E)}
    (aside : ∀ mv ∈ mvs, mv.isAside) (h : x.run s mvs = some y) :
    y = { x with manager := { x.manager with env := y.manager.env } } := by
  refine run_keeps (fun mvs y => (∀ mv ∈ mvs, mv.isAside) →
    y = { x with manager := { x.manager with env := y.manager.env } }) (fun _ => rfl) ?_ h aside
  intro mvs y mv z _ hy step aside
  have before := hy fun mv hmv => aside mv (List.mem_append_left _ hmv)
  have dead' : ∀ i, ¬y.isLive i := by
    rw [before]
    exact dead
  have last := pass_of_moved dead' (aside mv (by simp)) (moved_of_step step)
  rw [last, before]

/-! ## A stop returns -/

/-- A stop that comes at `x` has returned at `z`, and nobody else has called in between. At `w` the
loop has ended, and at `y` the stop goes on. -/
structure Stops (s : Setup J E) (x w y z : Supervision J E) : Prop where
  comes : ∃ mvs, (∀ mv ∈ mvs, mv.isAside) ∧ x.run s (.tell :: mvs) = some w
  ended : ∀ i, ¬w.isLive i
  waits : ∃ mvs, (∀ mv ∈ mvs, mv.isAside) ∧ w.run s mvs = some y
  returns : y.step s .conclude = some z

/-- A loop that was told to end can do so, after one more iteration at most. -/
lemma exists_ended (hx : Supervised x) (held : x.held) {i : Nat} {a : Spawned}
    (here : x.loops[i]? = some a) (live : a.phase ≠ .ended) (told : a.loop.told = true) :
    ∃ mvs w, (∀ mv ∈ mvs, mv.isAside) ∧ x.run s mvs = some w ∧ w.stopping = x.stopping ∧
      ∀ j, ¬w.isLive j := by
  cases hp : a.phase with
  | ended => exact absurd hp live
  | asleep =>
    have heeds := step_heed (s := s) here hp (.inl told)
    exact ⟨[.heed i], x.endLoop i a, by simp [LoopMove.isAside], by simpa [run] using heeds, rfl,
      (shows_endLoop hx here live).none_live rfl⟩
  | poised =>
    have works := step_iterate (s := s) held here hp
    have told' := told_iterate s a.loop x.manager
    rcases hm : Service.iterate s a.loop x.manager with ⟨l, m⟩
    let x' : Supervision J E := { x with manager := m, loops := x.loops.set i ⟨l, .asleep⟩ }
    replace works : x.step s (.iterate i) = some x' := works.trans (congrArg some (round_eq hm i))
    rw [hm] at told'
    have lt : i < x.loops.length := (List.getElem?_eq_some_iff.mp here).1
    have here' : x'.loops[i]? = some ⟨l, .asleep⟩ := by simp [x', lt]
    have heeds := step_heed (s := s) here' rfl (.inl (told'.trans told))
    refine ⟨[.iterate i, .heed i], x'.endLoop i ⟨l, .asleep⟩, by simp [LoopMove.isAside], ?_, rfl,
      (shows_endLoop (hx.moved (moved_of_step works)) here' (by simp)).none_live rfl⟩
    simp only [run, List.foldlM_cons, List.foldlM_nil, works, heeds, Option.bind_eq_bind,
      Option.bind_some, Option.pure_def]

/-- While a stop is under way no loop is on record. -/
lemma record_of_stopping (hx : Supervised x) {r : Option Nat} (stopping : x.stopping = some r) :
    x.record = none := by
  by_contra some
  obtain ⟨i, hi⟩ := Option.ne_none_iff_exists'.mp some
  obtain ⟨-, idle, -⟩ := hx.recorded i hi
  simp [stopping] at idle

/-- A stop goes on when no loop is live. -/
lemma step_conclude (s : Setup J E) {r : Option Nat} (stopping : x.stopping = some r)
    (dead : ∀ i, ¬x.isLive i) :
    x.step s .conclude =
      some { x with manager := (x.manager.stop s).2, stopping := none } := by
  simp [step, stopping, dead]

/-- A stop can always return. -/
lemma exists_stops (s : Setup J E) (hx : Supervised x) (isOpen : x.isOpen) :
    ∃ w y z, Stops s x w y z := by
  have told : x.step s .tell = some x.tell := by simp only [step, isOpen, if_true]
  have ended : ∃ mvs w, (∀ mv ∈ mvs, mv.isAside) ∧ x.tell.run s mvs = some w ∧
      w.stopping = some x.record ∧ ∀ j, ¬w.isLive j := by
    rcases hr : x.record with _ | i
    · refine ⟨[], x.tell, by simp, rfl, congrArg some hr, fun j live => ?_⟩
      rw [isLive_tell] at live
      exact hx.none_live isOpen (by simp [isAlive, hr]) j live
    · obtain ⟨held, -, a, here, live, -⟩ := hx.recorded i hr
      have here' : x.tell.loops[i]? = some { a with loop := { a.loop with told := true } } := by
        simp [tell, hr, signal, here]
      rw [← hr]
      exact exists_ended (hx.moved (moved_of_step told)) held here' live rfl
  obtain ⟨mvs, w, aside, waited, stopping, dead⟩ := ended
  refine ⟨w, w, _, ⟨mvs, aside, ?_⟩, dead, ⟨[], by simp, rfl⟩, step_conclude s stopping dead⟩
  simpa only [run, List.foldlM_cons, told, Option.bind_eq_bind, Option.bind_some] using waited

/-! ## What is left then -/

/-- What a stop leaves behind, where it has found the manager as it is at `w`. -/
structure Closed (s : Setup J E) (w : Supervision J E) (r : Report J) (z : Supervision J E) : Prop
    extends Manager.Cleared w.manager r z.manager where
  /-- No loop is left. -/
  dead : z.isAlive = false ∧ ∀ i, ¬z.isLive i
  /-- The next stop can come at once and return. It finds nothing, and tells neither the sink nor the
  audit log. -/
  again : (∃ w' y' z', Stops s z w' y' z') ∧ ∀ w' y' z', Stops s z w' y' z' →
    (y'.manager.stop s).1 = .ok ⟨none, []⟩ ∧ z'.manager.records = z.manager.records ∧
      z'.manager.audits = z.manager.audits
  /-- The next loop that is started is not refused if there is something to host it. -/
  restarts : ∀ mvs x, z.run s mvs = some x → .start true ∉ mvs → (x.start s true).1 = .ok ()
  /-- From now on there is nothing but what a fresh manager would do, with later numbers. -/
  renewed : ∀ mvs x, z.run s mvs = some x ↔
    ∃ mvs' x', (fresh z.manager.env).run (s.since z.manager.records) mvs' = some x' ∧
      mvs = mvs'.map (·.later z.loops.length) ∧ x = z.resume x'
  /-- Nor do the answers differ. -/
  answers : ∀ (x : Supervision J E) r, ((z.resume x).manager.serve s r).1 =
    (x.manager.serve (s.since z.manager.records) r).1.map (·.later z.manager.handles.length)

/-- A stop that finds no loop and nothing to do leaves no trace but a remark. -/
lemma Stops.idle {w : Supervision J E} (stops : Stops s x w y z) (dead : ∀ i, ¬x.isLive i)
    (free : x.manager.slot = none) (empty : x.manager.queue = []) :
    (y.manager.stop s).1 = .ok ⟨none, []⟩ ∧ z.manager.records = x.manager.records ∧
      z.manager.audits = x.manager.audits := by
  obtain ⟨mvs, aside, comes⟩ := stops.comes
  obtain ⟨mvs', aside', waits⟩ := stops.waits
  obtain ⟨x', told, comes⟩ := Option.bind_eq_some_iff.mp comes
  have moved := moved_of_step told
  cases moved with
  | told isOpen =>
    have dead' : ∀ i, ¬x.tell.isLive i := fun i live => dead i (isLive_tell x i ▸ live)
    have quiet := quiet_of_run dead' aside comes
    have quiet' := quiet_of_run stops.ended aside' waits
    have same : y.manager = { x.manager with env := y.manager.env } := by
      rw [quiet', quiet]
      rfl
    have stop : y.manager.stop s = (.ok ⟨none, []⟩, y.manager.note (.stopped none 0)) := by
      rw [same]
      exact Manager.stop_idle free empty
    have returned := moved_of_step stops.returns
    cases returned with
    | concluded stopping ended =>
      simp only [stop]
      rw [same]
      simp [Manager.records, Manager.audits, Manager.history, Manager.note, Manager.happen,
        Event.record?, Event.audit?]

/-- A manager without a loop on record has none until one is started. -/
lemma start_of_run (none : x.record = none) {mvs : List (LoopMove J E)}
    (h : x.run s mvs = some y) (noStart : .start true ∉ mvs) :
    (y.start s true).1 = .ok () := by
  have absent : y.record = .none := by
    refine run_keeps (fun mvs y => .start true ∉ mvs → y.record = .none) (fun _ => none) ?_ h noStart
    intro mvs y mv z _ hy step noStart
    simp only [List.mem_append, List.mem_singleton, not_or] at noStart
    have before := hy noStart.1
    have moved := moved_of_step step
    cases moved with
    | started isOpen dead => exact absurd rfl noStart.2
    | told isOpen => rfl
    | dropped isOpen => rfl
    | _ => exact before
  exact start_ok_iff.mpr ⟨by simp [isAlive, absent], rfl⟩

/-- With no loop left and nothing to do, there is nothing but what a fresh manager would do. -/
lemma renewed_of_idle (dead : ∀ i, ¬z.isLive i) (free : z.manager.slot = none)
    (empty : z.manager.queue = []) (record : z.record = none) (isOpen : z.isOpen)
    (mvs : List (LoopMove J E)) (x : Supervision J E) :
    z.run s mvs = some x ↔
      ∃ mvs' x', (fresh z.manager.env).run (s.since z.manager.records) mvs' = some x' ∧
        mvs = mvs'.map (·.later z.loops.length) ∧ x = z.resume x' := by
  obtain ⟨held, idle⟩ := isOpen_iff.mp isOpen
  have same := resume_fresh free empty record idle held
  have runs : (z.resume (fresh z.manager.env)).run s mvs = some x ↔ _ := run_resume_iff dead
  rwa [same] at runs

/-- A stop can come whenever no other one is under way, whether a loop is alive or not, and while
nobody else calls it can return. With a sink that does not call back and a job whose wait does not
panic it returns a report: the loop has ended, the job that was in the slot by then is finished, what
was queued by then is handed back, and no other handle has changed. Another stop right after it finds
nothing, and the manager can be started again and goes on as a fresh one. -/
theorem stop_closes (passive : s.Passive) {env : E} {mvs : List (LoopMove J E)}
    (reached : (fresh env).run s mvs = some x) (isOpen : x.isOpen) :
    (∃ w y z, Stops s x w y z) ∧ ∀ w y z, Stops s x w y z →
      (∀ o, y.manager.slot = some o → ∀ p, y.manager.lastWait s o ≠ .panic p) →
        ∃ r, (y.manager.stop s).1 = .ok r ∧ Closed s w r z := by
  have hx : Supervised x := .of_run reached
  refine ⟨exists_stops s hx isOpen, fun w y z stops calm => ?_⟩
  obtain ⟨mvs₁, -, comes⟩ := stops.comes
  obtain ⟨mvs₂, aside, waits⟩ := stops.waits
  have reached' : (fresh env).run s (mvs ++ (.tell :: mvs₁) ++ mvs₂) = some y := by
    rw [run_append, run_append, reached, Option.bind_some, comes, Option.bind_some, waits]
  have hy : Supervised y := .of_run reached'
  have returned := moved_of_step stops.returns
  have dead : ∀ i, ¬z.isLive i := none_live_of_conclude hy returned
  have hz : Supervised z := hy.moved returned
  cases returned with
  | @concluded told stopping ended =>
    have held : y.held := hy.attended (by simp [stopping])
    have disciplined : Manager.Disciplined s [] y.manager :=
      (abiding_of_run (Manager.abiding_since s _) ⟨.fresh s env, .of_eq fun _ => rfl⟩ reached' held).1
    obtain ⟨r, hr, cleared⟩ := Manager.cleared_of_stop passive disciplined calm
    have record : y.record = none := record_of_stopping hy stopping
    let stopped : Supervision J E := { y with manager := (y.manager.stop s).2, stopping := none }
    have isOpen : stopped.isOpen := isOpen_iff.mpr ⟨held, rfl⟩
    -- nothing but the surroundings has changed since the loop had ended
    have quiet := quiet_of_run stops.ended aside waits
    have found : Manager.Cleared w.manager r (y.manager.stop s).2 :=
      cleared.congr (by rw [quiet]) (by rw [quiet]) (by rw [quiet])
    exact ⟨r, hr, { found with
      dead := ⟨by simp [isAlive, record], dead⟩
      again := ⟨exists_stops s hz isOpen,
        fun w' y' z' stops' => stops'.idle dead cleared.free cleared.empty⟩
      restarts := fun mvs x => start_of_run (x := stopped) record
      renewed := renewed_of_idle dead cleared.free cleared.empty record isOpen
      answers := fun x r => congrArg Prod.fst (Manager.serve_resume s stopped.manager x.manager r) }⟩

/-- A loop has started the first of three jobs, which has exited since. -/
def busyMorning : List (LoopMove Worker Host) :=
  [.start true, .serve (.submit (.reporting 1 (.always (.ok (some .completed))))),
    .serve (.submit (.endless 2)), .serve (.submit (.endless 3)), .iterate 0]

/-- The loop finishes the first job and starts the second one before it hears that it is to end. -/
def lastOrders : List (LoopMove Worker Host) :=
  [.wake 0, .iterate 0, .wake 0, .iterate 0, .heed 0]

/-- The job that a stop ends is not the one that was in the slot when it came. -/
theorem stop_closes_lastOrders : ∃ x w z,
    ((fresh {}).run Manager.alarmed busyMorning = some x ∧ x.isAlive ∧
      x.manager.currentId = some (.ofNat 1)) ∧
    (Stops Manager.alarmed x w w z ∧ w.manager.currentId = some (.ofNat 2) ∧
      w.manager.queuedIds = [.ofNat 3]) ∧
    ∃ r, (w.manager.stop Manager.alarmed).1 = .ok r ∧ Closed Manager.alarmed w r z := by
  have early : ((fresh {}).run Manager.alarmed busyMorning).map
      (fun x => (x.isOpen, x.isAlive, x.manager.currentId)) = some (true, true, some (.ofNat 1)) :=
    of_decide_eq_true (by cbv)
  have late : ((fresh {}).run Manager.alarmed (busyMorning ++ .tell :: lastOrders)).map
      (fun w => (w.manager.currentId, w.manager.queuedIds, w.loops.map (·.phase), w.stopping)) =
      some (some (.ofNat 2), [.ofNat 3], [.ended], some (some 0)) :=
    of_decide_eq_true (by cbv)
  have calm : ((fresh {}).run Manager.alarmed (busyMorning ++ .tell :: lastOrders)).bind
      (fun w => w.manager.slot.map (Manager.lastWait Manager.alarmed · w.manager)) =
      some (.exited .completed) := of_decide_eq_true (by cbv)
  obtain ⟨x, reached, hx⟩ := Option.map_eq_some_iff.mp early
  obtain ⟨w, comes, hw⟩ := Option.map_eq_some_iff.mp late
  rw [comes, Option.bind_some] at calm
  rw [run_append, reached] at comes
  simp only [Prod.mk.injEq] at hx hw
  obtain ⟨isOpen, alive, first⟩ := hx
  obtain ⟨second, third, phases, stopping⟩ := hw
  have dead : ∀ i, ¬w.isLive i := by
    intro i live
    obtain ⟨a, ha, awake⟩ := isLive_iff.mp live
    have phase := List.mem_map_of_mem (f := (·.phase)) (List.mem_of_getElem? ha)
    rw [phases, List.mem_singleton] at phase
    exact awake phase
  have stops : Stops Manager.alarmed x w w _ :=
    ⟨⟨lastOrders, by simp [lastOrders, LoopMove.isAside], comes⟩, dead, ⟨[], by simp, rfl⟩,
      step_conclude _ stopping dead⟩
  have passive : Manager.alarmed.Passive := by
    rintro k ⟨⟩ past r
    rfl
  refine ⟨x, w, _, ⟨reached, alive, first⟩, ⟨stops, second, third⟩,
    (stop_closes passive reached isOpen).2 w w _ stops fun o held p => ?_⟩
  rw [held] at calm
  simp [Option.some.inj calm]

end Supervision
end SerialJobs
