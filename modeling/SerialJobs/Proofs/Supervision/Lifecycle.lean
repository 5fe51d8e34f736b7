import Mathlib
import SerialJobs.Proofs.Noninterference
import SerialJobs.Proofs.Supervision

/-!
# The life of a loop

What the callers of a manager may rely on about its loops, whatever the jobs and the sink do. There
is never more than one; `isAlive` says whether a loop was started since the last stop; a loop works
before it hears anything, and not any more once it was stopped or nobody holds the manager; and
nothing else ends it.

Each of these is about the moves that come before or after another one. A fact about the past is
kept from move to move along with the state that it explains; a fact about the future is a property
of the state that no move ends and that rules the move out (`notMem_of_run`).
-/

namespace SerialJobs
namespace Supervision

variable {J E : Type} {s : Setup J E} {x y z : Supervision J E} {mv : LoopMove J E} {i : Nat}

/-! ## Starting a loop -/

lemma start_ok_iff {runtime : Bool} :
    (x.start s runtime).1 = .ok () ↔ x.isAlive = false ∧ runtime = true := by
  cases h : x.isAlive <;> cases runtime <;> simp [start, h]

lemma start_alreadyRunning_iff {runtime : Bool} :
    (x.start s runtime).1 = .error .alreadyRunning ↔ x.isAlive = true := by
  cases h : x.isAlive <;> cases runtime <;> simp [start, h]

lemma start_runtimeUnavailable_iff {runtime : Bool} :
    (x.start s runtime).1 = .error (.runtimeUnavailable noRuntime) ↔
      x.isAlive = false ∧ runtime = false := by
  cases h : x.isAlive <;> cases runtime <;> simp [start, h]

/-- A start that fails changes nothing. -/
lemma eq_of_start_error {runtime : Bool} {e : ManagerError} (h : (x.start s runtime).1 = .error e) :
    (x.start s runtime).2 = x := by
  cases alive : x.isAlive <;> cases runtime <;> simp_all [start]

/-! ## Runs -/

/-- A move in the middle of a run. -/
lemma run_split {before after : List (LoopMove J E)}
    (h : x.run s (before ++ mv :: after) = some z) :
    ∃ y y', x.run s before = some y ∧ y.step s mv = some y' ∧ y'.run s after = some z := by
  rw [run_append] at h
  obtain ⟨y, hy, h⟩ := Option.bind_eq_some_iff.mp h
  obtain ⟨y', hy', h⟩ := Option.bind_eq_some_iff.mp h
  exact ⟨y, y', hy, hy', h⟩

/-- What no move ends rules out a move after which it cannot hold. -/
lemma notMem_of_run {Q : Supervision J E → Prop} {bad : LoopMove J E} (start : Q x)
    (keeps : ∀ y mv z, Q y → Moved s y mv z → Q z ∧ mv ≠ bad) {mvs : List (LoopMove J E)}
    (h : x.run s mvs = some z) : bad ∉ mvs := by
  have all : bad ∉ mvs ∧ Q z := by
    refine run_keeps (fun mvs z => bad ∉ mvs ∧ Q z) ⟨List.not_mem_nil, start⟩ ?_ h
    rintro mvs y mv z - ⟨absent, hy⟩ step
    obtain ⟨hz, ne⟩ := keeps y mv z hy (moved_of_step step)
    exact ⟨by simp [absent, ne.symm], hz⟩
  exact all.1

/-! ## What is past -/

/-- A loop after another one has changed, or the same. -/
lemma of_getElem?_set {l : List Spawned} {j : Nat} {a b : Spawned} (h : (l.set j b)[i]? = some a) :
    (j = i ∧ a = b) ∨ l[i]? = some a := by
  rw [List.getElem?_set] at h
  split_ifs at h with hj lt
  · exact .inl ⟨hj, (Option.some.inj h).symm⟩
  · exact .inr h

/-- A loop falls asleep after an iteration only. -/
lemma asleep_of_moved {b : Spawned} (step : Moved s x mv y) (here : y.loops[i]? = some b)
    (asleep : b.phase = .asleep) :
    mv = .iterate i ∨ ∃ a, x.loops[i]? = some a ∧ a.phase = .asleep := by
  cases step with
  | started isOpen dead =>
    rw [List.getElem?_append] at here
    split_ifs at here
    · exact .inr ⟨b, here, asleep⟩
    · obtain rfl : b = .new := by simpa using List.mem_of_getElem? here
      cases asleep
  | told isOpen =>
    rcases hr : x.record with _ | j
    · exact .inr ⟨b, by simpa [tell, hr] using here, asleep⟩
    · simp only [tell, hr, Option.map_some, Option.getD_some, signal, List.getElem?_modify] at here
      obtain ⟨a, ha, rfl⟩ := Option.map_eq_some_iff.mp here
      exact .inr ⟨a, ha, by split_ifs at asleep <;> exact asleep⟩
  | iterated held here' poised told =>
    rcases of_getElem?_set here with ⟨rfl, -⟩ | here
    · exact .inl rfl
    · exact .inr ⟨b, here, asleep⟩
  | woken here' asleep' =>
    rcases of_getElem?_set here with ⟨-, rfl⟩ | here
    · cases asleep
    · exact .inr ⟨b, here, asleep⟩
  | heeded here' asleep' signal =>
    rcases of_getElem?_set here with ⟨-, rfl⟩ | here
    · cases asleep
    · exact .inr ⟨b, here, asleep⟩
  | expired gone here' poised =>
    rcases of_getElem?_set here with ⟨-, rfl⟩ | here
    · cases asleep
    · exact .inr ⟨b, here, asleep⟩
  | _ => exact .inr ⟨b, here, asleep⟩

/-- Who sleeps has worked. -/
lemma iterate_mem_of_asleep {env : E} {mvs : List (LoopMove J E)}
    (h : (fresh env).run s mvs = some x) {a : Spawned} (here : x.loops[i]? = some a)
    (asleep : a.phase = .asleep) : .iterate i ∈ mvs := by
  have worked : ∀ i a, x.loops[i]? = some a → a.phase = .asleep → .iterate i ∈ mvs := by
    refine run_keeps (fun mvs x => ∀ i a, x.loops[i]? = some a → a.phase = .asleep →
      .iterate i ∈ mvs) ?_ ?_ h
    · intro i a ha
      cases ha
    · intro mvs y mv z _ hy step i b hb asleep
      rcases asleep_of_moved (moved_of_step step) hb asleep with rfl | ⟨a, ha, asleep⟩
      · simp
      · exact List.mem_append_left _ (hy i a ha asleep)
  exact worked i a here asleep

/-- A loop was started, and neither did a stop come nor was the manager let go since. -/
def StartedLast (s : Setup J E) (env : E) (mvs : List (LoopMove J E)) : Prop :=
  ∃ before runtime after y, mvs = before ++ .start runtime :: after ∧
    (fresh env).run s before = some y ∧ (y.start s runtime).1 = .ok () ∧
      .tell ∉ after ∧ .drop ∉ after

lemma startedLast_append_singleton {env : E} {mvs : List (LoopMove J E)}
    (h : (fresh env).run s mvs = some x) :
    StartedLast s env (mvs ++ [mv]) ↔
      (mv ≠ .tell ∧ mv ≠ .drop ∧ StartedLast s env mvs) ∨
        ∃ runtime, mv = .start runtime ∧ (x.start s runtime).1 = .ok () := by
  constructor
  · rintro ⟨before, runtime, after, y, split, hy, ok, noTell, noDrop⟩
    rcases History.append_eq_split split with ⟨after', rfl, rfl⟩ | ⟨a, last, rfl⟩
    · simp only [List.mem_append, List.mem_singleton, not_or] at noTell noDrop
      exact .inl ⟨Ne.symm noTell.2, Ne.symm noDrop.2, before, runtime, after', y, rfl, hy, ok,
        noTell.1, noDrop.1⟩
    · obtain ⟨rfl, rfl, rfl⟩ := History.eq_of_append_cons_eq_singleton last.symm
      rw [List.append_nil] at hy
      obtain rfl := Option.some.inj (h.symm.trans hy)
      exact .inr ⟨runtime, rfl, ok⟩
  · rintro (⟨noTell, noDrop, before, runtime, after, y, rfl, hy, ok, tell, drop⟩ |
      ⟨runtime, rfl, ok⟩)
    · exact ⟨before, runtime, after ++ [mv], y, by simp, hy, ok, by simp [tell, noTell.symm],
        by simp [drop, noDrop.symm]⟩
    · exact ⟨mvs, runtime, [], x, rfl, h, ok, List.not_mem_nil, List.not_mem_nil⟩

/-- How a loop gets on record and off it. -/
lemma record_of_moved (step : Moved s x mv y) :
    y.record.isSome ↔ (mv ≠ .tell ∧ mv ≠ .drop ∧ x.record.isSome) ∨
      ∃ runtime, mv = .start runtime ∧ (x.start s runtime).1 = .ok () := by
  cases step with
  | refused isOpen answer => simp [answer]
  | started isOpen dead => simp [start_ok_iff, dead]
  | _ => simp [endLoop, tell]

lemma record_iff_startedLast {env : E} {mvs : List (LoopMove J E)}
    (h : (fresh env).run s mvs = some x) : x.record.isSome ↔ StartedLast s env mvs := by
  refine run_keeps (fun mvs x => x.record.isSome ↔ StartedLast s env mvs) ?_ ?_ h
  · simp [fresh, StartedLast]
  · intro mvs y mv z hy ih step
    rw [record_of_moved (moved_of_step step), startedLast_append_singleton hy, ih]

/-! ## What is to come -/

/-- A loop that has ended does not work again. -/
lemma ended_of_moved (known : i < x.loops.length) (ended : ¬x.isLive i) (step : Moved s x mv y) :
    (i < y.loops.length ∧ ¬y.isLive i) ∧ mv ≠ .iterate i := by
  cases step with
  | started isOpen dead =>
    refine ⟨⟨by simp; omega, ?_⟩, by simp⟩
    rw [isLive_append rfl]
    exact not_or.mpr ⟨ended, Nat.ne_of_lt known⟩
  | told isOpen =>
    refine ⟨⟨?_, ?_⟩, by simp⟩
    · simpa [length_tell] using known
    · rwa [isLive_tell]
  | @iterated j a l m held here poised told =>
    have live : a.phase ≠ .ended := by simp [poised]
    refine ⟨⟨by simpa using known, fun h => ended ((isLive_set here live rfl i).mp h).1⟩, ?_⟩
    rintro ⟨⟩
    exact ended (isLive_iff.mpr ⟨a, here, live⟩)
  | woken here asleep =>
    refine ⟨⟨by simpa using known, fun h => ended ?_⟩, by simp⟩
    exact ((isLive_set here (by simp [asleep]) rfl i).mp h).1
  | heeded here asleep signal =>
    refine ⟨⟨by simpa [endLoop] using known, fun h => ended ?_⟩, by simp⟩
    exact ((isLive_set here (by simp [asleep]) rfl i).mp h).1
  | expired gone here poised =>
    refine ⟨⟨by simpa [endLoop] using known, fun h => ended ?_⟩, by simp⟩
    exact ((isLive_set here (by simp [poised]) rfl i).mp h).1
  | _ => exact ⟨⟨known, ended⟩, by simp⟩

/-- Who has let the manager go does not get it back. -/
lemma gone_of_moved (gone : x.held = false) (step : Moved s x mv y) :
    y.held = false ∧ mv ≠ .iterate i := by
  cases step with
  | dropped isOpen => exact ⟨rfl, by simp⟩
  | iterated held here poised told => simp [held] at gone
  | _ => exact ⟨gone, by simp⟩

/-- A loop stays on record until a stop comes or the manager is let go. -/
lemma recorded_of_moved (h : Supervised x) (record : x.record = some i) (step : Moved s x mv y) :
    mv = .tell ∨ mv = .drop ∨ y.record = some i := by
  cases step with
  | started isOpen dead =>
    have alive := h.isAlive_iff.mpr (by simp [record])
    simp [alive] at dead
  | told isOpen => exact .inl rfl
  | dropped isOpen => exact .inr (.inl rfl)
  | _ => exact .inr (.inr record)

/-- A live loop is on record unless a stop waits for it, and stays there. -/
lemma recorded_of_run (hy : Supervised y) (isOpen : y.isOpen) (live : y.isLive i)
    {mvs : List (LoopMove J E)} (h : y.run s mvs = some x) (noTell : .tell ∉ mvs)
    (noDrop : .drop ∉ mvs) : x.record = some i := by
  obtain ⟨held, idle⟩ := isOpen_iff.mp isOpen
  have record : y.record = some i := (hy.known held i live).resolve_right (by simp [idle])
  have all : Supervised x ∧ (.tell ∉ mvs → .drop ∉ mvs → x.record = some i) := by
    refine run_keeps (fun mvs x => Supervised x ∧ (.tell ∉ mvs → .drop ∉ mvs → x.record = some i))
      ⟨hy, fun _ _ => record⟩ ?_ h
    rintro mvs z mv z' - ⟨hz, ih⟩ step
    have step := moved_of_step step
    refine ⟨hz.moved step, fun noTell noDrop => ?_⟩
    simp only [List.mem_append, List.mem_singleton, not_or] at noTell noDrop
    rcases recorded_of_moved hz (ih noTell.1 noDrop.1) step with rfl | rfl | record
    · exact absurd rfl noTell.2
    · exact absurd rfl noDrop.2
    · exact record
  exact all.2 noTell noDrop

/-- The loop that a stop has waited for is the last one that was live. -/
lemma none_live_of_conclude (h : Supervised x) (step : Moved s x .conclude y) (i : Nat) :
    ¬y.isLive i := by
  cases step with
  | @concluded r stopping ended =>
    intro live
    replace live : x.isLive i := live
    have held : x.held := h.attended (by simp [stopping])
    rcases h.known held i live with record | waits
    · obtain ⟨-, idle, -⟩ := h.recorded i record
      simp [stopping] at idle
    · obtain rfl : r = some i := Option.some.inj (stopping.symm.trans waits)
      simp [ended i rfl] at live

/-! ## The whole life -/

/-! ## The moves of a loop -/

/-- From `m` to `m'` the manager works once, at this moment, and a heartbeat may follow. -/
def Works (s : Setup J E) (m m' : Manager J E) : Prop :=
  let worked := (({ m with env := s.kind.moment m.env } : Manager J E).work s).2
  m' = worked ∨ m' = worked.audit (.heartbeat (worked.snapshot true))

lemma works_iterate (s : Setup J E) (l : Loop) (m : Manager J E) :
    Works s m (Service.iterate s l m).2 := by
  rcases hw : ({ m with env := s.kind.moment m.env } : Manager J E).work s with ⟨k, m'⟩
  simp only [Works, Service.iterate, hw]
  split_ifs
  · exact .inr rfl
  · exact .inl rfl

lemma works_of_step (h : x.step s (.iterate i) = some y) : Works s x.manager y.manager := by
  simp only [step] at h
  split_ifs at h
  obtain ⟨a, -, rfl⟩ := Option.map_eq_some_iff.mp h
  have worked := works_iterate s a.loop x.manager
  rcases hr : Service.iterate s a.loop x.manager with ⟨l, m⟩
  rw [hr] at worked
  rw [round_eq hr]
  exact worked

/-- Waking up and ending, a loop does nothing to the manager. -/
lemma rests_of_step (rest : mv ∈ [.wake i, .heed i, .expire i]) (h : x.step s mv = some y) :
    y.manager = x.manager ∨ y.manager = x.manager.note .loopExited := by
  have step := moved_of_step h
  simp only [List.mem_cons, List.not_mem_nil, or_false] at rest
  rcases rest with rfl | rfl | rfl
  · cases step
    exact .inl rfl
  · cases step
    exact .inr rfl
  · cases step
    exact .inr rfl

/-- What is to be said of the loops after the moves `mvs`, which have led to `x`. -/
structure Lifecycle (s : Setup J E) (env : E) (mvs : List (LoopMove J E)) (x : Supervision J E) :
    Prop where
  /-- At most one loop is live. -/
  single : ∀ i j, x.isLive i → x.isLive j → i = j
  /-- A loop is said to run if one was started, and since then neither did a stop come nor was the
  manager let go. -/
  alive : x.isAlive ↔ StartedLast s env mvs
  /-- A loop is refused if there is a live one, whether there is something to host it or not. -/
  alreadyRunning : x.isOpen → ∀ runtime,
    (x.start s runtime).1 = .error .alreadyRunning ↔ ∃ i, x.isLive i
  /-- Otherwise it is refused if there is nothing to host it, and only then. -/
  runtimeUnavailable : x.isOpen → ∀ runtime,
    ((x.start s runtime).1 = .error (.runtimeUnavailable noRuntime) ↔
      (∀ i, ¬x.isLive i) ∧ runtime = false) ∧
    ((x.start s runtime).1 = .ok () ↔ (∀ i, ¬x.isLive i) ∧ runtime = true)
  /-- A start that fails changes nothing. -/
  refused : ∀ runtime e, (x.start s runtime).1 = .error e → (x.start s runtime).2 = x
  /-- An iteration of a loop is the work of the manager, at most with a heartbeat after it. -/
  works : ∀ before i after y, mvs = before ++ .iterate i :: after →
    (fresh env).run s before = some y →
      ∃ z, y.step s (.iterate i) = some z ∧ Works s y.manager z.manager
  /-- In no other move does a loop do anything to the manager, except that it says when it ends. -/
  rests : ∀ before mv i after y, mvs = before ++ mv :: after → mv ∈ [.wake i, .heed i, .expire i] →
    (fresh env).run s before = some y →
      ∃ z, y.step s mv = some z ∧
        (z.manager = y.manager ∨ z.manager = y.manager.note .loopExited)
  /-- A loop works before it can hear that it is to end. -/
  worksFirst : ∀ before i after, mvs = before ++ .heed i :: after → .iterate i ∈ before
  /-- No loop that was started before a stop has returned works after that. -/
  stopped : ∀ before after y, mvs = before ++ .conclude :: after →
    (fresh env).run s before = some y → ∀ i < y.loops.length, .iterate i ∉ after
  /-- No loop works once the manager was let go. -/
  gone : ∀ before after, mvs = before ++ .drop :: after → ∀ i, .iterate i ∉ after
  /-- A loop that is live while no stop is under way stays so until a stop comes or the manager is
  let go, whatever comes of the iterations and of the other calls. -/
  endures : ∀ before after y i, mvs = before ++ after → (fresh env).run s before = some y →
    y.isOpen → y.isLive i → .tell ∉ after → .drop ∉ after → x.isLive i

/-- The life of loops, with any jobs and any sink, which may fail, panic or call the manager back
whenever they are called: at any time there is at most one live loop, a manager is alive and a start
succeeds or fails as it should, a loop has the manager work in each iteration and does nothing else
to it, a loop works before it hears of its end and never after it, and nothing but a stop or the end
of the manager ends it. -/
theorem loop_lifecycle {env : E} {mvs : List (LoopMove J E)}
    (h : (fresh env).run s mvs = some x) : Lifecycle s env mvs x := by
  have hx := Supervised.of_run h
  have alive_iff (isOpen : x.isOpen) : x.isAlive ↔ ∃ i, x.isLive i := by
    constructor
    · intro alive
      obtain ⟨i, hi⟩ := Option.isSome_iff_exists.mp (hx.isAlive_iff.mp alive)
      exact ⟨i, hx.isLive hi⟩
    · rintro ⟨i, live⟩
      by_contra dead
      exact hx.none_live isOpen (Bool.eq_false_iff.mpr dead) i live
  have dead_iff (isOpen : x.isOpen) : x.isAlive = false ↔ ∀ i, ¬x.isLive i := by
    rw [← not_exists, ← alive_iff isOpen, Bool.not_eq_true]
  refine ⟨?_, ?_, ?_, ?_, ?_, ?_, ?_, ?_, ?_, ?_, ?_⟩
  · intro i j hi hj
    have last := hx.last i hi
    have last' := hx.last j hj
    omega
  · rw [hx.isAlive_iff, record_iff_startedLast h]
  · intro isOpen runtime
    rw [start_alreadyRunning_iff, alive_iff isOpen]
  · intro isOpen runtime
    rw [start_runtimeUnavailable_iff, start_ok_iff, dead_iff isOpen]
    exact ⟨Iff.rfl, Iff.rfl⟩
  · intro runtime e
    exact eq_of_start_error
  · rintro before i after y rfl hy
    obtain ⟨y', z, hy', iterates, -⟩ := run_split h
    obtain rfl := Option.some.inj (hy.symm.trans hy')
    exact ⟨z, iterates, works_of_step iterates⟩
  · rintro before mv i after y rfl rest hy
    obtain ⟨y', z, hy', moves, -⟩ := run_split h
    obtain rfl := Option.some.inj (hy.symm.trans hy')
    exact ⟨z, moves, rests_of_step rest moves⟩
  · rintro before i after rfl
    obtain ⟨y, y', hy, hears, -⟩ := run_split h
    have step := moved_of_step hears
    cases step with
    | heeded here asleep signal => exact iterate_mem_of_asleep hy here asleep
  · rintro before after y rfl hy i known
    obtain ⟨y, y', hy', concludes, rest⟩ := run_split h
    obtain rfl := Option.some.inj (hy.symm.trans hy')
    have step := moved_of_step concludes
    have ended := none_live_of_conclude (.of_run hy) step i
    have known' : i < y'.loops.length := by
      cases step
      exact known
    exact notMem_of_run (Q := fun z => i < z.loops.length ∧ ¬z.isLive i) ⟨known', ended⟩
      (fun z mv z' hz step => ended_of_moved hz.1 hz.2 step) rest
  · rintro before after rfl i
    obtain ⟨y, y', -, drops, rest⟩ := run_split h
    have gone : y'.held = false := by
      have step := moved_of_step drops
      cases step
      rfl
    exact notMem_of_run (Q := fun z => z.held = false) gone
      (fun z mv z' hz step => gone_of_moved hz step) rest
  · rintro before after y i rfl hy isOpen live noTell noDrop
    rw [run_append, hy] at h
    have record := recorded_of_run (.of_run hy) isOpen live h noTell noDrop
    exact hx.isLive record

/-- A script whose status cannot be read and whose signals panic. -/
def unruly : Worker :=
  .script ⟨.ofNat 1, "unruly", .always (.ok ()), .always (.error (.statusUnavailable "busy")),
    .always (.panic (.text "signal")), .always ⟨0, some (.ok .completed)⟩⟩

/-- A loop looks after an unruly job until a stop comes, which it hears one round too late. A second
loop ends when nobody holds the manager any more. -/
def shifts : List (LoopMove Worker Host) :=
  [.start false, .start true, .start false, .serve (.submit unruly), .iterate 0, .wake 0,
    .serve (.kill (.ofNat 1) .cancel), .iterate 0, .tell, .wake 0, .iterate 0, .heed 0, .conclude,
    .start true, .iterate 1, .drop, .heed 1]

/-- The first loop is alive when the stop comes, and in the end both have ended. -/
theorem loop_lifecycle_shifts :
    (∃ x, (fresh {}).run Manager.alarmed (shifts.take 8) = some x ∧ x.isAlive ∧
      Lifecycle Manager.alarmed {} (shifts.take 8) x) ∧
    ∃ x, (fresh {}).run Manager.alarmed shifts = some x ∧
      x.loops.map (·.phase) = [.ended, .ended] ∧ Lifecycle Manager.alarmed {} shifts x := by
  have early : ((fresh {}).run Manager.alarmed (shifts.take 8)).map isAlive = some true :=
    of_decide_eq_true (by cbv)
  have late : ((fresh {}).run Manager.alarmed shifts).map (·.loops.map (·.phase)) =
      some [.ended, .ended] := of_decide_eq_true (by cbv)
  obtain ⟨x, hx, alive⟩ := Option.map_eq_some_iff.mp early
  obtain ⟨y, hy, phases⟩ := Option.map_eq_some_iff.mp late
  exact ⟨⟨x, hx, alive, loop_lifecycle hx⟩, y, hy, phases, loop_lifecycle hy⟩

end Supervision
end SerialJobs
