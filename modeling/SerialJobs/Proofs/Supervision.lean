import SerialJobs.Proofs.Course

/-!
# The loops of a manager

A loop runs on its own. Whoever starts it keeps a record of it, a stop takes the record and tells
the loop to end, and the loop itself only knows whether the manager is still held by someone.
`Supervision` is a manager with every loop that was ever started on it, those included that have
ended, so that a loop which should have ended and did not would be seen.

A round of a loop begins with a look at whether someone still holds the manager; then it does one
iteration and sleeps. A signal reaches it in its sleep only. When its sleep is over and it was told
to end as well, it may do either: hear the signal, or go on to another round.

An iteration is one move, since a loop that works holds the manager itself. The calls that start and
stop loops are made one after the other; a stop is the two moves between which its loop ends.
`Moved` lists what a move does to the loops, and `Supervised` is what the moves keep.
-/

namespace SerialJobs

/-- Where a loop is in its round. -/
inductive LoopPhase
  /-- At the beginning. -/
  | poised
  | asleep
  | ended
deriving DecidableEq, Repr

/-- A loop that was started. -/
structure Spawned where
  loop : Loop := {}
  phase : LoopPhase := .poised
deriving DecidableEq, Repr

/-- A loop that was started just now. -/
def Spawned.new : Spawned := {}

/-- A manager with all the loops that were ever started on it. -/
structure Supervision (J E : Type) where
  manager : Manager J E
  /-- The loops, in the order in which they were started. -/
  loops : List Spawned := []
  /-- The number of the loop that is on record. -/
  record : Option Nat := none
  /-- The stop that is under way, if any: the number of the loop that was on record when it came. -/
  stopping : Option (Option Nat) := none
  /-- Someone still holds the manager. -/
  held : Bool := true

/-- A move of a caller or of a loop. -/
inductive LoopMove (J E : Type)
  | start (runtime : Bool)
  /-- A stop begins: it takes the record, and tells the loop to end. -/
  | tell
  /-- A stop goes on when the loop that it told has ended. -/
  | conclude
  /-- Any other call, or a change of the surroundings. -/
  | serve (r : Request J E)
  /-- The last one who holds the manager lets it go. -/
  | drop
  /-- A loop does its iteration and falls asleep. -/
  | iterate (i : Nat)
  /-- A loop has slept for long enough. -/
  | wake (i : Nat)
  /-- A loop hears in its sleep that it was told to end, or that there is nobody left to tell it. -/
  | heed (i : Nat)
  /-- A loop finds that nobody holds the manager any more. -/
  | expire (i : Nat)

/-- The request is neither a stop nor an iteration made by a loop. -/
def Request.isCall {J E : Type} : Request J E → Bool
  | .stop | .iterate _ => false
  | _ => true

namespace Supervision

variable {J E : Type}

/-- A manager that nothing was submitted to, and no loops. -/
def fresh (env : E) : Supervision J E := { manager := .fresh env }

/-- The loop with this number has been started and has not ended. -/
def isLive (x : Supervision J E) (i : Nat) : Bool := x.loops[i]?.any (·.phase ≠ .ended)

/-- There is a loop on record and it has not ended. -/
def isAlive (x : Supervision J E) : Bool := x.record.any x.isLive

/-- A call that starts a loop, stops the manager or lets it go can be made now. -/
def isOpen (x : Supervision J E) : Bool := x.held && x.stopping.isNone

/-- Starts a loop, where `runtime` says whether there is something to host it. -/
def start (s : Setup J E) (runtime : Bool) (x : Supervision J E) :
    Except ManagerError Unit × Supervision J E :=
  if x.isAlive then (.error .alreadyRunning, x)
  else if !runtime then (.error (.runtimeUnavailable noRuntime), x)
  else
    let d := .loopStarted s.config.pollInterval s.config.jobTimeout x.manager.queue.length
    (.ok (), { x with
      manager := x.manager.note d, loops := x.loops ++ [.new], record := some x.loops.length })

/-- Tells the loop with this number to end. -/
def signal (i : Nat) (loops : List Spawned) : List Spawned :=
  loops.modify i fun a => { a with loop := { a.loop with told := true } }

/-- A stop begins, with the loop on record told to end. -/
def tell (x : Supervision J E) : Supervision J E :=
  { x with
    loops := (x.record.map (signal · x.loops)).getD x.loops
    record := none, stopping := some x.record }

/-- The loop with this number ends. -/
def endLoop (i : Nat) (a : Spawned) (x : Supervision J E) : Supervision J E :=
  { x with
    manager := x.manager.note .loopExited, loops := x.loops.set i { a with phase := .ended } }

/-- A loop does one iteration, unless nobody holds the manager. -/
def round (s : Setup J E) (i : Nat) (a : Spawned) (x : Supervision J E) : Supervision J E :=
  let r := Service.iterate s a.loop x.manager
  { x with manager := r.2, loops := x.loops.set i ⟨r.1, .asleep⟩ }

/-- The loop with this number, if it has got so far in its round. -/
def loopAt? (x : Supervision J E) (i : Nat) (p : LoopPhase) : Option Spawned :=
  x.loops[i]?.filter (·.phase = p)

/-- One move, if it can be made. -/
def step (s : Setup J E) (x : Supervision J E) : LoopMove J E → Option (Supervision J E)
  | .start runtime => if x.isOpen then some (x.start s runtime).2 else none
  | .tell => if x.isOpen then some x.tell else none
  | .conclude =>
    if x.stopping.any (·.all (!x.isLive ·)) then
      some { x with manager := (x.manager.stop s).2, stopping := none }
    else none
  | .serve r =>
    if x.held && r.isCall then some { x with manager := (x.manager.serve s r).2 } else none
  | .drop =>
    if x.isOpen then some { x with manager := x.manager.drop s, record := none, held := false }
    else none
  | .iterate i =>
    if x.held then (x.loopAt? i .poised).map fun a => x.round s i a else none
  | .wake i =>
    (x.loopAt? i .asleep).map fun a =>
      { x with loops := x.loops.set i { a with phase := .poised } }
  | .heed i =>
    (x.loopAt? i .asleep).bind fun a =>
      if a.loop.told || !x.held then some (x.endLoop i a) else none
  | .expire i => if x.held then none else (x.loopAt? i .poised).map fun a => x.endLoop i a

/-- Makes the moves, if they can be made. -/
def run (s : Setup J E) (x : Supervision J E) (mvs : List (LoopMove J E)) :
    Option (Supervision J E) :=
  mvs.foldlM (·.step s ·) x

lemma run_append (s : Setup J E) (x : Supervision J E) (mvs mvs' : List (LoopMove J E)) :
    x.run s (mvs ++ mvs') = (x.run s mvs).bind (·.run s mvs') :=
  List.foldlM_append

lemma run_append_singleton {s : Setup J E} {x y : Supervision J E} {mvs : List (LoopMove J E)}
    (h : x.run s mvs = some y) (mv : LoopMove J E) : x.run s (mvs ++ [mv]) = y.step s mv := by
  rw [run_append, h]
  simp [run]

/-- What holds at first and is kept by every move holds after every run. -/
theorem run_keeps {s : Setup J E} {x₀ x : Supervision J E}
    (P : List (LoopMove J E) → Supervision J E → Prop) (start : P [] x₀)
    (step : ∀ mvs y mv z, x₀.run s mvs = some y → P mvs y → y.step s mv = some z →
      P (mvs ++ [mv]) z)
    {mvs : List (LoopMove J E)} (h : x₀.run s mvs = some x) : P mvs x := by
  induction mvs using List.reverseRecOn generalizing x with
  | nil =>
    obtain rfl : x₀ = x := Option.some.inj h
    exact start
  | append_singleton mvs mv ih =>
    rw [run_append] at h
    obtain ⟨y, hy, last⟩ := Option.bind_eq_some_iff.mp h
    have last : y.step s mv = some x := by simpa [run] using last
    exact step mvs y mv x hy (ih hy) last

/-! ## What a move does -/

/-- What a move does to the loops and to what is known of them. -/
inductive Moved (s : Setup J E) (x : Supervision J E) : LoopMove J E → Supervision J E → Prop
  /-- A loop is not started. -/
  | refused {runtime : Bool} {e : ManagerError} (isOpen : x.isOpen)
      (answer : (x.start s runtime).1 = .error e) : Moved s x (.start runtime) x
  | started {m : Manager J E} (isOpen : x.isOpen) (dead : x.isAlive = false) :
      Moved s x (.start true)
        { x with manager := m, loops := x.loops ++ [.new], record := some x.loops.length }
  | told (isOpen : x.isOpen) : Moved s x .tell x.tell
  | concluded {r : Option Nat} (stopping : x.stopping = some r)
      (ended : ∀ i ∈ r, x.isLive i = false) :
      Moved s x .conclude { x with manager := (x.manager.stop s).2, stopping := none }
  | served {r : Request J E} (held : x.held) :
      Moved s x (.serve r) { x with manager := (x.manager.serve s r).2 }
  | dropped (isOpen : x.isOpen) :
      Moved s x .drop { x with manager := x.manager.drop s, record := none, held := false }
  /-- The loop falls asleep after its iteration. -/
  | iterated {i : Nat} {a : Spawned} {l : Loop} {m : Manager J E} (held : x.held)
      (here : x.loops[i]? = some a) (poised : a.phase = .poised) (told : l.told = a.loop.told) :
      Moved s x (.iterate i) { x with manager := m, loops := x.loops.set i ⟨l, .asleep⟩ }
  | woken {i : Nat} {a : Spawned} (here : x.loops[i]? = some a) (asleep : a.phase = .asleep) :
      Moved s x (.wake i) { x with loops := x.loops.set i { a with phase := .poised } }
  | heeded {i : Nat} {a : Spawned} (here : x.loops[i]? = some a) (asleep : a.phase = .asleep)
      (signal : a.loop.told ∨ x.held = false) : Moved s x (.heed i) (x.endLoop i a)
  | expired {i : Nat} {a : Spawned} (gone : x.held = false) (here : x.loops[i]? = some a)
      (poised : a.phase = .poised) : Moved s x (.expire i) (x.endLoop i a)

lemma round_eq {s : Setup J E} {x : Supervision J E} {a : Spawned} {l : Loop} {m : Manager J E}
    (h : Service.iterate s a.loop x.manager = (l, m)) (i : Nat) :
    x.round s i a = { x with manager := m, loops := x.loops.set i ⟨l, .asleep⟩ } := by
  simp only [round, h]

lemma isOpen_iff {x : Supervision J E} : x.isOpen ↔ x.held = true ∧ x.stopping = none := by
  simp [isOpen]

lemma loopAt?_eq_some_iff {x : Supervision J E} {i : Nat} {p : LoopPhase} {a : Spawned} :
    x.loopAt? i p = some a ↔ x.loops[i]? = some a ∧ a.phase = p := by
  simp [loopAt?, Option.filter_eq_some_iff]

lemma lastBeat_iterate (s : Setup J E) (l : Loop) (m : Manager J E) :
    (Service.iterate s l m).1.lastBeat.isSome := by
  simp only [Service.iterate]
  split <;> rfl

lemma told_iterate (s : Setup J E) (l : Loop) (m : Manager J E) :
    (Service.iterate s l m).1.told = l.told := by
  simp only [Service.iterate]
  split <;> rfl

lemma moved_start {s : Setup J E} {x : Supervision J E} (isOpen : x.isOpen) (runtime : Bool) :
    Moved s x (.start runtime) (x.start s runtime).2 := by
  rcases halive : x.isAlive with _ | _
  · cases runtime with
    | false =>
      have refused : x.start s false = (.error (.runtimeUnavailable noRuntime), x) := by
        simp [start, halive]
      rw [refused]
      exact .refused isOpen (congrArg Prod.fst refused)
    | true =>
      have started : (x.start s true).2 = { x with
          manager := (x.start s true).2.manager, loops := x.loops ++ [.new],
          record := some x.loops.length } := by
        simp [start, halive]
      rw [started]
      exact .started isOpen halive
  · have refused : x.start s runtime = (.error .alreadyRunning, x) := by
      simp [start, halive]
    rw [refused]
    exact .refused isOpen (congrArg Prod.fst refused)

/-- There is nothing else that a move does. -/
theorem moved_of_step {s : Setup J E} {x y : Supervision J E} {mv : LoopMove J E}
    (h : x.step s mv = some y) : Moved s x mv y := by
  cases mv with
  | start runtime =>
    obtain ⟨isOpen, h⟩ := Option.ite_none_right_eq_some.mp h
    cases h
    exact moved_start isOpen runtime
  | tell =>
    obtain ⟨isOpen, h⟩ := Option.ite_none_right_eq_some.mp h
    cases h
    exact .told isOpen
  | conclude =>
    obtain ⟨ended, h⟩ := Option.ite_none_right_eq_some.mp h
    cases h
    rcases hr : x.stopping with _ | r
    · simp [hr] at ended
    · exact .concluded hr fun i hi => by simpa [hr, Option.mem_def.mp hi] using ended
  | serve r =>
    obtain ⟨held, h⟩ := Option.ite_none_right_eq_some.mp h
    cases h
    exact .served (Bool.and_eq_true_iff.mp held).1
  | drop =>
    obtain ⟨isOpen, h⟩ := Option.ite_none_right_eq_some.mp h
    cases h
    exact .dropped isOpen
  | iterate i =>
    obtain ⟨held, h⟩ := Option.ite_none_right_eq_some.mp h
    obtain ⟨a, ha, rfl⟩ := Option.map_eq_some_iff.mp h
    obtain ⟨here, poised⟩ := loopAt?_eq_some_iff.mp ha
    exact .iterated held here poised (told_iterate s a.loop x.manager)
  | wake i =>
    obtain ⟨a, ha, rfl⟩ := Option.map_eq_some_iff.mp h
    obtain ⟨here, asleep⟩ := loopAt?_eq_some_iff.mp ha
    exact .woken here asleep
  | heed i =>
    obtain ⟨a, ha, h⟩ := Option.bind_eq_some_iff.mp h
    obtain ⟨here, asleep⟩ := loopAt?_eq_some_iff.mp ha
    obtain ⟨signal, h⟩ := Option.ite_none_right_eq_some.mp h
    cases h
    exact .heeded here asleep (by simpa using signal)
  | expire i =>
    obtain ⟨gone, h⟩ := Option.ite_none_left_eq_some.mp h
    obtain ⟨a, ha, rfl⟩ := Option.map_eq_some_iff.mp h
    obtain ⟨here, poised⟩ := loopAt?_eq_some_iff.mp ha
    exact .expired (by simpa using gone) here poised

/-! ## Which loops are live -/

section Live

variable {x y : Supervision J E} {i : Nat} {a b : Spawned}

lemma isLive_iff : x.isLive i ↔ ∃ a, x.loops[i]? = some a ∧ a.phase ≠ .ended := by
  simp only [isLive]
  cases x.loops[i]? <;> simp

lemma isLive_congr (loops : y.loops = x.loops) (j : Nat) : y.isLive j = x.isLive j := by
  rw [isLive, isLive, loops]

lemma isLive_append (loops : y.loops = x.loops ++ [.new]) (j : Nat) :
    y.isLive j ↔ x.isLive j ∨ j = x.loops.length := by
  rw [isLive_iff, isLive_iff, loops]
  rcases Nat.lt_trichotomy j x.loops.length with lt | rfl | gt
  · simp [List.getElem?_append_left lt, Nat.ne_of_lt lt]
  · simp [Spawned.new]
  · have outside : (x.loops ++ [Spawned.new])[j]? = none :=
      List.getElem?_eq_none (by simpa using Nat.succ_le_of_lt gt)
    simp [outside, List.getElem?_eq_none (Nat.le_of_lt gt), Nat.ne_of_gt gt]

lemma isLive_signal (loops : y.loops = signal i x.loops) (j : Nat) : y.isLive j = x.isLive j := by
  rw [isLive, isLive, loops, signal, List.getElem?_modify]
  split <;> cases x.loops[j]? <;> rfl

/-- A stop tells the loop on record, if there is one. -/
lemma isLive_tell (x : Supervision J E) (j : Nat) : x.tell.isLive j = x.isLive j := by
  cases hr : x.record with
  | none => exact isLive_congr (by simp [tell, hr]) j
  | some i => exact isLive_signal (i := i) (by simp [tell, hr]) j

lemma length_tell (x : Supervision J E) : x.tell.loops.length = x.loops.length := by
  cases h : x.record <;> simp [tell, signal, h]

/-- The loop with the number `i` was live, and the others are as they were. -/
lemma isLive_set (here : x.loops[i]? = some a) (live : a.phase ≠ .ended)
    (loops : y.loops = x.loops.set i b) (j : Nat) :
    y.isLive j ↔ x.isLive j ∧ (j = i → b.phase ≠ .ended) := by
  rw [isLive_iff, isLive_iff, loops, List.getElem?_set]
  by_cases hj : j = i
  · subst hj
    have lt : j < x.loops.length := (List.getElem?_eq_some_iff.mp here).1
    rw [here]
    simp [lt, live]
  · simp [hj, Ne.symm hj]

end Live

/-! ## What the moves keep -/

/-- Only the loop that was started last may be live. While someone holds the manager a live loop is
on record, or a stop waits for it; the loop on record is live and was not told to end; and who stops
the manager holds it. -/
structure Supervised (x : Supervision J E) : Prop where
  last : ∀ i, x.isLive i → i + 1 = x.loops.length
  known : x.held → ∀ i, x.isLive i → x.record = some i ∨ x.stopping = some (some i)
  recorded : ∀ i, x.record = some i → x.held ∧ x.stopping = none ∧
    ∃ a, x.loops[i]? = some a ∧ a.phase ≠ .ended ∧ a.loop.told = false
  attended : x.stopping.isSome → x.held

namespace Supervised

variable {s : Setup J E} {x y : Supervision J E} {mv : LoopMove J E}

lemma fresh (env : E) : Supervised (Supervision.fresh (J := J) env) where
  last i live := by cases live
  known _ i live := by cases live
  recorded i hi := by cases hi
  attended h := by cases h

/-- The loop on record has not ended. -/
lemma isLive (h : Supervised x) {i : Nat} (hi : x.record = some i) : x.isLive i := by
  obtain ⟨-, -, a, ha, live, -⟩ := h.recorded i hi
  exact isLive_iff.mpr ⟨a, ha, live⟩

lemma isAlive_iff (h : Supervised x) : x.isAlive ↔ x.record.isSome := by
  cases hr : x.record with
  | none => simp [isAlive, hr]
  | some i => simp [isAlive, hr, h.isLive hr]

/-- When a loop can be started there is no other one. -/
lemma none_live (h : Supervised x) (isOpen : x.isOpen) (dead : x.isAlive = false) (i : Nat) :
    ¬x.isLive i := by
  obtain ⟨held, idle⟩ := isOpen_iff.mp isOpen
  intro live
  rcases h.known held i live with record | stopping
  · have alive : x.isAlive := h.isAlive_iff.mpr (by simp [record])
    simp [alive] at dead
  · simp [idle] at stopping

/-- A loop goes on in its round, or ends if it is not the one on record. -/
lemma set (h : Supervised x) {i : Nat} {a b : Spawned} (here : x.loops[i]? = some a)
    (live : a.phase ≠ .ended)
    (goesOn : x.record = some i → b.phase ≠ .ended ∧ b.loop.told = a.loop.told)
    (loops : y.loops = x.loops.set i b) (record : y.record = x.record)
    (stopping : y.stopping = x.stopping) (held : y.held = x.held) : Supervised y where
  last j hj := by
    have hj : x.isLive j := ((isLive_set here live loops j).mp hj).1
    rw [loops, List.length_set]
    exact h.last j hj
  known still j hj := by
    have hj : x.isLive j := ((isLive_set here live loops j).mp hj).1
    rw [record, stopping]
    exact h.known (held ▸ still) j hj
  recorded j hj := by
    rw [record] at hj
    obtain ⟨still, idle, c, hc, awake, told⟩ := h.recorded j hj
    refine ⟨held ▸ still, stopping ▸ idle, ?_⟩
    rw [loops, List.getElem?_set]
    by_cases hi : i = j
    · subst hi
      have lt : i < x.loops.length := (List.getElem?_eq_some_iff.mp here).1
      obtain rfl : a = c := Option.some.inj (here.symm.trans hc)
      obtain ⟨awake', told'⟩ := goesOn hj
      exact ⟨b, by simp [lt], awake', told'.trans told⟩
    · exact ⟨c, by simpa [hi] using hc, awake, told⟩
  attended hs := by
    rw [held]
    exact h.attended (stopping ▸ hs)

/-- Every move keeps it. -/
lemma moved (h : Supervised x) (step : Moved s x mv y) : Supervised y := by
  cases step with
  | refused isOpen answer => exact h
  | started isOpen dead =>
    obtain ⟨held, idle⟩ := isOpen_iff.mp isOpen
    refine ⟨?_, ?_, ?_, h.attended⟩
    · intro j hj
      obtain rfl := ((isLive_append rfl j).mp hj).resolve_left (h.none_live isOpen dead j)
      simp
    · intro _ j hj
      obtain rfl := ((isLive_append rfl j).mp hj).resolve_left (h.none_live isOpen dead j)
      exact .inl rfl
    · intro j hj
      obtain rfl := Option.some.inj hj
      exact ⟨held, idle, .new, by simp, by simp [Spawned.new], rfl⟩
  | told isOpen =>
    obtain ⟨held, idle⟩ := isOpen_iff.mp isOpen
    refine ⟨?_, ?_, ?_, fun _ => held⟩
    · intro j hj
      rw [isLive_tell] at hj
      simpa [length_tell] using h.last j hj
    · intro _ j hj
      rw [isLive_tell] at hj
      have record := (h.known held j hj).resolve_right (by simp [idle])
      exact .inr (congrArg some record)
    · intro j hj
      cases hj
  | @concluded r stopping ended =>
    refine ⟨h.last, ?_, ?_, fun hs => by cases hs⟩
    · intro held j hj
      replace hj : x.isLive j := hj
      refine (h.known held j hj).imp_right fun waits => ?_
      -- the stop has waited for it
      obtain rfl : r = some j := Option.some.inj (stopping.symm.trans waits)
      simp [ended j rfl] at hj
    · intro j hj
      obtain ⟨held, -, live⟩ := h.recorded j hj
      exact ⟨held, rfl, live⟩
  | served held => exact ⟨h.last, h.known, h.recorded, h.attended⟩
  | dropped isOpen =>
    obtain ⟨-, idle⟩ := isOpen_iff.mp isOpen
    refine ⟨h.last, ?_, ?_, ?_⟩
    · intro held
      cases held
    · intro j hj
      cases hj
    · intro hs
      simp [idle] at hs
  | iterated held here poised told =>
    exact h.set here (by simp [poised]) (fun _ => ⟨by simp, told⟩) rfl rfl rfl rfl
  | woken here asleep =>
    refine h.set here (by simp [asleep]) (fun _ => ⟨?_, ?_⟩) rfl rfl rfl rfl
    · simp
    · rfl
  | heeded here asleep signal =>
    refine h.set here (by simp [asleep]) (fun record => ?_) rfl rfl rfl rfl
    obtain ⟨held, -, a, ha, -, told⟩ := h.recorded _ record
    obtain rfl := Option.some.inj (here.symm.trans ha)
    simp [held, told] at signal
  | expired gone here poised =>
    refine h.set here (by simp [poised]) (fun record => ?_) rfl rfl rfl rfl
    obtain ⟨held, -⟩ := h.recorded _ record
    simp [gone] at held

lemma run (h : Supervised x) {mvs : List (LoopMove J E)} (run : x.run s mvs = some y) :
    Supervised y :=
  run_keeps (fun _ => Supervised) h (fun _ _ _ _ _ hy step => hy.moved (moved_of_step step)) run

/-- It holds after every run. -/
theorem of_run {env : E} {mvs : List (LoopMove J E)}
    (h : (Supervision.fresh env).run s mvs = some x) : Supervised x :=
  (fresh env).run h

end Supervised

end Supervision
end SerialJobs
