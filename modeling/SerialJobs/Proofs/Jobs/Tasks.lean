import Mathlib.Data.List.TakeWhile
import SerialJobs.Proofs.Jobs.Latch

/-!
# What becomes of a routine's task

Three things happen to a task at times of their own: it ends, it is told to go away, and somebody
asks how it ended. A `Routine.Life` has them in any order. Between two calls on the routine anything
may happen that leaves its task to itself (`Host.Leaves`): the task may go on with its work, it may
end as its work ends, and it may be cancelled once the routine has told it to go away.

Whoever asks then learns the truth (`Routine.exit_truthful`). A task that has ended by itself is
reported with its own result, also when it was told to go away after that. A task that was cancelled
is reported as killed, by the last command that was delivered before somebody learned of it. What a
routine is told before it is started leaves no trace.
-/

namespace SerialJobs

/-! ## Work and tasks -/

/-- How a piece of work ends by itself. -/
inductive Work.Ends : Work → TaskEnd → Prop
  | returns (result : Except String Unit) : Ends (.ended result) (.returned result)
  | panics (p : PanicPayload) : Ends (.panic p) (.panicked p)
  | wakes {millis : Nat} {w : Work} {e : TaskEnd} (rest : w.Ends e) : Ends (.sleep millis w) e

lemma Work.ends_of_over {w : Work} {e : TaskEnd} (final : w.run = .over e) : w.Ends e := by
  fun_induction Work.run w with
  | case1 result =>
    cases final
    exact .returns result
  | case2 p =>
    cases final
    exact .panics p
  | case3 => cases final
  | case4 w ih => exact .wakes (ih final)
  | case5 => cases final

lemma Work.ends_of_asleep {w w' : Work} {millis : Nat} {e : TaskEnd}
    (asleep : w.run = .asleep millis w') (ends : w'.Ends e) : w.Ends e := by
  fun_induction Work.run w with
  | case1 => cases asleep
  | case2 => cases asleep
  | case3 => cases asleep
  | case4 w ih => exact .wakes (ih asleep)
  | case5 n w =>
    cases asleep
    exact .wakes ends

/-- No work ends by being cancelled. -/
lemma Work.not_ends_cancelled (w : Work) : ¬ w.Ends .cancelled := by
  intro ends
  induction w with
  | sleep millis w ih =>
    cases ends with
    | wakes rest => exact ih rest
  | _ => cases ends

/-- What may become of a task that nobody tells to go away meanwhile. -/
structure Task.Proceeds (t t' : Task) : Prop where
  aborted : t'.aborted = t.aborted
  work : ∀ e, t'.work.Ends e → t.work.Ends e
  kept : ∀ e, t.ended = some e → t'.ended = some e
  ended : ∀ e, t'.ended = some e →
    t.ended = some e ∨ t.work.Ends e ∨ e = .cancelled ∧ t.aborted

namespace Task.Proceeds

variable {t t' t'' : Task}

lemma refl (t : Task) : t.Proceeds t := ⟨rfl, fun _ => id, fun _ => id, fun _ => .inl⟩

lemma trans (first : t.Proceeds t') (second : t'.Proceeds t'') : t.Proceeds t'' where
  aborted := second.aborted.trans first.aborted
  work e ends := first.work e (second.work e ends)
  kept e ended := second.kept e (first.kept e ended)
  ended e ended := by
    rcases second.ended e ended with ended | ends | ⟨rfl, aborted⟩
    · exact first.ended e ended
    · exact .inr (.inl (first.work e ends))
    · exact .inr (.inr ⟨rfl, first.aborted ▸ aborted⟩)

end Task.Proceeds

/-! ## What leaves a task to itself -/

namespace Host

variable {n : Nat} {h h' h'' : Host}

/-- From the one host to the other, the task of the number `n` is left to itself. -/
def Leaves (n : Nat) (h h' : Host) : Prop :=
  ∀ t, h.task? n = some t → ∃ t', h'.task? n = some t' ∧ t.Proceeds t'

lemma Leaves.of_tasks (same : h'.tasks = h.tasks) : h.Leaves n h' := by
  intro t there
  refine ⟨t, ?_, .refl t⟩
  rw [task?, same]
  exact there

lemma Leaves.trans (first : h.Leaves n h') (second : h'.Leaves n h'') : h.Leaves n h'' := by
  intro t there
  obtain ⟨t', there', proceeds⟩ := first t there
  obtain ⟨t'', there'', proceeds'⟩ := second t' there'
  exact ⟨t'', there'', proceeds.trans proceeds'⟩

lemma Leaves.ended (leaves : h.Leaves n h') {e : TaskEnd} (ended : h.taskEnd n = some e) :
    h'.taskEnd n = some e := by
  obtain ⟨t, there, known⟩ := Option.bind_eq_some_iff.mp ended
  obtain ⟨t', there', proceeds⟩ := leaves t there
  exact Option.bind_eq_some_iff.mpr ⟨t', there', proceeds.kept e known⟩

variable (h) in
lemma tasks_wake (r : Runnable) : (h.wake r).tasks = h.tasks := by
  unfold wake
  split <;> rfl

variable (h) in
lemma tasks_setTime (t : Nat) : (h.setTime t).tasks = h.tasks := by
  unfold setTime
  split <;> rfl

variable (h) in
lemma tasks_fireDue : h.fireDue.tasks = h.tasks := by
  unfold fireDue
  refine List.foldlRecOn (motive := fun g : Host => g.tasks = h.tasks) _ _ rfl ?_
  intro g same t _
  rw [tasks_wake, same]

/-- A task is replaced by what has become of it. -/
lemma leaves_putTask {m : Nat} {t t' : Task} (there : h.task? m = some t)
    (same : h'.tasks = (h.putTask m t').tasks) (proceeds : t.Proceeds t') : h.Leaves n h' := by
  intro s there'
  have inside : m < h.tasks.length := (List.getElem?_eq_some_iff.mp there).1
  by_cases self : m = n
  · subst self
    obtain rfl : s = t := Option.some.inj (there'.symm.trans there)
    exact ⟨t', by simp [task?, same, putTask, inside], proceeds⟩
  · refine ⟨s, ?_, .refl s⟩
    simpa [task?, same, putTask, List.getElem?_set_ne self] using there'

/-- A task that is told to go away has not gone yet. -/
lemma task?_abort {t : Task} (there : h.task? n = some t) :
    ∃ t', (h.abort n).task? n = some t' ∧ t'.work = t.work ∧ t'.ended = t.ended := by
  have inside : n < h.tasks.length := (List.getElem?_eq_some_iff.mp there).1
  simp only [abort, there]
  split
  next => exact ⟨t, there, rfl, rfl⟩
  next =>
    refine ⟨{ t with aborted := true }, ?_, rfl, rfl⟩
    simp [task?, rouse, tasks_wake, forget, putTask, inside]

/-- A task that runs goes on with its work. -/
lemma leaves_runTask (m : Nat) : h.Leaves n (h.runTask m) := by
  unfold runTask
  split
  next t there =>
    split
    next => exact .of_tasks rfl
    next running =>
      have unended : t.ended = none := by simpa using running
      split
      next aborted =>
        refine leaves_putTask there rfl ⟨rfl, fun _ => id, ?_, ?_⟩
        · simp [unended]
        · rintro e ⟨⟩
          exact .inr (.inr ⟨rfl, aborted⟩)
      next =>
        split
        next e final =>
          refine leaves_putTask there rfl ⟨rfl, fun _ => id, ?_, ?_⟩
          · simp [unended]
          · rintro e ⟨⟩
            exact .inr (.inl (Work.ends_of_over final))
        next => exact .of_tasks rfl
        next millis w asleep =>
          exact leaves_putTask there rfl
            ⟨rfl, fun _ => Work.ends_of_asleep asleep, fun _ => id, fun _ => .inl⟩
  next => exact .of_tasks rfl

end Host

/-- While time passes on a host alone, its tasks are left to themselves. -/
lemma Stage.keeps_leaves (n : Nat) (h : Host) : alone.Keeps (h.Leaves n) where
  clear _ leaves := leaves.trans (.of_tasks rfl)
  run r _ leaves := by
    cases r with
    | task m => exact leaves.trans (Host.leaves_runTask m)
    | loop => exact leaves
  fireDue x leaves := leaves.trans (.of_tasks x.tasks_fireDue)
  setTime t x leaves := leaves.trans (.of_tasks (x.tasks_setTime t))

/-! ## Lives of routines -/

namespace Routine

/-- The number of the task that a routine was started as, after one more exchange. -/
def startedAs (n : Option Nat) (h : Host) (x : Exchange) : Option Nat :=
  if x = .start (.ok ()) then some h.tasks.length else n

/-- The calls on a routine and what happens between them, in any order: the exchanges so far, the
number of the task that it was started as, the routine and its host. -/
inductive Life (j₀ : Routine) : List Exchange → Option Nat → Routine → Host → Prop
  | new (h : Host) : Life j₀ [] none j₀ h
  | passes {xs : List Exchange} {n : Option Nat} {j : Routine} {h h' : Host}
      (life : Life j₀ xs n j h) (leaves : ∀ m ∈ n, h.Leaves m h') : Life j₀ xs n j h'
  | call {xs : List Exchange} {n : Option Nat} {j : Routine} {h : Host} (life : Life j₀ xs n j h)
      (c : JobCall) : Life j₀ (xs ++ [(kind.call c j h).outcome])
        (startedAs n h (kind.call c j h).outcome) (kind.call c j h).job (kind.call c j h).env

/-- The last command that was delivered before an exit was reported. -/
def told (xs : List Exchange) : Option KillCommand :=
  ((xs.takeWhile (·.exit?.isNone)).filterMap Exchange.delivered?).getLast?

/-- The exit tells how a task with this work has ended, where `last` was told to it last. -/
inductive Truth (w : Work) (last : Option KillCommand) : TaskEnd → Exit → Prop
  | completed (own : w.Ends (.returned (.ok ()))) : Truth w last (.returned (.ok ())) .completed
  | failed {message : String} (own : w.Ends (.returned (.error message))) :
      Truth w last (.returned (.error message)) (.failed none (some message))
  | panicked {p : PanicPayload} (own : w.Ends (.panicked p)) :
      Truth w last (.panicked p) (.panicked p.message)
  | killed {c : KillCommand} (delivered : last = some c) : Truth w last .cancelled (.killed c)

/-- What there is to learn of the task of the number `n`: nothing while it has not ended, and then
the exit that tells how it did. -/
inductive Learns (w : Work) (last : Option KillCommand) (h : Host) (n : Nat) : Option Exit → Prop
  | nothing (goesOn : h.taskEnd n = none) : Learns w last h n none
  | exit {t : TaskEnd} {e : Exit} (ended : h.taskEnd n = some t) (truth : Truth w last t e) :
      Learns w last h n (some e)

/-! ## What was told -/

lemma told_concat {xs : List Exchange} (quiet : ∀ x ∈ xs, x.exit? = none) (x : Exchange) :
    told (xs ++ [x]) = x.delivered?.or (told xs) := by
  have all : ∀ y ∈ xs, y.exit?.isNone := fun y hy => by simp [quiet y hy]
  rw [told, told, List.takeWhile_append_of_pos all, List.takeWhile_eq_self_iff.mpr all]
  rcases reports : x.exit? with _ | e
  · rw [List.takeWhile_cons_of_pos (by simp [reports]), List.takeWhile_nil, List.filterMap_append]
    cases delivers : x.delivered? <;> simp [delivers]
  · have silent : x.delivered? = none := by
      rcases x with _ | _ | _ | _ <;> simp_all [Exchange.exit?, Exchange.delivered?]
    rw [List.takeWhile_cons_of_neg (by simp [reports]), List.append_nil, silent, Option.none_or]

/-- What is told after an exit was reported does not count. -/
lemma told_concat_of_reported {xs : List Exchange} (reported : ∃ x ∈ xs, x.exit?.isSome)
    (x : Exchange) : told (xs ++ [x]) = told xs := by
  obtain ⟨y, hy, reports⟩ := reported
  have stops : (xs.takeWhile (·.exit?.isNone)).length ≠ xs.length := by
    intro same
    have whole := (List.takeWhile_prefix _).eq_of_length same
    have := List.takeWhile_eq_self_iff.mp whole y hy
    simp [Option.isNone_iff_eq_none.mp this] at reports
  rw [told, told, List.takeWhile_append, if_neg stops]

/-! ## Where a routine stands -/

/-- What is true of a task with this work at any time. -/
structure Fate (w : Work) (last : Option KillCommand) (t : Task) : Prop where
  work : ∀ e, t.work.Ends e → w.Ends e
  aborted : t.aborted → last.isSome
  ended : ∀ e, t.ended = some e → w.Ends e ∨ e = .cancelled ∧ last.isSome

namespace Fate

variable {w : Work} {last : Option KillCommand} {t t' : Task}

lemma proceeds (fate : Fate w last t) (proceeds : t.Proceeds t') : Fate w last t' where
  work e ends := fate.work e (proceeds.work e ends)
  aborted told := fate.aborted (proceeds.aborted ▸ told)
  ended e ended := by
    rcases proceeds.ended e ended with ended | ends | ⟨rfl, told⟩
    · exact fate.ended e ended
    · exact .inl (fate.work e ends)
    · exact .inr ⟨rfl, fate.aborted told⟩

/-- The exit that a routine reads off the end of its task is the truth. -/
lemma truth (fate : Fate w last t) {e : TaskEnd} (ended : t.ended = some e) :
    Truth w last e (exitOf last e) := by
  rcases fate.ended e ended with own | ⟨rfl, told⟩
  · rcases e with (_ | _) | p | _
    · exact .failed own
    · exact .completed own
    · exact .panicked own
    · exact absurd own w.not_ends_cancelled
  · obtain ⟨c, rfl⟩ := Option.isSome_iff_exists.mp told
    exact .killed rfl

end Fate

/-- The routine was not started with success. -/
structure Idle (j₀ : Routine) (xs : List Exchange) (j : Routine) : Prop where
  plan : j.plan = j₀.plan ∨ j.plan = none
  task : j.task = none
  killed : j.killed = none
  exit : j.exit = none
  quiet : ∀ x ∈ xs, x.exit? = none
  untold : told xs = none

/-- The routine was started as the task of the number `n`, and nobody has learned of its end. -/
structure Underway (j₀ : Routine) (xs : List Exchange) (w : Work) (n : Nat) (t : Task)
    (j : Routine) (h : Host) : Prop where
  plan : j₀.plan = some (.task w)
  spent : j.plan = none
  task : j.task = some n
  killed : j.killed = told xs
  exit : j.exit = none
  quiet : ∀ x ∈ xs, x.exit? = none
  there : h.task? n = some t
  fate : Fate w (told xs) t

/-- The exit of the routine is known. -/
structure Settled (j₀ : Routine) (xs : List Exchange) (w : Work) (n : Nat) (t : TaskEnd) (e : Exit)
    (j : Routine) (h : Host) : Prop where
  plan : j₀.plan = some (.task w)
  spent : j.plan = none
  exit : j.exit = some e
  reported : ∃ x ∈ xs, x.exit?.isSome
  ended : h.taskEnd n = some t
  truth : Truth w (told xs) t e

/-- Where a routine stands. -/
inductive Standing (j₀ : Routine) (xs : List Exchange) : Option Nat → Routine → Host → Prop
  | idle {j : Routine} {h : Host} (idle : Idle j₀ xs j) : Standing j₀ xs none j h
  | underway {n : Nat} {j : Routine} {h : Host} {w : Work} {t : Task}
      (underway : Underway j₀ xs w n t j h) : Standing j₀ xs (some n) j h
  | settled {n : Nat} {j : Routine} {h : Host} {w : Work} {t : TaskEnd} {e : Exit}
      (settled : Settled j₀ xs w n t e j h) : Standing j₀ xs (some n) j h

variable {j₀ j j' : Routine} {xs : List Exchange} {x : Exchange} {n : Nat} {h h' : Host} {w : Work}
  {t : Task} {e : Exit} {seen : Option Exit}

lemma Underway.leaves (underway : Underway j₀ xs w n t j h) (leaves : h.Leaves n h') :
    ∃ t', Underway j₀ xs w n t' j h' := by
  obtain ⟨t', there', proceeds⟩ := leaves t underway.there
  exact ⟨t', { underway with there := there', fate := underway.fate.proceeds proceeds }⟩

lemma Standing.leaves {n : Option Nat} (standing : Standing j₀ xs n j h)
    (leaves : ∀ m ∈ n, h.Leaves m h') : Standing j₀ xs n j h' := by
  cases standing with
  | idle idle => exact .idle idle
  | underway underway =>
    obtain ⟨t', underway'⟩ := underway.leaves (leaves _ rfl)
    exact .underway underway'
  | settled settled => exact .settled { settled with ended := (leaves _ rfl).ended settled.ended }

/-! ## The calls -/

/-- There is nothing to learn of a routine without a task, and nothing to be told to it. -/
lemma calls_of_idle (task : j.task = none) (exit : j.exit = none) (h : Host) :
    (∀ c, j.terminate c h = ⟨.error .notStarted, j, h⟩) ∧
      j.tryExit h = ⟨.error .notStarted, j, h⟩ ∧
      ∀ limit, j.wait limit h = ⟨.error .notStarted, j, h⟩ := by
  simp [terminate, tryExit, wait, task, exit]

/-- Every call on a routine whose exit is known leaves all as it is. -/
lemma calls_of_settled (exit : j.exit = some e) (h : Host) :
    (∀ c, j.terminate c h = ⟨.ok (), j, h⟩) ∧ j.tryExit h = ⟨.ok (some e), j, h⟩ ∧
      ∀ limit, j.wait limit h = ⟨.exited e, j, h⟩ := by
  simp [terminate, tryExit, wait, exit]

lemma start_of_spent (spent : j.plan = none) (h : Host) :
    j.start h = ⟨.error (alreadyStarted j.label), j, h⟩ := by
  simp [start, spent]

/-- A start that succeeds makes a task, and one that fails leaves at most the plan behind. -/
lemma start_cases (j : Routine) (h : Host) :
    (∃ w, j.plan = some (.task w) ∧
        j.start h = ⟨.ok (), { j with plan := none, task := some h.tasks.length }, (h.spawn w).2⟩) ∨
      ∃ o, o ≠ .ok () ∧ (j.start h = ⟨o, j, h⟩ ∨ j.start h = ⟨o, { j with plan := none }, h⟩) := by
  unfold start
  split
  next => exact .inr ⟨_, by simp, .inl rfl⟩
  next plan there =>
    dsimp only
    split
    next => exact .inr ⟨_, by simp, .inr rfl⟩
    next =>
      split
      next p => exact .inr ⟨_, by simp, .inr rfl⟩
      next w => exact .inl ⟨w, there, rfl⟩

/-- Who asks after a task that is under way learns the truth about it, and then the routine has the
exit. -/
inductive Asked (j : Routine) (w : Work) (last : Option KillCommand) (n : Nat) :
    Option Exit → Routine → Host → Prop
  | nothing {h : Host} (goesOn : h.taskEnd n = none) : Asked j w last n none j h
  | exit {h : Host} {t : TaskEnd} {e : Exit} (ended : h.taskEnd n = some t)
      (truth : Truth w last t e) :
      Asked j w last n (some e) { j with task := none, exit := some e } h

lemma Asked.learns {last : Option KillCommand} (asked : Asked j w last n seen j' h) :
    Learns w last h n seen := by
  cases asked with
  | nothing goesOn => exact .nothing goesOn
  | exit ended truth => exact .exit ended truth

namespace Underway

variable (underway : Underway j₀ xs w n t j h)

include underway

lemma asked_tryExit : ∃ seen, (j.tryExit h).outcome = .ok seen ∧ (j.tryExit h).env = h ∧
    Asked j w (told xs) n seen (j.tryExit h).job h := by
  have looks : h.taskEnd n = t.ended := by simp [Host.taskEnd, underway.there]
  simp only [tryExit, underway.exit, underway.task, Host.isFinished, looks]
  rcases ended : t.ended with _ | e
  · exact ⟨none, rfl, rfl, .nothing (looks.trans ended)⟩
  · refine ⟨_, rfl, rfl, .exit (looks.trans ended) ?_⟩
    show Truth w (told xs) e (exitOf j.killed e)
    rw [underway.killed]
    exact underway.fate.truth ended

lemma asked_wait (limit : Duration) : ∃ seen,
    (j.wait limit h).outcome = Option.elim seen .timedOut .exited ∧
      h.Leaves n (j.wait limit h).env ∧
      Asked j w (told xs) n seen (j.wait limit h).job (j.wait limit h).env := by
  simp only [wait, underway.exit, underway.task]
  generalize waited : Stage.alone.await _ _ h = h'
  have leaves : h.Leaves n h' := waited ▸ (Stage.keeps_leaves n h).await _ _ (.of_tasks rfl)
  obtain ⟨t', underway'⟩ := underway.leaves leaves
  have looks : h'.taskEnd n = t'.ended := by simp [Host.taskEnd, underway'.there]
  rw [looks]
  rcases ended : t'.ended with _ | e
  · exact ⟨none, rfl, leaves, .nothing (looks.trans ended)⟩
  · refine ⟨_, rfl, leaves, .exit (looks.trans ended) ?_⟩
    show Truth w (told xs) e (exitOf j.killed e)
    rw [underway.killed]
    exact underway'.fate.truth ended

/-- After an exchange that delivers nothing the routine stands as the answer says. -/
lemma asked (silent : x.delivered? = none) (reports : x.exit? = seen)
    (asked : Asked j w (told xs) n seen j' h) : Standing j₀ (xs ++ [x]) (some n) j' h := by
  have last : told (xs ++ [x]) = told xs := by
    rw [told_concat underway.quiet, silent, Option.none_or]
  cases asked with
  | nothing goesOn =>
    refine .underway { underway with killed := ?_, quiet := ?_, fate := last ▸ underway.fate }
    · rw [last, underway.killed]
    · simpa [or_imp, forall_and] using ⟨underway.quiet, reports⟩
  | exit ended truth =>
    exact .settled ⟨underway.plan, underway.spent, rfl, ⟨x, by simp, by simp [reports]⟩, ended,
      last ▸ truth⟩

/-- A command that is delivered is the last one. -/
lemma standing_terminate (c : KillCommand) :
    j.terminate c h = ⟨.ok (), { j with killed := some c }, h.abort n⟩ ∧
      Standing j₀ (xs ++ [.terminate c (.ok ())]) (some n) { j with killed := some c }
        (h.abort n) := by
  have last : told (xs ++ [.terminate c (.ok ())]) = some c := told_concat underway.quiet _
  obtain ⟨t', there, work, ended⟩ := Host.task?_abort underway.there
  have fate : Fate w (some c) t' :=
    { work := fun e ends => underway.fate.work e (work ▸ ends)
      aborted := fun _ => rfl
      ended := fun e known =>
        (underway.fate.ended e (ended ▸ known)).imp_right fun h => ⟨h.1, rfl⟩ }
  refine ⟨by simp [terminate, underway.exit, underway.task], .underway
    { underway with killed := last.symm, quiet := ?_, there := there, fate := last ▸ fate }⟩
  simpa [or_imp, forall_and] using ⟨underway.quiet, rfl⟩

end Underway

lemma Idle.concat (idle : Idle j₀ xs j) (reports : x.exit? = none) (silent : x.delivered? = none)
    (plan : j'.plan = j.plan ∨ j'.plan = none) (task : j'.task = none) (killed : j'.killed = none)
    (exit : j'.exit = none) : Idle j₀ (xs ++ [x]) j' where
  plan := by
    rcases plan with plan | plan
    · rw [plan]
      exact idle.plan
    · exact .inr plan
  task := task
  killed := killed
  exit := exit
  quiet := by simpa [or_imp, forall_and] using ⟨idle.quiet, reports⟩
  untold := by rw [told_concat idle.quiet, silent, Option.none_or, idle.untold]

lemma Settled.concat {t : TaskEnd} (settled : Settled j₀ xs w n t e j h) (x : Exchange) :
    Settled j₀ (xs ++ [x]) w n t e j h :=
  { settled with
    reported := by
      obtain ⟨y, hy, reports⟩ := settled.reported
      exact ⟨y, by simp [hy], reports⟩
    truth := told_concat_of_reported settled.reported x ▸ settled.truth }

/-- The routine is started as a task. -/
lemma Idle.underway (idle : Idle j₀ xs j) (plan : j.plan = some (.task w)) :
    Underway j₀ (xs ++ [.start (.ok ())]) w h.tasks.length { work := w }
      { j with plan := none, task := some h.tasks.length } (h.spawn w).2 where
  plan := by
    rcases idle.plan with same | spent
    · exact same.symm.trans plan
    · simp [spent] at plan
  spent := rfl
  task := rfl
  killed := by
    rw [told_concat idle.quiet, idle.untold]
    exact idle.killed
  exit := idle.exit
  quiet := by simpa [or_imp, forall_and] using ⟨idle.quiet, rfl⟩
  there := by simp [Host.task?, Host.spawn, Host.tasks_wake]
  fate := ⟨fun _ ends => ends, nofun, nofun⟩

lemma Idle.call (idle : Idle j₀ xs j) (c : JobCall) :
    Standing j₀ (xs ++ [(kind.call c j h).outcome])
      (startedAs none h (kind.call c j h).outcome) (kind.call c j h).job (kind.call c j h).env := by
  obtain ⟨terminates, tries, waits⟩ := calls_of_idle idle.task idle.exit h
  cases c with
  | start =>
    rcases start_cases j h with ⟨w, plan, started⟩ | ⟨o, fails, same | spent⟩
    · simp only [kind, JobKind.call, Reply.map, started, startedAs, if_true]
      exact .underway (idle.underway plan)
    · simp only [kind, JobKind.call, Reply.map, same, startedAs, Exchange.start.injEq, fails,
        if_false]
      exact .idle (idle.concat rfl rfl (.inl rfl) idle.task idle.killed idle.exit)
    · simp only [kind, JobKind.call, Reply.map, spent, startedAs, Exchange.start.injEq, fails,
        if_false]
      exact .idle (idle.concat rfl rfl (.inr rfl) idle.task idle.killed idle.exit)
  | tryExit =>
    simp only [kind, JobKind.call, tries]
    exact .idle (idle.concat rfl rfl (.inl rfl) idle.task idle.killed idle.exit)
  | terminate c =>
    simp only [kind, JobKind.call, terminates]
    exact .idle (idle.concat rfl rfl (.inl rfl) idle.task idle.killed idle.exit)
  | wait limit =>
    simp only [kind, JobKind.call, waits]
    exact .idle (idle.concat rfl rfl (.inl rfl) idle.task idle.killed idle.exit)

lemma Underway.call (underway : Underway j₀ xs w n t j h) (c : JobCall) :
    Standing j₀ (xs ++ [(kind.call c j h).outcome])
      (startedAs n h (kind.call c j h).outcome) (kind.call c j h).job (kind.call c j h).env := by
  cases c with
  | start =>
    simp only [kind, JobKind.call, start_of_spent underway.spent]
    have last : told (xs ++ [.start (.error (alreadyStarted j.label))]) = told xs :=
      told_concat underway.quiet _
    refine .underway { underway with killed := ?_, quiet := ?_, fate := last ▸ underway.fate }
    · exact underway.killed.trans last.symm
    · simpa [or_imp, forall_and] using ⟨underway.quiet, rfl⟩
  | tryExit =>
    obtain ⟨seen, answer, still, asked⟩ := underway.asked_tryExit
    simp only [kind, JobKind.call, Reply.map, answer, still]
    exact underway.asked rfl rfl asked
  | terminate c =>
    obtain ⟨reply, standing⟩ := underway.standing_terminate c
    simp only [kind, JobKind.call, Reply.map, reply]
    exact standing
  | wait limit =>
    obtain ⟨seen, answer, leaves, asked⟩ := underway.asked_wait limit
    obtain ⟨t', underway'⟩ := underway.leaves leaves
    simp only [kind, JobKind.call, Reply.map, answer]
    refine underway'.asked rfl ?_ asked
    cases seen <;> rfl

lemma Settled.call {t : TaskEnd} (settled : Settled j₀ xs w n t e j h) (c : JobCall) :
    Standing j₀ (xs ++ [(kind.call c j h).outcome])
      (startedAs n h (kind.call c j h).outcome) (kind.call c j h).job (kind.call c j h).env := by
  obtain ⟨terminates, tries, waits⟩ := calls_of_settled settled.exit h
  cases c with
  | start =>
    simp only [kind, JobKind.call, start_of_spent settled.spent]
    exact .settled (settled.concat _)
  | tryExit =>
    simp only [kind, JobKind.call, tries]
    exact .settled (settled.concat _)
  | terminate c =>
    simp only [kind, JobKind.call, terminates]
    exact .settled (settled.concat _)
  | wait limit =>
    simp only [kind, JobKind.call, waits]
    exact .settled (settled.concat _)

/-! ## Lives -/

lemma Life.standing (new : j₀.IsNew) {n : Option Nat} (life : Life j₀ xs n j h) :
    Standing j₀ xs n j h := by
  induction life with
  | new h => exact .idle ⟨.inl rfl, new.task, new.killed, new.exit, by simp, rfl⟩
  | passes life leaves ih => exact ih.leaves leaves
  | call life c ih =>
    cases ih with
    | idle idle => exact idle.call c
    | underway underway => exact underway.call c
    | settled settled => exact settled.call c

/-- Any task may run at any time. -/
lemma Life.runs {n : Option Nat} (life : Life j₀ xs n j h) (m : Nat) :
    Life j₀ xs n j (h.runTask m) :=
  life.passes fun _ _ => Host.leaves_runTask m

/-- Whatever a routine has been through. While it was not started with success, it says so to
whoever terminates it, looks or waits, and nothing changes by that. Once it was started as the task
of the number `m`, who terminates it succeeds, and who looks or waits learns the truth about the end
of this task: nothing while it goes on; its own result when it has ended by itself; and when it was
cancelled, the last command that was delivered before anybody had learned of it, and there was
one. -/
theorem exit_truthful (new : j₀.IsNew) {n : Option Nat} (life : Life j₀ xs n j h) :
    (n = none → (∀ c, j.terminate c h = ⟨.error .notStarted, j, h⟩) ∧
      j.tryExit h = ⟨.error .notStarted, j, h⟩ ∧
      ∀ limit, j.wait limit h = ⟨.error .notStarted, j, h⟩) ∧
    ∀ m, n = some m → ∃ w, j₀.plan = some (.task w) ∧
      (∀ c, (j.terminate c h).outcome = .ok ()) ∧
      (∃ seen, Learns w (told xs) h m seen ∧ (j.tryExit h).outcome = .ok seen) ∧
      ∀ limit, ∃ seen, Learns w (told xs) (j.wait limit h).env m seen ∧
        (j.wait limit h).outcome = seen.elim .timedOut .exited := by
  cases life.standing new with
  | idle idle => exact ⟨fun _ => calls_of_idle idle.task idle.exit h, nofun⟩
  | @underway m _ _ w t underway =>
    refine ⟨nofun, ?_⟩
    rintro _ ⟨⟩
    refine ⟨w, underway.plan, fun c => ?_, ?_, fun limit => ?_⟩
    · rw [(underway.standing_terminate c).1]
    · obtain ⟨seen, answer, -, asked⟩ := underway.asked_tryExit
      exact ⟨seen, asked.learns, answer⟩
    · obtain ⟨seen, answer, -, asked⟩ := underway.asked_wait limit
      exact ⟨seen, asked.learns, answer⟩
  | @settled m _ _ w t e settled =>
    obtain ⟨terminates, tries, waits⟩ := calls_of_settled settled.exit h
    refine ⟨nofun, ?_⟩
    rintro _ ⟨⟩
    refine ⟨w, settled.plan, fun c => ?_, ⟨some e, .exit settled.ended settled.truth, ?_⟩,
      fun limit => ⟨some e, ?_, ?_⟩⟩
    · rw [terminates]
    · rw [tries]
    · rw [waits]
      exact .exit settled.ended settled.truth
    · rw [waits]
      rfl

/-- A routine that would sleep for a while and fail. -/
def napper : Routine :=
  ⟨.ofNat 1, "nap", some (.task (.sleep 5 (.ended (.error "late")))), none, none, none⟩

/-- It is told to go away before it is started, after that, and once more when it has gone. -/
def rebukes : List Exchange :=
  [.terminate .shutdown (.error .notStarted), .start (.ok ()), .terminate .pause (.ok ()),
    .terminate .cancel (.ok ())]

/-- The last command counts. -/
theorem exit_truthful_napper : napper.IsNew ∧ told rebukes = some .cancel ∧
    ∃ j h, Life napper rebukes (some 0) j h ∧ h.taskEnd 0 = some .cancelled ∧
      (j.tryExit h).outcome = .ok (some (.killed .cancel)) ∧
      ∃ w, napper.plan = some (.task w) ∧
        ∃ seen, Learns w (told rebukes) h 0 seen ∧ (j.tryExit h).outcome = .ok seen := by
  let gone : Task :=
    { work := .sleep 5 (.ended (.error "late")), aborted := true, ended := some .cancelled }
  let j : Routine := { napper with plan := none, task := some 0, killed := some .cancel }
  let h : Host := { tasks := [gone], ready := [.task 0] }
  have new : napper.IsNew := ⟨rfl, rfl, rfl, rfl⟩
  have born : Life napper [] none napper {} := .new {}
  have started := (born.call (.terminate .shutdown)).call .start
  have cancelled := (started.call (.terminate .pause)).runs 0
  have life : Life napper rebukes (some 0) j h := cancelled.call (.terminate .cancel)
  obtain ⟨w, plan, -, learns, -⟩ := (exit_truthful new life).2 0 rfl
  exact ⟨new, rfl, j, h, life, rfl, rfl, w, plan, learns⟩

end Routine
end SerialJobs
