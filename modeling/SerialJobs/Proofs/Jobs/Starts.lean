import SerialJobs.Proofs.Jobs.Tasks

/-!
# Starting a routine where there is no runtime

A start that fails for lack of a runtime is to leave the routine as it was, so that the first start
with a runtime at hand succeeds (`Routine.StartsWhenItCan`). It does so only if there was no such
failure: the plan is handed over before anybody looks for a runtime, and without a plan every later
start is refused as if the routine had been started (`Routine.starts_when_it_can_iff`).
-/

namespace SerialJobs
namespace Routine

/-- The error of a start without a runtime. -/
def unhosted : JobError := .internal ("no tokio runtime: " ++ noRuntime)

/-- The routine after it was started on one host after the other. -/
def startOn (j : Routine) (hs : List Host) : Routine := hs.foldl (fun j h => (j.start h).job) j

/-- The tasks that are made when the routine is started on one host after the other. -/
def spawned : Routine → List Host → List Task
  | _, [] => []
  | j, h :: hs => (j.start h).env.tasks.drop h.tasks.length ++ spawned (j.start h).job hs

/-- Of the starts on these hosts the first one with a runtime at hand succeeds and makes a task of
the work. Those before it fail for lack of a runtime and leave the routine and its host as they
were, those after it are refused. -/
structure StartsWhenItCan (j : Routine) (w : Work) (hs : List Host) : Prop where
  unhosted : ∀ bs h as, hs = bs ++ h :: as → (∀ b ∈ bs ++ [h], b.hasRuntime = false) →
    (j.startOn bs).start h = ⟨.error unhosted, j, h⟩ ∧
      (j.startOn (bs ++ [h])).shown = j.shown ∧
      ((j.startOn (bs ++ [h])).tryExit h).outcome = .error .notStarted
  begun : ∀ bs h as, hs = bs ++ h :: as → (∀ b ∈ bs, b.hasRuntime = false) → h.hasRuntime →
    ((j.startOn bs).start h).outcome = .ok () ∧ ((j.startOn bs).start h).env = (h.spawn w).2
  refused : ∀ bs h as, hs = bs ++ h :: as → (∃ b ∈ bs, b.hasRuntime) →
    (j.startOn bs).start h = ⟨.error (alreadyStarted j.label), j.startOn bs, h⟩
  once : j.spawned hs = if ∃ h ∈ hs, h.hasRuntime then [{ work := w }] else []

variable {j : Routine} {w : Work} {h : Host}

lemma start_unhosted {plan : Plan} (there : j.plan = some plan) (outside : h.hasRuntime = false) :
    j.start h = ⟨.error unhosted, { j with plan := none }, h⟩ := by
  simp [start, there, outside, unhosted]

lemma start_hosted (plan : j.plan = some (.task w)) (inside : h.hasRuntime) :
    j.start h = ⟨.ok (), { j with plan := none, task := some h.tasks.length }, (h.spawn w).2⟩ := by
  simp only [start, plan, inside]
  rfl

/-! ## Without a plan -/

lemma startOn_of_spent (spent : j.plan = none) (hs : List Host) : j.startOn hs = j := by
  induction hs with
  | nil => rfl
  | cons h hs ih =>
    have same : (j.start h).job = j := by rw [start_of_spent spent]
    rw [startOn, List.foldl_cons, same]
    exact ih

lemma spawned_of_spent (spent : j.plan = none) (hs : List Host) : j.spawned hs = [] := by
  induction hs with
  | nil => rfl
  | cons h hs ih => simp [spawned, start_of_spent spent, ih]

lemma startOn_cons (h : Host) (hs : List Host) :
    j.startOn (h :: hs) = (j.start h).job.startOn hs := rfl

/-! ## The first start decides -/

lemma starts_of_hosted (plan : j.plan = some (.task w)) (inside : h.hasRuntime) (hs : List Host) :
    j.StartsWhenItCan w (h :: hs) := by
  have first := start_hosted plan inside
  have spent : (j.start h).job.plan = none := by rw [first]
  have later : ∀ bs, j.startOn (h :: bs) = (j.start h).job := fun bs => by
    rw [startOn_cons, startOn_of_spent spent]
  constructor
  · rintro (_ | ⟨b, bs⟩) h' as ⟨⟩ outside
    · simp [inside] at outside
    · simp [inside] at outside
  · rintro (_ | ⟨b, bs⟩) h' as ⟨⟩ outside inside'
    · rw [startOn, List.foldl_nil, first]
      exact ⟨rfl, rfl⟩
    · simp [inside] at outside
  · rintro (_ | ⟨b, bs⟩) h' as ⟨⟩ inside'
    · simp at inside'
    · rw [later, start_of_spent spent, first]
  · have made : (h.spawn w).2.tasks.drop h.tasks.length = [{ work := w }] := by
      simp [Host.spawn, Host.tasks_wake]
    rw [if_pos ⟨h, by simp, inside⟩, spawned, spawned_of_spent spent, first, made]
    rfl

/-- A new routine with some work to do. Its starts come out as they should exactly if the first one
has a runtime at hand. If it has none, the routine shows itself as started although it never was,
every later start is refused, and no task is ever made. -/
theorem starts_when_it_can_iff (new : j.IsNew) (plan : j.plan = some (.task w)) (hs : List Host) :
    (j.StartsWhenItCan w hs ↔ ∀ h ∈ hs.head?, h.hasRuntime) ∧
      ∀ h hs', hs = h :: hs' → h.hasRuntime = false →
        (j.start h).outcome = .error unhosted ∧ j.spawned hs = [] ∧
        (∀ bs b as, hs' = bs ++ b :: as →
          ((j.startOn (h :: bs)).start b).outcome = .error (alreadyStarted j.label)) ∧
        ∀ bs, (j.startOn (h :: bs)).shown = shown { j with plan := none } ∧
          ∀ b, ((j.startOn (h :: bs)).tryExit b).outcome = .error .notStarted := by
  constructor
  · rcases hs with _ | ⟨h, hs⟩
    · have nothing : ∀ {bs : List Host} {h as}, [] ≠ bs ++ h :: as := by simp
      simp only [List.head?_nil, Option.mem_def, reduceCtorEq, false_implies, implies_true,
        iff_true]
      exact ⟨fun _ _ _ split => absurd split nothing, fun _ _ _ split => absurd split nothing,
        fun _ _ _ split => absurd split nothing, by simp [spawned]⟩
    · simp only [List.head?_cons, Option.mem_def, Option.some.injEq, forall_eq']
      constructor
      · intro starts
        by_contra outside
        -- a failed start would have left the plan
        have same := (starts.unhosted [] h hs rfl (by simpa using outside)).1
        have lost := start_unhosted plan (by simpa using outside)
        have kept : ({ j with plan := none } : Routine) = j :=
          congrArg Reply.job (lost.symm.trans same)
        exact absurd ((congrArg Routine.plan kept).trans plan) (by simp)
      · exact fun inside => starts_of_hosted plan inside hs
  · rintro h hs' rfl outside
    have lost := start_unhosted plan outside
    have spent : (j.start h).job.plan = none := by rw [lost]
    have later : ∀ bs, j.startOn (h :: bs) = { j with plan := none } := fun bs => by
      rw [startOn_cons, startOn_of_spent spent, lost]
    refine ⟨by rw [lost], ?_, fun bs b as _ => ?_, fun bs => ⟨by rw [later], fun b => ?_⟩⟩
    · rw [spawned, spawned_of_spent spent, lost]
      simp
    · rw [later, start_of_spent rfl]
    · have bare : ({ j with plan := none } : Routine).task = none := new.task
      rw [later, (calls_of_idle bare new.exit b).2.1]

/-- A routine whose work is done at once. -/
def errand : Routine := ⟨.ofNat 1, "t", some (.task (.ended (.ok ()))), none, none, none⟩

/-- Started twice with a runtime and once without one, it does its work once. -/
theorem starts_when_it_can_iff_errand : errand.IsNew ∧
    errand.StartsWhenItCan (.ended (.ok ())) [{}, { hasRuntime := false }, {}] ∧
    errand.spawned [{}, { hasRuntime := false }, {}] = [{ work := .ended (.ok ()) }] := by
  have new : errand.IsNew := ⟨rfl, rfl, rfl, rfl⟩
  have starts := (starts_when_it_can_iff new rfl [{}, { hasRuntime := false }, {}]).1.mpr
    (by simp)
  exact ⟨new, starts, by simpa using starts.once⟩

/-- Started without a runtime first, it is refused afterwards as if it had been started, and says
itself both that it was started and that it was not. -/
theorem unstartable_after_failure :
    ¬ errand.StartsWhenItCan (.ended (.ok ())) [{ hasRuntime := false }, {}] ∧
      (errand.start { hasRuntime := false }).outcome = .error unhosted ∧
      ((errand.startOn [{ hasRuntime := false }]).start {}).outcome =
        .error (.internal "job 't' already started") ∧
      errand.shown = "TaskJob \x7b id: JobId(00000000-0000-0000-0000-000000000001), " ++
        "label: \"t\", started: false, exit: None \x7d" ∧
      (errand.startOn [{ hasRuntime := false }]).shown =
        "TaskJob \x7b id: JobId(00000000-0000-0000-0000-000000000001), " ++
          "label: \"t\", started: true, exit: None \x7d" ∧
      ((errand.startOn [{ hasRuntime := false }]).tryExit {}).outcome = .error .notStarted := by
  refine ⟨fun starts => ?_, rfl, rfl, by decide +kernel, by decide +kernel, rfl⟩
  have begun := starts.begun [{ hasRuntime := false }] {} [] rfl (by simp) rfl
  exact absurd begun.1 (by simp [startOn, errand, start])

end Routine
end SerialJobs
