import Mathlib.Logic.Relation
import SerialJobs.Proofs.Course

/-!
# The lock of the slot

A caller works through the instructions of a call one after the other. The slot is looked at and
changed only between an `acquire` and a `release`, and an `acquire` waits for as long as the slot is
locked. Callers wait for each other, but a caller that acquires a lock which it holds itself waits
forever: then `Machine.step` has no next machine. The sink may look at the slot when it is told of a
transition, and each call that it makes acquires the lock once more.

`Machine.step` makes one instruction after the other, those of a sink's calls in the place where the
sink makes them. `machine_returns` says that no call of a caller ever waits for itself: it comes to
its end with the slot unlocked and the manager that `Manager.submit`, `Manager.work` and
`Manager.kill` give.
-/

namespace SerialJobs

/-- A call of a caller. -/
inductive Call (J : Type)
  | submit (j : J)
  | work
  | kill (id : JobId) (command : KillCommand)

/-- The request that a call makes. -/
def Call.request {J E : Type} : Call J → Request J E
  | .submit j => .submit j
  | .work => .work
  | .kill id c => .kill id c

/-- An instruction of a call. -/
inductive Instr (J : Type)
  /-- Locks the slot. -/
  | acquire
  /-- Does what is done while the slot is locked, where a call of the sink notes its answer. -/
  | inside (a : Act) (nested : Bool)
  /-- Unlocks the slot. -/
  | release
  /-- Makes the handle of a submission. -/
  | register (j : J)
  /-- Puts a submission at the end of the queue. -/
  | push (w : Waiting J)
  /-- Calls the sink to tell it of a transition. -/
  | publish (t : Transition)
  /-- Does an errand that is not a call. -/
  | errand (e : Errand)

/-- The instructions of an errand. -/
def Errand.instrs {J : Type} : Errand → List (Instr J)
  | .act a => [.acquire, .inside a true]
  | e => [.errand e]

/-- The instructions of a call. -/
def Call.instrs {J : Type} : Call J → List (Instr J)
  | .submit j => [.register j]
  | .work => [.acquire, .inside .work false]
  | .kill id c => [.acquire, .inside (.kill id c) false]

/-- A caller at work. -/
structure Machine (J E : Type) where
  /-- The slot is locked. -/
  locked : Bool
  /-- What is still to be done. -/
  todo : List (Instr J)
  manager : Manager J E

namespace Manager

variable {J E : Type}

/-- What is done while the slot is locked, with the errand that gives the answer. -/
def actSection (s : Setup J E) (m : Manager J E) : Act → Section J E Errand
  | .work => let r := m.tickSection s; ⟨.worked r.answer, r.due, r.manager⟩
  | .kill id c => let r := m.killSection s id c; ⟨.killed r.answer, r.due, r.manager⟩

end Manager

namespace Machine

variable {J E : Type}

/-- The next instruction, unless there is none or it waits for a lock that is not given back. -/
def step (s : Setup J E) (x : Machine J E) : Option (Machine J E) :=
  match x.todo with
  | [] => none
  | .acquire :: is => if x.locked then none else some { x with locked := true, todo := is }
  | .inside a nested :: is =>
    if x.locked then
      let r := x.manager.actSection s a
      let answer := if nested then [.errand r.answer] else []
      some { x with
        todo := .release :: (r.due.toList.map .publish ++ answer ++ is), manager := r.manager }
    else none
  | .release :: is => if x.locked then some { x with locked := false, todo := is } else none
  | .register j :: is =>
    let t := x.manager.nextTicket s j
    some { x with
      todo := .publish ⟨t, .queued, none⟩ :: .push ⟨t, j⟩ :: is
      manager := x.manager.register s t }
  | .push w :: is =>
    let m := x.manager.enqueue w
    some { x with
      todo := is, manager := m.note (.jobQueued w.ticket.id w.ticket.label m.queue.length) }
  | .publish t :: is =>
    if x.locked then none
    else
      let (es, m) := x.manager.tell s t
      some { x with todo := es.flatMap Errand.instrs ++ is, manager := m }
  | .errand e :: is => some { x with todo := is, manager := x.manager.discharge s e }

/-- The machine after some instructions. -/
def Steps (s : Setup J E) : Machine J E → Machine J E → Prop :=
  Relation.ReflTransGen fun x y => x.step s = some y

lemma Steps.single {s : Setup J E} {x y : Machine J E} (h : x.step s = some y) : Steps s x y :=
  Relation.ReflTransGen.single h

lemma Steps.trans {s : Setup J E} {x y z : Machine J E} (h : Steps s x y) (h' : Steps s y z) :
    Steps s x z :=
  Relation.ReflTransGen.trans h h'

/-- However far the machine has got, it goes on to its end, where the slot is unlocked and the
manager is the given one; on the way the slot is never locked when a call acquires the lock, or the
sink is called. -/
structure Returns (s : Setup J E) (x : Machine J E) (m : Manager J E) : Prop where
  ends : ∀ y, Steps s x y → Steps s y ⟨false, [], m⟩
  free : ∀ y is, Steps s x y → (y.todo = .acquire :: is ∨ ∃ t, y.todo = .publish t :: is) →
    y.locked = false

section Steps

open Manager

variable (s : Setup J E) (is : List (Instr J)) (m : Manager J E)

/-- A call's locked section: the lock is taken and given back. -/
lemma steps_section (a : Act) (nested : Bool) :
    Steps s ⟨false, .acquire :: .inside a nested :: is, m⟩
      ⟨false, (m.actSection s a).due.toList.map .publish ++
        (if nested then [.errand (m.actSection s a).answer] else []) ++ is,
        (m.actSection s a).manager⟩ := by
  have acquired : step s ⟨false, .acquire :: .inside a nested :: is, m⟩ =
      some ⟨true, .inside a nested :: is, m⟩ := rfl
  have done : step s ⟨true, .inside a nested :: is, m⟩ =
      some ⟨true, .release :: ((m.actSection s a).due.toList.map .publish ++
        (if nested then [.errand (m.actSection s a).answer] else []) ++ is),
        (m.actSection s a).manager⟩ := rfl
  exact ((Steps.single acquired).trans (.single done)).trans (.single rfl)

lemma steps_publish (t : Transition) :
    Steps s ⟨false, .publish t :: is, m⟩
      ⟨false, (m.tell s t).1.flatMap Errand.instrs ++ is, (m.tell s t).2⟩ :=
  .single rfl

lemma perform_eq_follow (a : Act) :
    m.perform s a = follow s (m.actSection s a) (m.actSection s a).answer := by
  cases a <;> rfl

/-- An answer is no call. -/
lemma instrs_answer (a : Act) :
    (m.actSection s a).answer.instrs = [Instr.errand (J := J) (m.actSection s a).answer] := by
  cases a <;> rfl

/-- A call of the sink: its errands are put in front of the others. -/
lemma steps_perform (a : Act) :
    Steps s ⟨false, (Errand.act a).instrs ++ is, m⟩
      ⟨false, (m.perform s a).1.flatMap Errand.instrs ++ is, (m.perform s a).2⟩ := by
  have inside := steps_section s is m a true
  change Steps s ⟨false, .acquire :: .inside a true :: is, m⟩ _
  rw [perform_eq_follow, follow]
  cases hd : (m.actSection s a).due with
  | none => simpa [hd, instrs_answer] using inside
  | some t =>
    rw [hd] at inside
    have told := steps_publish s (.errand (m.actSection s a).answer :: is)
      (m.actSection s a).manager t
    simpa [instrs_answer] using inside.trans told

/-- All errands, those that come of them first. -/
lemma steps_run (errands : List Errand) :
    Steps s ⟨false, errands.flatMap Errand.instrs ++ is, m⟩ ⟨false, is, run s errands m⟩ := by
  induction errands, m using run.induct s with
  | case1 m =>
    rw [run]
    exact .refl
  | case2 a errands m ih =>
    have performed := steps_perform s (errands.flatMap Errand.instrs ++ is) m a
    rw [List.flatMap_append, List.append_assoc] at ih
    rw [run, List.flatMap_cons, List.append_assoc]
    exact performed.trans ih
  | case3 e errands m hne ih =>
    have discharged : step s ⟨false, (e :: errands).flatMap Errand.instrs ++ is, m⟩ =
        some ⟨false, errands.flatMap Errand.instrs ++ is, m.discharge s e⟩ := by
      cases e with
      | act a => exact absurd rfl (hne a)
      | _ => rfl
    rw [run]
    · exact (Steps.single discharged).trans ih
    · exact hne

lemma steps_announce (t : Transition) :
    Steps s ⟨false, .publish t :: is, m⟩ ⟨false, is, m.announce s t⟩ :=
  (steps_publish s is m t).trans (steps_run s is (m.tell s t).2 (m.tell s t).1)

/-- A call whose section is locked and whose transition is announced after that. -/
lemma steps_outer (a : Act) :
    Steps s ⟨false, [.acquire, .inside a false], m⟩
      ⟨false, [], announceDue s (m.actSection s a)⟩ := by
  have inside := steps_section s [] m a false
  rw [announceDue]
  cases hd : (m.actSection s a).due with
  | none => simpa [hd] using inside
  | some t =>
    rw [hd] at inside
    exact inside.trans (steps_announce s [] (m.actSection s a).manager t)

/-- A call comes to its end. -/
lemma steps_call (c : Call J) :
    Steps s ⟨false, c.instrs, m⟩ ⟨false, [], (m.serve s c.request).2⟩ := by
  cases c with
  | submit j =>
    have registered : step s ⟨false, [.register j], m⟩ =
        some ⟨false, [.publish ⟨m.nextTicket s j, .queued, none⟩, .push ⟨m.nextTicket s j, j⟩],
          m.register s (m.nextTicket s j)⟩ := rfl
    have announced := steps_announce s [.push ⟨m.nextTicket s j, j⟩]
      (m.register s (m.nextTicket s j)) ⟨m.nextTicket s j, .queued, none⟩
    exact ((Steps.single registered).trans announced).trans (.single rfl)
  | work => exact steps_outer s m .work
  | kill id c => exact steps_outer s m (.kill id c)

end Steps

/-- A call of a caller returns, whatever the sink calls meanwhile, and leaves the manager that the
request leaves. -/
theorem machine_returns (s : Setup J E) (m : Manager J E) (c : Call J) :
    Returns s ⟨false, c.instrs, m⟩ (m.serve s c.request).2 := by
  have unique : Relator.RightUnique fun x y : Machine J E => x.step s = some y := by
    intro x y z hy hz
    exact Option.some.inj (hy.symm.trans hz)
  have ends : ∀ y, Steps s ⟨false, c.instrs, m⟩ y →
      Steps s y ⟨false, [], (m.serve s c.request).2⟩ := by
    intro y hy
    rcases Relation.ReflTransGen.total_of_right_unique unique hy (steps_call s m c) with h | h
    · exact h
    · -- nothing comes after the end
      rcases Relation.ReflTransGen.cases_head h with rfl | ⟨z, hz, -⟩
      · exact .refl
      · cases hz
  refine ⟨ends, ?_⟩
  intro y is hy next
  rcases Relation.ReflTransGen.cases_head (ends y hy) with rfl | ⟨z, hz, -⟩
  · simp at next
  · -- the next instruction is not held up
    rw [Bool.eq_false_iff]
    intro locked
    rcases next with todo | ⟨t, todo⟩ <;> simp [step, todo, locked] at hz

end Machine
end SerialJobs
