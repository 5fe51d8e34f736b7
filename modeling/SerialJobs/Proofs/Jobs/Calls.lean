import Mathlib.Data.List.Basic
import SerialJobs.Worker

/-!
# Conversations with a job

A job answers every call made on it with an exchange, in whatever surroundings the call finds it.
`JobKind.exchanges` are the answers to a row of calls, each in surroundings of its own: what a
worker does between two calls is what makes the surroundings of the one differ from those that the
other has left.

Puppets, routines and programs are kinds of their own, and a worker of one of these kinds answers as
that kind does, a moment later.
-/

namespace SerialJobs

variable {J E A : Type}

/-- A call on a job. -/
inductive JobCall
  | start
  | tryExit
  | terminate (c : KillCommand)
  | wait (limit : Duration)
deriving DecidableEq

/-- The reply with its outcome seen in another way. -/
def Reply.map {B : Type} (f : A → B) (r : Reply J E A) : Reply J E B :=
  ⟨f r.outcome, r.job, r.env⟩

/-- The exit that the exchange reports. -/
def Exchange.exit? : Exchange → Option Exit
  | tryExit (.ok e) => e
  | wait (.exited e) => some e
  | _ => none

/-- The command that the exchange delivers. -/
def Exchange.delivered? : Exchange → Option KillCommand
  | terminate c (.ok ()) => some c
  | _ => none

/-- The answer of a status check. -/
def Exchange.checked? : Exchange → Option (Outcome (Option Exit))
  | tryExit o => some o
  | _ => none

@[simp]
lemma Exchange.exit?_tryExit {o : Outcome (Option Exit)} {e : Exit} :
    (tryExit o).exit? = some e ↔ o = .ok (some e) := by
  rcases o with _ | _ | _ <;> simp [exit?]

@[simp]
lemma Exchange.exit?_wait {o : WaitOutcome} {e : Exit} :
    (wait o).exit? = some e ↔ o = .exited e := by
  rcases o with _ | _ | _ | _ <;> simp [exit?]

namespace JobKind

/-- Makes a call on a job. -/
def call (k : JobKind J E) : JobCall → J → E → Reply J E Exchange
  | .start, j, e => (k.start j e).map .start
  | .tryExit, j, e => (k.tryExit j e).map .tryExit
  | .terminate c, j, e => (k.terminate c j e).map (.terminate c)
  | .wait limit, j, e => (k.wait limit j e).map .wait

/-- What a job answers to calls, each of which is made in the surroundings that it comes with. -/
def exchanges (k : JobKind J E) : J → List (JobCall × E) → List Exchange
  | _, [] => []
  | j, (c, e) :: cs => (k.call c j e).outcome :: k.exchanges (k.call c j e).job cs

/-- The job after calls, each of which is made in the surroundings that it comes with. -/
def after (k : JobKind J E) (j : J) (cs : List (JobCall × E)) : J :=
  cs.foldl (fun j c => (k.call c.1 j c.2).job) j

/-- A kind that answers a call as `k` does answers a row of calls as `k` does. -/
lemma exchanges_lift {J' E' : Type} {k : JobKind J E} {k' : JobKind J' E'} (f : J → J')
    (g : E' → E)
    (lift : ∀ c j e, (k'.call c (f j) e).outcome = (k.call c j (g e)).outcome ∧
      (k'.call c (f j) e).job = f (k.call c j (g e)).job)
    (j : J) (cs : List (JobCall × E')) :
    k'.exchanges (f j) cs = k.exchanges j (cs.map fun x => (x.1, g x.2)) := by
  induction cs generalizing j with
  | nil => rfl
  | cons x cs ih =>
    obtain ⟨answer, job⟩ := lift x.1 j x.2
    simp only [exchanges, List.map_cons, answer, job, ih]

end JobKind

/-! ## The kinds of workers -/

/-- Puppets as a kind of jobs. -/
def Puppet.kind : JobKind Puppet Host where
  id := Puppet.id
  label := Puppet.label
  start := Puppet.start
  tryExit := Puppet.tryExit
  terminate := Puppet.terminate
  wait := Puppet.wait
  now := Host.clock
  moment := Host.moment

/-- Routines as a kind of jobs. -/
def Routine.kind : JobKind Routine Host where
  id := Routine.id
  label := Routine.label
  start := Routine.start
  tryExit := Routine.tryExit
  terminate := Routine.terminate
  wait := Routine.wait
  now := Host.clock
  moment := Host.moment

/-- Programs as a kind of jobs. -/
def Program.kind : JobKind Program Host where
  id := Program.id
  label := Program.label
  start := Program.start
  tryExit := Program.tryExit
  terminate := Program.terminate
  wait := Program.wait
  now := Host.clock
  moment := Host.moment

namespace Worker

lemma exchanges_puppet (p : Puppet) (cs : List (JobCall × Host)) :
    kind.exchanges (.puppet p) cs = Puppet.kind.exchanges p (cs.map fun x => (x.1, x.2.moment)) :=
  JobKind.exchanges_lift _ _ (fun c _ _ => by cases c <;> exact ⟨rfl, rfl⟩) p cs

lemma exchanges_routine (j : Routine) (cs : List (JobCall × Host)) :
    kind.exchanges (.routine j) cs =
      Routine.kind.exchanges j (cs.map fun x => (x.1, x.2.moment)) :=
  JobKind.exchanges_lift _ _ (fun c _ _ => by cases c <;> exact ⟨rfl, rfl⟩) j cs

lemma exchanges_program (p : Program) (cs : List (JobCall × Host)) :
    kind.exchanges (.program p) cs =
      Program.kind.exchanges p (cs.map fun x => (x.1, x.2.moment)) :=
  JobKind.exchanges_lift _ _ (fun c _ _ => by cases c <;> exact ⟨rfl, rfl⟩) p cs

end Worker
end SerialJobs
