import SerialJobs.Host.State

/-!
# Passing time

How the host runs what is ready while somebody waits. A stage is whatever the host is a part of:
the host alone, or a service of jobs with its loop. In one round everything that is ready runs
once, in order. When nothing is ready any more, time goes on to the next timer. Who waits looks
last: at every instant the work that is due runs first.
-/

namespace SerialJobs

/-- Something that a host is a part of. -/
structure Stage (S : Type) where
  host : S → Host
  /-- Changes the host. -/
  change : (Host → Host) → S → S
  /-- Lets the scheduling loop run. -/
  runLoop : S → S

namespace Stage

variable {S : Type} (g : Stage S)

/-- The stage of a host alone, where no loop is waiting to run. -/
def alone : Stage Host := ⟨id, fun f => f, id⟩

/-- The stage of a host and something beside it. -/
def beside (A : Type) : Stage (A × Host) := ⟨(·.2), fun f x => (x.1, f x.2), id⟩

/-- Runs one thing. -/
def run (x : S) : Runnable → S
  | .task n => g.change (·.runTask n) x
  | .loop => g.runLoop x

/-- One round: everything that is ready runs once. -/
def round (x : S) : S :=
  (g.host x).ready.foldl g.run (g.change (fun h => { h with ready := [] }) x)

/-- What is ready runs for two rounds, then the timers that are due fire, and what is ready then runs
for two rounds. The second round is for the tasks that the loop makes ready in the first, by
starting or by aborting them; no task makes anything ready at once, so there is no need for a
third. -/
def quiesce (x : S) : S :=
  let x := g.round (g.round x)
  g.round (g.round (g.change Host.fireDue x))

/-- Time goes on to `t`, instant by instant, but no further than to the first at which `done` holds.
Every instant lies later than the one before, so the length of the wait bounds their number. -/
def passUntil (done : S → Bool) (t : Nat) : Nat → S → S
  | 0, x => x
  | fuel + 1, x =>
    let x := g.quiesce x
    if done x then x
    else
      match (g.host x).nextDeadline with
      | some d =>
        if d ≤ t then passUntil done t fuel (g.change (·.setTime d) x)
        else g.change (·.setTime t) x
      | none => g.change (·.setTime t) x

/-- Waits for `done`, no longer than so many milliseconds. -/
def await (done : S → Bool) (millis : Nat) (x : S) : S :=
  if done x || millis = 0 then x
  else g.passUntil done ((g.host x).time + millis) (millis + 2) x

/-- Lets so many milliseconds pass. -/
def pass (millis : Nat) (x : S) : S :=
  g.passUntil (fun _ => false) ((g.host x).time + millis) (millis + 2) x

/-- Looks every `period` milliseconds until there is something to see, no longer than so many
milliseconds. -/
def poll {A : Type} (look : S → Option A × S) (period millis : Nat) (x : S) : Option A × S :=
  match look x with
  | (some a, x) => (some a, x)
  | (none, x) =>
    if millis = 0 then (none, x)
    else if _h : 0 < period ∧ period ≤ millis then
      poll look period (millis - period) (g.pass period x)
    else (none, g.pass millis x)
termination_by millis

end Stage
end SerialJobs
