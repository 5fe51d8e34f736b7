import SerialJobs.Worker.Program
import SerialJobs.Worker.Puppet
import SerialJobs.Worker.Routine
import SerialJobs.Worker.Script

/-!
# Workers

The kinds of jobs that a manager on this host looks after: puppets, scripts, routines and
programs. Every call takes a moment of the host's clock.
-/

namespace SerialJobs

/-- A job of one of the four kinds. -/
inductive Worker
  | puppet (p : Puppet)
  | script (x : Script)
  | routine (j : Routine)
  | program (p : Program)

namespace Worker

/-- The identity of a job. -/
def id : Worker → JobId
  | puppet p => p.id
  | script x => x.id
  | routine j => j.id
  | program p => p.id

/-- The label of a job. -/
def label : Worker → String
  | puppet p => p.label
  | script x => x.label
  | routine j => j.label
  | program p => p.label

/-- The reply of a job of one kind, as the reply of a worker. -/
def reply {J A : Type} (f : J → Worker) (r : Reply J Host A) : Reply Worker Host A :=
  ⟨r.outcome, f r.job, r.env⟩

/-- Starts the worker. -/
def start : Worker → Host → Reply Worker Host (Outcome Unit)
  | puppet p, h => reply puppet (p.start h)
  | script x, h => reply script (x.start h)
  | routine j, h => reply routine (j.start h)
  | program p, h => reply program (p.start h)

/-- Looks whether the worker has exited. -/
def tryExit : Worker → Host → Reply Worker Host (Outcome (Option Exit))
  | puppet p, h => reply puppet (p.tryExit h)
  | script x, h => reply script (x.tryExit h)
  | routine j, h => reply routine (j.tryExit h)
  | program p, h => reply program (p.tryExit h)

/-- Signals the worker to terminate. -/
def terminate (c : KillCommand) : Worker → Host → Reply Worker Host (Outcome Unit)
  | puppet p, h => reply puppet (p.terminate c h)
  | script x, h => reply script (x.terminate c h)
  | routine j, h => reply routine (j.terminate c h)
  | program p, h => reply program (p.terminate c h)

/-- Waits for the worker's exit. -/
def wait (limit : Duration) : Worker → Host → Reply Worker Host WaitOutcome
  | puppet p, h => reply puppet (p.wait limit h)
  | script x, h => reply script (x.wait limit h)
  | routine j, h => reply routine (j.wait limit h)
  | program p, h => reply program (p.wait limit h)

/-- Workers as a kind of jobs. -/
def kind : JobKind Worker Host where
  id := id
  label := label
  start j h := j.start h.moment
  tryExit j h := j.tryExit h.moment
  terminate c j h := j.terminate c h.moment
  wait limit j h := j.wait limit h.moment
  now := Host.clock
  moment := Host.moment

/-- The probe of a puppet. -/
def probe (w : Worker) (h : Host) : Option Probe :=
  match w with
  | puppet p => h.probes[p.probe]?
  | _ => none

end Worker
end SerialJobs
