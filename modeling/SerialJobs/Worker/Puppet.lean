import SerialJobs.Host.Stage
import SerialJobs.Job.Kind

/-!
# Puppets

A puppet is a job without a worker: what it does on every call is laid down beforehand. It is
started, runs for some time or until it is terminated, may fail or panic on the way, and may take
some checks to notice that it was terminated. A probe shows what was done to it, and a gauge may
count it.
-/

namespace SerialJobs

/-- What a puppet does once started. -/
inductive Behavior
  /-- It finishes once this much time has passed. -/
  | runFor (d : Duration)
  | untilKilled
  /-- Starting it fails. -/
  | failStart
deriving DecidableEq, Repr

/-- A job without a worker. -/
structure Puppet where
  id : JobId
  label : String
  behavior : Behavior
  /-- The exit when it finishes by itself. -/
  exit : Exit
  /-- So many status checks fail. -/
  statusErrors : Nat
  /-- Status checks panic. -/
  panicsOnStatus : Bool
  /-- So many terminations fail. -/
  terminateFailures : Nat
  /-- After it was terminated, so many status checks still find it running. -/
  killLag : Nat
  /-- The gauge counts it. -/
  gauged : Bool
  /-- The number of its probe. -/
  probe : Nat
  /-- The last command delivered to it while checks were to find it running. -/
  killed : Option KillCommand := none
  /-- The clock when it was started. -/
  startedAt : Option Nat := none
  finished : Option Exit := none
deriving DecidableEq, Repr

namespace Puppet

/-- The puppet and its host after it has finished, which only its first exit changes. -/
def finish (p : Puppet) (e : Exit) (h : Host) : Puppet × Host :=
  if p.finished.isSome then (p, h)
  else
    let h := if p.gauged then h.gauging Gauge.leave else h
    ({ p with finished := some e }, h.probing p.probe fun b => { b with finished := true })

/-- The error of a puppet that fails to start. -/
def startFailure (label : String) : JobError :=
  .spawnFailed label { message := "mock start failure" }

/-- Starts the puppet. -/
def start (p : Puppet) (h : Host) : Reply Puppet Host (Outcome Unit) :=
  let h := h.probing p.probe fun b => { b with startCalls := b.startCalls + 1 }
  if p.behavior = .failStart then
    ⟨.error (startFailure p.label), p, h⟩
  else
    let h := if p.gauged then h.gauging Gauge.enter else h
    ⟨.ok (), { p with startedAt := some h.clock },
      h.probing p.probe fun b => { b with started := true }⟩

/-- A puppet that was started finds out whether it has finished by itself. -/
def runOut (p : Puppet) (startedAt : Nat) (h : Host) :
    Reply Puppet Host (Outcome (Option Exit)) :=
  match p.behavior with
  | .runFor d =>
    if d.toNanos ≤ h.clock - startedAt then
      let (q, h) := p.finish p.exit h
      ⟨.ok (some p.exit), q, h⟩
    else ⟨.ok none, p, h⟩
  | _ => ⟨.ok none, p, h⟩

/-- Looks whether the puppet has finished. -/
def tryExit (p : Puppet) (h : Host) : Reply Puppet Host (Outcome (Option Exit)) :=
  let h := h.probing p.probe fun b => { b with statusChecks := b.statusChecks + 1 }
  match p.finished, p.startedAt, p.killed with
  | some e, _, _ => ⟨.ok (some e), p, h⟩
  | none, none, _ => ⟨.error .notStarted, p, h⟩
  | none, some _, some c =>
    if 0 < p.killLag then ⟨.ok none, { p with killLag := p.killLag - 1 }, h⟩
    else
      let (q, h) := p.finish (.killed c) h
      ⟨.ok (some (.killed c)), q, h⟩
  | none, some startedAt, none =>
    if p.panicsOnStatus then ⟨.panic (.text "mock status check panicked"), p, h⟩
    else if 0 < p.statusErrors then
      ⟨.error (.statusUnavailable "mock status error"),
        { p with statusErrors := p.statusErrors - 1 }, h⟩
    else p.runOut startedAt h

/-- Terminates the puppet. -/
def terminate (c : KillCommand) (p : Puppet) (h : Host) : Reply Puppet Host (Outcome Unit) :=
  let h := h.probing p.probe fun b => { b with terminateCalls := b.terminateCalls + 1 }
  if 0 < p.terminateFailures then
    ⟨.error (.terminateFailed "mock terminate failure"),
      { p with terminateFailures := p.terminateFailures - 1 }, h⟩
  else
    let h := h.probing p.probe fun b => { b with terminatedWith := some c }
    if p.killLag = 0 then
      let (p, h) := p.finish (.killed c) h
      ⟨.ok (), p, h⟩
    else ⟨.ok (), { p with killed := some c }, h⟩

/-- How long a waiting puppet sleeps between two status checks, in milliseconds. -/
def period : Nat := 5

/-- What one status check means to who waits: an end of the wait, or nothing yet. -/
def look (x : Puppet × Host) : Option WaitOutcome × (Puppet × Host) :=
  let r := x.1.tryExit x.2
  let seen :=
    match r.outcome with
    | .ok (some e) => some (.exited e)
    | .ok none => none
    | .error .notStarted => some (.error .notStarted)
    | .error _ => none
    | .panic p => some (.panic p)
  (seen, (r.job, r.env))

/-- Waits for the puppet's exit: a status check now and after every period. -/
def wait (limit : Duration) (p : Puppet) (h : Host) : Reply Puppet Host WaitOutcome :=
  let h := h.probing p.probe fun b => { b with waited := true }
  let (seen, (p, h)) := (Stage.beside Puppet).poll look period limit.ticks (p, h)
  ⟨seen.getD .timedOut, p, h⟩

end Puppet
end SerialJobs
