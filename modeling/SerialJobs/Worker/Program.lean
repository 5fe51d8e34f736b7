import SerialJobs.Host.Stage
import SerialJobs.Job.Kind

/-!
# Programs

A program is a job whose worker is a child process. Its exit is read from the way the process
ended, and once the job was terminated it counts as killed however the process ended. Whatever the
system refuses is an error of the job; only that a process which is over cannot be killed any more
is none.
-/

namespace SerialJobs

/-- A job whose worker is a child process. -/
structure Program where
  id : JobId
  label : String
  command : Command
  /-- Its process, once started. -/
  child : Option Child := none
  /-- The end of the process has been seen. -/
  reaped : Bool := false
  /-- The last command that it was terminated with. -/
  killed : Option KillCommand := none
  exit : Option Exit := none
deriving DecidableEq, Repr

namespace Program

/-- The exit of a job whose process has ended. -/
def exitOf (killed : Option KillCommand) (s : ExitStatus) : Exit :=
  match killed with
  | some c => .killed c
  | none => if s.isSuccess then .completed else .failed s.code? none

/-- The exit of the job is known. -/
def conclude (p : Program) (s : ExitStatus) : Exit × Program :=
  let exit := exitOf p.killed s
  (exit, { p with reaped := true, exit := some exit })

/-- Starts the process. -/
def start (p : Program) (h : Host) : Reply Program Host (Outcome Unit) :=
  if p.child.isSome then
    ⟨.error (.internal ("job '" ++ p.label ++ "' already started")), p, h⟩
  else
    match h.system.spawn p.command h.hasRuntime h.clock with
    | .ok => ⟨.ok (), { p with child := some ⟨p.command, h.clock, []⟩ }, h⟩
    | .error e => ⟨.error (.spawnFailed p.label e), p, h⟩
    | .panic payload => ⟨.panic payload, p, h⟩

/-- Looks whether the process has ended. -/
def tryExit (p : Program) (h : Host) : Reply Program Host (Outcome (Option Exit)) :=
  match p.exit, p.child with
  | some e, _ => ⟨.ok (some e), p, h⟩
  | none, none => ⟨.error .notStarted, p, h⟩
  | none, some child =>
    match h.system.status child h.clock with
    | .error e => ⟨.error (.system e), p, h⟩
    | .ok none => ⟨.ok none, p, h⟩
    | .ok (some s) =>
      let (e, p) := p.conclude s
      ⟨.ok (some e), p, h⟩

/-- Kills the process. -/
def terminate (c : KillCommand) (p : Program) (h : Host) : Reply Program Host (Outcome Unit) :=
  match p.exit, p.child with
  | some _, _ => ⟨.ok (), p, h⟩
  | none, none => ⟨.error .notStarted, p, h⟩
  | none, some child =>
    match h.system.kill child h.clock with
    | .ok () =>
      let child := { child with kills := h.clock :: child.kills }
      ⟨.ok (), { p with child := some child, killed := some c }, h⟩
    | .error e =>
      -- the process is over
      if e.isInvalidInput then ⟨.ok (), { p with killed := some c }, h⟩
      else ⟨.error (.terminateFailed e.message), p, h⟩

/-- What there is to see of a process that does not run any more: its end, or an error. -/
def ending (child : Child) (h : Host) : Option (Except SystemError ExitStatus) :=
  match h.system.status child h.clock with
  | .error e => some (.error e)
  | .ok s => s.map .ok

/-- Waits for the end of the process. -/
def wait (limit : Duration) (p : Program) (h : Host) : Reply Program Host WaitOutcome :=
  match p.exit, p.child with
  | some e, _ => ⟨.exited e, p, h⟩
  | none, none => ⟨.error .notStarted, p, h⟩
  | none, some child =>
    let (seen, h) := Stage.alone.poll (fun h => (ending child h, h)) 1 limit.ticks h
    match seen with
    | none => ⟨.timedOut, p, h⟩
    | some (.error e) => ⟨.error (.system e), p, h⟩
    | some (.ok s) =>
      let (e, p) := p.conclude s
      ⟨.exited e, p, h⟩

/-- The system's number of the process is known: it runs, or nobody has noticed its end. -/
def hasPid (p : Program) : Bool := p.child.isSome && !p.reaped

end Program
end SerialJobs
