import SerialJobs.Host.Stage
import SerialJobs.Job.Kind

/-!
# Scripts

A script is a job whose calls have outcomes that were written down beforehand. Of every kind of
call, the first gets the first outcome, the next the second, and the last outcome repeats.
-/

namespace SerialJobs

/-- The outcomes of successive calls; the last one repeats. -/
structure Lines (A : Type) where
  first : A
  rest : List A
deriving DecidableEq, Repr

namespace Lines

variable {A : Type}

/-- The same outcome for every call. -/
def always (a : A) : Lines A := ⟨a, []⟩

/-- The outcomes of a list, or the given one where there are none. -/
def ofList (default : A) : List A → Lines A
  | [] => always default
  | a :: as => ⟨a, as⟩

/-- The outcome of the next call, and the outcomes after it. -/
def next (l : Lines A) : A × Lines A :=
  match l.rest with
  | [] => (l.first, l)
  | a :: as => (l.first, ⟨a, as⟩)

end Lines

/-- How a wait ends, and after how many milliseconds. -/
structure WaitLine where
  delay : Nat := 0
  /-- The end of the wait; none when it never ends. -/
  outcome : Option (Outcome Exit)
deriving DecidableEq, Repr

/-- A job whose calls have the outcomes written down. -/
structure Script where
  id : JobId
  label : String
  starts : Lines (Outcome Unit)
  tryExits : Lines (Outcome (Option Exit))
  terminates : Lines (Outcome Unit)
  waits : Lines WaitLine
deriving DecidableEq, Repr

namespace Script

/-- Starts the script. -/
def start (x : Script) (h : Host) : Reply Script Host (Outcome Unit) :=
  let (o, l) := x.starts.next
  ⟨o, { x with starts := l }, h⟩

/-- Looks whether the script has exited. -/
def tryExit (x : Script) (h : Host) : Reply Script Host (Outcome (Option Exit)) :=
  let (o, l) := x.tryExits.next
  ⟨o, { x with tryExits := l }, h⟩

/-- Terminates the script. -/
def terminate (_ : KillCommand) (x : Script) (h : Host) : Reply Script Host (Outcome Unit) :=
  let (o, l) := x.terminates.next
  ⟨o, { x with terminates := l }, h⟩

/-- The end of a wait. -/
def waitOutcome : Outcome Exit → WaitOutcome
  | .ok e => .exited e
  | .error e => .error e
  | .panic p => .panic p

/-- Waits for the script's exit. -/
def wait (limit : Duration) (x : Script) (h : Host) : Reply Script Host WaitOutcome :=
  let (w, l) := x.waits.next
  let x := { x with waits := l }
  match w.outcome with
  | some o =>
    if w.delay = 0 then ⟨waitOutcome o, x, h⟩
    else if w.delay ≤ limit.ticks then ⟨waitOutcome o, x, Stage.alone.pass w.delay h⟩
    else ⟨.timedOut, x, Stage.alone.await (fun _ => false) limit.ticks h⟩
  | none => ⟨.timedOut, x, Stage.alone.await (fun _ => false) limit.ticks h⟩

end Script
end SerialJobs
