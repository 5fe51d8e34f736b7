import SerialJobs.Host.Gauge
import SerialJobs.Host.Probe
import SerialJobs.Host.System
import SerialJobs.Host.Task

/-!
# The host of the workers

The surroundings in which jobs run: a monotonic clock, a time for timers, a runtime that runs
tasks and the scheduling loop one after the other, the operating system, and what observes puppets.

The time for timers is either the clock's, or it is virtual: then it stands still except when
somebody waits, and jumps from one timer to the next. The clock is never virtual.
-/

namespace SerialJobs

/-- Something that the host runs when it is ready. -/
inductive Runnable
  /-- The task of the given number. -/
  | task (number : Nat)
  /-- The scheduling loop. -/
  | loop
deriving DecidableEq, Repr

/-- A timer: at its deadline, something becomes ready. -/
structure Timer where
  /-- The time in milliseconds. -/
  deadline : Nat
  wakes : Runnable
deriving DecidableEq, Repr

/-- The surroundings in which jobs run. -/
structure Host where
  /-- The time for timers is virtual. -/
  isVirtual : Bool := true
  /-- There is a runtime at hand. -/
  hasRuntime : Bool := true
  /-- The virtual time, in milliseconds. -/
  virtualTime : Nat := 0
  /-- The monotonic clock, in nanoseconds. -/
  clock : Nat := 0
  /-- What is ready to run, in order. -/
  ready : List Runnable := []
  /-- The timers, in the order in which they were set. -/
  timers : List Timer := []
  /-- All tasks, by their numbers. -/
  tasks : List Task := []
  /-- The system that child processes run on. -/
  system : System := {}
  gauge : Gauge := {}
  /-- The probes, by their numbers. -/
  probes : List Probe := []

namespace Host

/-- The time for timers, in milliseconds. -/
def time (h : Host) : Nat := if h.isVirtual then h.virtualTime else h.clock / 1000000

/-- The time for timers moves forward to `t`. -/
def setTime (t : Nat) (h : Host) : Host :=
  if h.isVirtual then { h with virtualTime := max h.virtualTime t }
  else { h with clock := max h.clock (t * 1000000) }

/-- The clock moves on by so many nanoseconds. -/
def elapse (n : Nat) (h : Host) : Host := { h with clock := h.clock + n }

/-- A moment passes, as long as a call on a job takes: a microsecond. -/
def moment (h : Host) : Host := h.elapse 1000

/-! ## Tasks and timers -/

/-- Something becomes ready to run, unless it is already. -/
def wake (r : Runnable) (h : Host) : Host :=
  if r ∈ h.ready then h else { h with ready := h.ready ++ [r] }

/-- Sets a timer that wakes something after so many milliseconds. -/
def wakeAfter (millis : Nat) (r : Runnable) (h : Host) : Host :=
  { h with timers := h.timers ++ [⟨h.time + millis, r⟩] }

/-- Removes the timers that would wake something. -/
def forget (r : Runnable) (h : Host) : Host :=
  { h with timers := h.timers.filter (·.wakes ≠ r) }

/-- Something that sleeps becomes ready at once. -/
def rouse (r : Runnable) (h : Host) : Host := (h.forget r).wake r

/-- A new task, ready to run; its number comes with it. -/
def spawn (w : Work) (h : Host) : Nat × Host :=
  let n := h.tasks.length
  (n, wake (.task n) { h with tasks := h.tasks ++ [{ work := w }] })

/-- The task of the given number. -/
def task? (n : Nat) (h : Host) : Option Task := h.tasks[n]?

/-- How the task of the given number ended, once it has. -/
def taskEnd (n : Nat) (h : Host) : Option TaskEnd := (h.task? n).bind (·.ended)

/-- The task of the given number has ended. -/
def isFinished (n : Nat) (h : Host) : Bool := (h.taskEnd n).isSome

/-- Replaces a task. -/
def putTask (n : Nat) (t : Task) (h : Host) : Host := { h with tasks := h.tasks.set n t }

/-- Tells a task to go away. One that has ended stays as it is. -/
def abort (n : Nat) (h : Host) : Host :=
  match h.task? n with
  | some t =>
    if t.ended.isSome then h else (h.putTask n { t with aborted := true }).rouse (.task n)
  | none => h

/-- Runs a task. -/
def runTask (n : Nat) (h : Host) : Host :=
  match h.task? n with
  | some t =>
    if t.ended.isSome then h
    else if t.aborted then h.putTask n { t with ended := some .cancelled }
    else
      match t.work.run with
      | .over e => h.putTask n { t with ended := some e }
      | .stuck => h
      | .asleep millis w => (h.putTask n { t with work := w }).wakeAfter millis (.task n)
  | none => h

/-- Everything whose timer is due becomes ready, the earliest deadline first. -/
def fireDue (h : Host) : Host :=
  let due := (h.timers.filter (·.deadline ≤ h.time)).mergeSort (·.deadline ≤ ·.deadline)
  due.foldl (fun h t => h.wake t.wakes) { h with timers := h.timers.filter (h.time < ·.deadline) }

/-- The earliest deadline of all timers. -/
def nextDeadline (h : Host) : Option Nat := (h.timers.map (·.deadline)).min?

/-! ## Puppets -/

/-- Changes the probe of the given number. -/
def probing (n : Nat) (f : Probe → Probe) (h : Host) : Host :=
  { h with probes := h.probes.modify n f }

/-- Changes the gauge. -/
def gauging (f : Gauge → Gauge) (h : Host) : Host := { h with gauge := f h.gauge }

end Host
end SerialJobs
