import SerialJobs.Manager.Shutdown

/-!
# The scheduling loop

A service is a manager together with its scheduling loop. A loop ticks, beats when the last
heartbeat is old enough, sleeps, and starts over. A loop that is told to end does so the next time
it runs, but not before its first tick; a loop whose manager nobody holds any more ends without a
further tick.
-/

namespace SerialJobs

/-- A scheduling loop that has not ended. -/
structure Loop where
  /-- The clock at the last heartbeat, or when the loop began; none before it has begun. -/
  lastBeat : Option Nat := none
  /-- The loop has been told to end. -/
  told : Bool := false
deriving DecidableEq, Repr

/-- A manager and its loop. -/
structure Service (J E : Type) where
  manager : Manager J E
  loop : Option Loop := none
  /-- Someone still holds the manager. -/
  held : Bool := true

namespace Service

variable {J E : Type}

/-- The loop is running and has not been told to end. -/
def isAlive (v : Service J E) : Bool := v.loop.any (!·.told)

/-- The manager as a caller sees it at this moment. -/
def snapshot (v : Service J E) : Snapshot := v.manager.snapshot v.isAlive

/-- A service shown by what can be seen of it at this moment. -/
def shown (s : Setup J E) (v : Service J E) : String :=
  Text.shownRecord "ScanManager"
    [("alive", if v.isAlive then "true" else "false"),
      ("current_job", Text.shownOption JobId.shown v.manager.currentId),
      ("queue_len", String.ofList (Text.decimal v.manager.queue.length)),
      ("config", s.config.shown)]

/-- A service whose manager is changed. -/
def withManager {α : Type} (v : Service J E) (r : α × Manager J E) : α × Service J E :=
  (r.1, { v with manager := r.2 })

/-- Starts the loop, where `runtime` says whether there is something to host it. -/
def start (s : Setup J E) (runtime : Bool) (v : Service J E) :
    Except ManagerError Unit × Service J E :=
  if v.isAlive then (.error .alreadyRunning, v)
  else if !runtime then (.error (.runtimeUnavailable noRuntime), v)
  else
    let d := .loopStarted s.config.pollInterval s.config.jobTimeout v.manager.queue.length
    (.ok (), { v with manager := v.manager.note d, loop := some {} })

/-- The loop ends. -/
def endLoop (v : Service J E) : Service J E :=
  { v with manager := v.manager.note .loopExited, loop := none }

/-- One tick of the loop, and a heartbeat when the last one is old enough. -/
def iterate (s : Setup J E) (l : Loop) (m : Manager J E) : Loop × Manager J E :=
  let last := l.lastBeat.getD (m.now s)
  let (_, m) := { m with env := s.kind.moment m.env }.work s
  if s.config.heartbeatInterval.toNanos ≤ m.now s - last then
    let m := m.audit (.heartbeat (m.snapshot true))
    ({ l with lastBeat := some (m.now s) }, m)
  else ({ l with lastBeat := some last }, m)

/-- The loop runs until it sleeps or ends. -/
def turn (s : Setup J E) (v : Service J E) : Service J E :=
  match v.loop with
  | none => v
  | some l =>
    if !v.held || (l.told && l.lastBeat.isSome) then v.endLoop
    else
      let (l, m) := iterate s l v.manager
      let v := { v with manager := m, loop := some l }
      if l.told then v.endLoop else v

/-- Tells the loop to end. -/
def tell (v : Service J E) : Service J E :=
  { v with loop := v.loop.map fun l => { l with told := true } }

/-- The part of a stop that follows the end of the loop. -/
def conclude (s : Setup J E) (v : Service J E) :
    Except PanicPayload (Report J) × Service J E :=
  v.withManager (v.manager.stop s)

/-- Stops the service: the loop ends, then the manager is stopped. -/
def stop (s : Setup J E) (v : Service J E) : Except PanicPayload (Report J) × Service J E :=
  (v.tell.turn s).conclude s

/-- Nobody holds the manager any more. The loop ends the next time it runs. -/
def drop (s : Setup J E) (v : Service J E) : Service J E :=
  { v.tell with manager := v.manager.drop s, held := false }

end Service
end SerialJobs
