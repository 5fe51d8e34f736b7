import SerialJobs.Service
import SerialJobs.Worker

/-!
# A service on its host

A service whose jobs are workers, on a host that runs its loop beside the tasks of the workers.
The loop and the tasks run only while somebody waits.
-/

namespace SerialJobs

/-- A service on its host. -/
structure Scene where
  setup : Setup Worker Host
  service : Service Worker Host

namespace Scene

/-- The host. -/
def host (x : Scene) : Host := x.service.manager.env

/-- Changes the host. -/
def change (f : Host → Host) (x : Scene) : Scene :=
  let v := x.service
  { x with service := { v with manager := { v.manager with env := f v.manager.env } } }

/-- Lets the loop run. When it sleeps, a timer is set to wake it. -/
def runLoop (x : Scene) : Scene :=
  let x := { x with service := x.service.turn x.setup }
  if x.service.loop.isSome then
    x.change (·.wakeAfter x.setup.config.pollInterval.ticks .loop)
  else x

/-- The stage that a service on its host makes. -/
def stage : Stage Scene := ⟨host, change, runLoop⟩

/-- A service whose configuration is accepted, before any call. -/
def make (config : Config) (sink : Option Sink) (h : Host) : Except ManagerError Scene := do
  config.validate
  .ok ⟨⟨Worker.kind, config, sink⟩, ⟨.fresh h, none, true⟩⟩

/-- Takes the result of a call on the manager. -/
def take {A : Type} (x : Scene) (r : A × Manager Worker Host) : A × Scene :=
  (r.1, { x with service := { x.service with manager := r.2 } })

/-- Submits a job. -/
def submit (j : Worker) (x : Scene) : Ticket × Scene := x.take (x.service.manager.submit x.setup j)

/-- One iteration of the scheduling loop. -/
def work (x : Scene) : Tick × Scene := x.take (x.service.manager.work x.setup)

/-- Iterations up to the first that finds nothing to do. -/
def workUntilIdle (n : Nat) (x : Scene) : List Tick × Scene :=
  x.take (x.service.manager.workUntilIdle x.setup n)

/-- Kills the running job. -/
def kill (id : JobId) (c : KillCommand) (x : Scene) : Bool × Scene :=
  x.take (x.service.manager.kill x.setup id c)

/-- Starts the loop. -/
def start (x : Scene) : Except ManagerError Unit × Scene :=
  let (r, v) := x.service.start x.setup x.host.hasRuntime
  let x := { x with service := v }
  match r with
  | .ok () => (.ok (), x.change (·.wake .loop))
  | .error e => (.error e, x)

/-- Stops the service. A loop that runs ends first, when everything that is ready has run. -/
def stop (x : Scene) : Except PanicPayload (Report Worker) × Scene :=
  let x :=
    if x.service.loop.isSome then
      stage.quiesce ({ x with service := x.service.tell }.change (·.rouse .loop))
    else x
  let (r, v) := x.service.conclude x.setup
  (r, { x with service := v })

/-- Nobody holds the manager any more. -/
def drop (x : Scene) : Scene :=
  let running := x.service.loop.isSome
  let x := { x with service := x.service.drop x.setup }
  if running then x.change (·.rouse .loop) else x

/-- The handle of the given submission. -/
def handle? (n : Nat) (x : Scene) : Option Handle := x.service.manager.handles[n]?

/-- How the given submission finished, once it has. -/
def exitOf (n : Nat) (x : Scene) : Option Exit := (x.handle? n).bind (·.state.exit)

/-- How often, in milliseconds, who waits for a submission looks at its handle. -/
def handlePeriod : Nat := 10

/-- Waits for a submission to finish, no longer than so many milliseconds. -/
def waitFor (n millis : Nat) (x : Scene) : Option Exit × Scene :=
  stage.poll (fun x => (x.exitOf n, x)) handlePeriod millis x

/-- Lets the work that is ready run. -/
def yield (x : Scene) : Scene := stage.quiesce x

/-- Lets so many milliseconds pass. -/
def advance (millis : Nat) (x : Scene) : Scene := stage.pass millis x

/-- Waits for a submission to finish, and does the work of the loop unless there is one. Looks every
millisecond, at most `n` times. -/
def seeOff (handle : Nat) : Nat → Scene → Scene
  | 0, x => x
  | n + 1, x =>
    if (x.exitOf handle).isSome then x
    else
      let x := if x.service.isAlive then x else x.work.2
      if (x.exitOf handle).isSome then x else seeOff handle n (x.advance 1)

end Scene
end SerialJobs
