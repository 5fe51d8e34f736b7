import SerialJobs.Job.Error
import SerialJobs.Job.Id

/-!
# Status sinks

A sink is told of every state that a job enters. Told of one, it may call the manager back, any
finite number of times, and it may panic after that. What it does may depend on everything it was
told before.

The records of a sink that only keeps what it is told answer two questions: which states a job has
entered, and in which order the jobs started.
-/

namespace SerialJobs

/-- What a sink is told: a job has entered a state. -/
structure Record where
  id : JobId
  label : String
  state : JobState
deriving DecidableEq, Repr

namespace Record

/-- The states that the records tell of one job, in order. -/
def statesFor (id : JobId) (records : List Record) : List JobState :=
  (records.filter (·.id = id)).map (·.state)

/-- The jobs that the records tell to be running, in order. -/
def startedOrder (records : List Record) : List JobId :=
  (records.filter (·.state = .running)).map (·.id)

end Record

/-- A call from a sink back into the manager. -/
inductive Act
  /-- One iteration of the scheduling loop. -/
  | work
  /-- A kill of the job with the given identity. -/
  | kill (id : JobId) (command : KillCommand)
deriving DecidableEq, Repr

/-- What a sink does when it is told of a state: calls, one after the other, and perhaps a panic. -/
structure Reaction where
  acts : List Act := []
  panic : Option PanicPayload := none
deriving DecidableEq, Repr

/-- A sink, by what it does: its reaction to a record, after the records told before. -/
structure Sink where
  react : List Record → Record → Reaction

namespace Sink

/-- The sink never calls the manager back. -/
def Passive (s : Sink) : Prop :=
  ∀ past r, (s.react past r).acts = []

/-- The sink that keeps quiet. -/
def silent : Sink := ⟨fun _ _ => {}⟩

end Sink
end SerialJobs
