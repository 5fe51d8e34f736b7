import SerialJobs.Audit.Event
import SerialJobs.Config.Lookup
import SerialJobs.Job.Kind
import SerialJobs.Json.Reader
import SerialJobs.Manager.State
import SerialJobs.Proofs.Conclusion
import SerialJobs.Proofs.Containment
import SerialJobs.Proofs.Deadline
import SerialJobs.Proofs.Exclusion
import SerialJobs.Proofs.Keeping
import SerialJobs.Proofs.Kills
import SerialJobs.Proofs.Noninterference
import SerialJobs.Proofs.Jobs.Gauge
import SerialJobs.Proofs.Jobs.Lags
import SerialJobs.Proofs.Jobs.Latch
import SerialJobs.Proofs.Jobs.Starts
import SerialJobs.Proofs.Patience
import SerialJobs.Proofs.Reentry
import SerialJobs.Proofs.Representation
import SerialJobs.Proofs.RoundTrip
import SerialJobs.Proofs.Settings
import SerialJobs.Proofs.Signals
import SerialJobs.Proofs.Spelling
import SerialJobs.Proofs.Supervision
import SerialJobs.Proofs.Supervision.Lifecycle
import SerialJobs.Proofs.Supervision.Service
import SerialJobs.Proofs.Supervision.Stopping
import SerialJobs.Proofs.Ticks
import SerialJobs.Proofs.Traffic.Order
import SerialJobs.Proofs.Traffic.Overlap
import SerialJobs.Proofs.Traffic.Snapshot
import SerialJobs.Scene
import SerialJobs.Proofs.Keeping.Upkeep
