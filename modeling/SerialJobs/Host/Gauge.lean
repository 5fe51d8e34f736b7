/-!
# Gauges

A gauge counts how many jobs run at once and remembers the greatest number it has seen.
-/

namespace SerialJobs

/-- A count of running jobs, and the greatest it has been. -/
structure Gauge where
  current : Nat := 0
  peak : Nat := 0
deriving DecidableEq, Repr

namespace Gauge

/-- One more job runs. -/
def enter (g : Gauge) : Gauge := ⟨g.current + 1, max g.peak (g.current + 1)⟩

/-- One job less runs. -/
def leave (g : Gauge) : Gauge := { g with current := g.current - 1 }

end Gauge
end SerialJobs
