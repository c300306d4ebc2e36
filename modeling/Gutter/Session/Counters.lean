/-!
# Counters

What happened in a session so far, counted modulo `2 ^ 64`.
-/

namespace Gutter

/-- What happened in a session so far. A completion is stale if nobody waited for the run any more.
-/
structure Counters where
  runsStarted : UInt64 := 0
  runsCompleted : UInt64 := 0
  runsFailed : UInt64 := 0
  staleCompletions : UInt64 := 0
  timersScheduled : UInt64 := 0
  markersCreated : UInt64 := 0
  markersReleased : UInt64 := 0
  entriesEvicted : UInt64 := 0
  deriving DecidableEq, Repr

namespace Counters

/-- The markers that are there: created and not yet released. -/
def markersLive (c : Counters) : UInt64 :=
  if c.markersReleased ≤ c.markersCreated then c.markersCreated - c.markersReleased else 0

def countStart (c : Counters) : Counters := { c with runsStarted := c.runsStarted + 1 }

def countCompletion (c : Counters) : Counters := { c with runsCompleted := c.runsCompleted + 1 }

def countFailure (c : Counters) : Counters := { c with runsFailed := c.runsFailed + 1 }

def countStale (c : Counters) : Counters := { c with staleCompletions := c.staleCompletions + 1 }

def countTimer (c : Counters) : Counters := { c with timersScheduled := c.timersScheduled + 1 }

def countMarker (c : Counters) : Counters := { c with markersCreated := c.markersCreated + 1 }

def countReleased (n : UInt64) (c : Counters) : Counters :=
  { c with markersReleased := c.markersReleased + n }

def countEvicted (n : UInt64) (c : Counters) : Counters :=
  { c with entriesEvicted := c.entriesEvicted + n }

end Counters

end Gutter
