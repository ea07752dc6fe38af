import Dispatch.Json.Entity

/-!
# Views of workers and metrics

Heartbeats are shown with whether the lane counts as live, and the summary counts jobs by status
and workers by liveness.
-/

namespace Dispatch.Http

/-- A heartbeat as it is shown. -/
structure WorkerView where
  heartbeat : Heartbeat
  live : Bool
deriving DecidableEq, Repr

/-- The heartbeat's members and one more. -/
def WorkerView.toJson (v : WorkerView) : Json :=
  .obj (v.heartbeat.members ++ [("live", .bool v.live)])

/-- The longest grace: as many milliseconds as a signed word counts. -/
def longestGrace : Span := .ofMillis Numeral.maxSigned

/-- The grace of a stale time in nanoseconds.  A hundred years stand for a time beyond the longest
grace. -/
def graceOf (staleAfter : Span) : Int :=
  if staleAfter ≤ longestGrace then staleAfter.nanos else 36500 * 86400 * 1000000000

/-- Heartbeats as they are shown at an instant. -/
def workerViews (staleAfter : Span) (now : Time) (hs : List Heartbeat) : List WorkerView :=
  hs.map fun h => ⟨h, h.isLive now (graceOf staleAfter)⟩

/-- How many workers there are. -/
structure WorkerCounts where
  total : Nat := 0
  live : Nat := 0
  /-- Those at work, out of the live ones. -/
  busy : Nat := 0
deriving DecidableEq, Repr

namespace WorkerCounts

/-- Count views. -/
def ofViews (views : List WorkerView) : WorkerCounts :=
  let live := views.filter (·.live)
  ⟨views.length, live.length, (live.filter (·.heartbeat.state = .busy)).length⟩

def toJson (c : WorkerCounts) : Json :=
  .obj [("total", .nat c.total), ("live", .nat c.live), ("busy", .nat c.busy)]

end WorkerCounts

/-- The summary of jobs and workers at an instant. -/
def summary (now : Time) (tally : Tally) (views : List WorkerView) : Json :=
  .obj [("generated_at", .time now),
    ("jobs", .obj (tally.members ++ [("total", .nat tally.total)])),
    ("workers", (WorkerCounts.ofViews views).toJson)]

end Dispatch.Http
