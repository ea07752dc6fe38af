import Dispatch.Id
import Dispatch.Time.Span

/-!
# How a worker lane behaves

The identity a lane signs with and the time limits it keeps.  The lanes of one process share their
limits; each has a name of its own and reports how many of them there are.
-/

namespace Dispatch

/-- The settings of a lane. -/
structure WorkerConfig where
  worker : WorkerId := ⟨"worker-1"⟩
  /-- Lanes of the process, as reported in heartbeats. -/
  concurrency : Int := 1
  providerTimeout : Span := .ofSeconds 8
  heartbeatInterval : Span := .ofSeconds 5
  dequeueTimeout : Span := .ofSeconds 2
  /-- The pause after a failed poll and between tries of a commit. -/
  errorBackoff : Span := .ofMillis 750
  /-- Tries of a commit that fails for want of a working store. -/
  commitAttempts : Nat := 3
deriving DecidableEq, Repr, Inhabited

namespace WorkerConfig

/-- A count as a signed 32-bit number, which keeps the low 32 bits. -/
def narrow (n : Nat) : Int := Int.bmod n 4294967296

/-- The settings of one lane out of several. -/
def forLane (c : WorkerConfig) (lane lanes : Nat) : WorkerConfig :=
  { c with worker := c.worker.lane lane lanes, concurrency := narrow lanes }

/-- Zero tries count as one. -/
def commitTries (c : WorkerConfig) : Nat := max c.commitAttempts 1

/-- The time between two heartbeats during an execution, at least a millisecond. -/
def heartbeatPeriod (c : WorkerConfig) : Span :=
  ⟨max c.heartbeatInterval.nanos (Span.ofMillis 1).nanos⟩

end WorkerConfig

end Dispatch
