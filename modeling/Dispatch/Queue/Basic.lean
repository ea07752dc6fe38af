import Dispatch.Id
import Dispatch.Table
import Dispatch.Time.Instant

/-!
# The ready list and the leases

The ready list holds the jobs to be started, newest at the head; entries may repeat.  A lease lets
one worker at a time look at a job: it is granted if nobody holds it, and it lapses by itself
after its time, at the very instant it ends.

The queue goes by a clock that has an end, billions of years ahead.  Whoever asks for an instant
from the end on breaks off; if that happens in the middle of a change, the queue stays closed.
-/

namespace Dispatch

/-- The hold of a worker on a job. -/
structure Lease where
  holder : WorkerId
  expiresAt : Time
deriving DecidableEq, Repr

/-- The contents of the lease queue. -/
structure LeaseQueue where
  /-- Newest first; entries leave at the other end. -/
  ready : List JobId := []
  leases : Table JobId Lease := .empty
  ttl : Span := .ofSeconds 30
  /-- The first instant that the clock does not have. -/
  clockEnd : Time := .clockEnd
  /-- Somebody broke off in the middle of a change, and nobody gets at the queue any more. -/
  closed : Bool := false
deriving Repr

namespace LeaseQueue

instance : Inhabited LeaseQueue := ⟨{}⟩

/-- Put a job on the ready list. -/
def enqueue (q : LeaseQueue) (id : JobId) : LeaseQueue :=
  { q with ready := id :: q.ready }

/-- Take the oldest entry off the ready list. -/
def pop (q : LeaseQueue) : Option JobId × LeaseQueue :=
  (q.ready.getLast?, { q with ready := q.ready.dropLast })

/-- Take every entry of a job off the ready list, and count them. -/
def remove (q : LeaseQueue) (id : JobId) : Nat × LeaseQueue :=
  (q.ready.count id, { q with ready := q.ready.filter (· ≠ id) })

/-- The ready list has an entry of the job. -/
def contains (q : LeaseQueue) (id : JobId) : Bool := id ∈ q.ready

/-- The lease on a job that has not lapsed. -/
def liveLease? (q : LeaseQueue) (id : JobId) (now : Time) : Option Lease :=
  (q.leases.get? id).filter fun lease => now < lease.expiresAt

/-- The worker that holds a job, as far as anybody can tell. -/
def holder? (q : LeaseQueue) (id : JobId) (now : Time) : Option WorkerId :=
  if q.closed then none else (q.liveLease? id now).map (·.holder)

/-- The clock has an instant. -/
def reaches (q : LeaseQueue) (t : Time) : Bool := t < q.clockEnd

/-- A lease on a job would be granted, but the clock does not have its end. -/
def overruns (q : LeaseQueue) (id : JobId) (now : Time) : Bool :=
  (q.liveLease? id now).isNone && !q.reaches (now + q.ttl)

/-- Take the lease on a job, unless somebody holds it; the clock has the end of the lease. -/
def acquire (q : LeaseQueue) (id : JobId) (worker : WorkerId) (now : Time) : Bool × LeaseQueue :=
  if (q.liveLease? id now).isSome then (false, q)
  else (true, { q with leases := q.leases.set id ⟨worker, now + q.ttl⟩ })

/-- Give the lease on a job back, whoever holds it. -/
def release (q : LeaseQueue) (id : JobId) : LeaseQueue :=
  { q with leases := q.leases.erase id }

end LeaseQueue

end Dispatch
