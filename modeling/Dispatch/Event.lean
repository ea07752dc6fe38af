import Dispatch.Id
import Dispatch.Time.Timestamp

/-!
# The event log

Everything that happens to a job leaves an entry in one log.  Entries carry a tag; the seven tags
that the store writes are the kinds, and readers accept any other.
-/

namespace Dispatch

/-- What the store records. -/
inductive EventKind where
  | created
  | started
  | succeeded
  | failed
  | cancelled
  | retryScheduled
  | requeued
deriving DecidableEq, Repr

namespace EventKind

/-- Every kind, in the order of a job's life. -/
def all : List EventKind :=
  [created, started, succeeded, failed, cancelled, retryScheduled, requeued]

/-- The tag of a kind. -/
def tag : EventKind → String
  | created => "job.created"
  | started => "job.started"
  | succeeded => "job.succeeded"
  | failed => "job.failed"
  | cancelled => "job.cancelled"
  | retryScheduled => "job.retry_scheduled"
  | requeued => "job.requeued"

end EventKind

/-- An entry of the log. -/
structure Event where
  id : Int
  tag : String
  job : Option JobId := none
  worker : Option WorkerId := none
  /-- A note for people. -/
  details : String
  createdAt : Timestamp
deriving DecidableEq, Repr

/-- The entry is of the given kind. -/
def Event.is (e : Event) (kind : EventKind) : Bool := e.tag = kind.tag

end Dispatch
