import Dispatch.Attempt
import Dispatch.Job.Draft

/-!
# Jobs

The row that the store keeps for a job, the row together with its latest attempt, and the number
of jobs per status.
-/

namespace Dispatch

/-- A job in the store. -/
structure Job where
  id : JobId
  tenant : String
  status : JobStatus
  priority : Int
  model : String
  payload : Json
  idempotencyKey : Option String := none
  /-- Executions started so far. -/
  attempt : Int
  maxAttempts : Int
  createdAt : Timestamp
  startedAt : Option Timestamp := none
  finishedAt : Option Timestamp := none
  errorCode : Option FailureCode := none
  errorMessage : Option String := none
  trace : TraceId
deriving DecidableEq, Repr

/-- The identities a new job is given. -/
structure FreshIds where
  job : JobId
  trace : TraceId
deriving DecidableEq, Repr, Inhabited

/-- The identities of the `n`-th job, `n` counting from one, created in a given millisecond. -/
def FreshIds.numbered (millis n : Nat) : FreshIds :=
  ⟨⟨.timeOrdered millis (2 * n)⟩, ⟨.timeOrdered millis (2 * n + 1)⟩⟩

/-- The waiting job that a draft asks for. -/
def Job.queued (draft : Draft) (ids : FreshIds) (now : Time) : Job :=
  let d := draft.normalized
  { id := ids.job
    tenant := d.tenant
    status := .queued
    priority := d.priority
    model := d.model
    payload := d.payload
    idempotencyKey := d.idempotencyKey
    attempt := 0
    maxAttempts := d.maxAttempts
    createdAt := now
    trace := ids.trace }

/-- The job without its error. -/
def Job.clearError (j : Job) : Job :=
  { j with errorCode := none, errorMessage := none }

/-! ## Turns of a job's life -/

/-- The job at the start of its next attempt. -/
def Job.begun (j : Job) (now : Time) : Job :=
  { j.clearError with
    status := .running, startedAt := some now, finishedAt := none, attempt := j.attempt + 1 }

/-- The job after an attempt that ended well. -/
def Job.completed (j : Job) (now : Time) : Job :=
  { j.clearError with status := .succeeded, finishedAt := some now }

/-- The job after an attempt that ended badly. -/
def Job.broken (j : Job) (code : FailureCode) (message : String) (now : Time) : Job :=
  { j with
    status := .failed, finishedAt := some now, errorCode := some code
    errorMessage := some message }

/-- The job after an operator gave it up. -/
def Job.withdrawn (j : Job) (reason : String) (now : Time) : Job :=
  { j with
    status := .cancelled, finishedAt := some now, errorCode := some .cancelled
    errorMessage := some reason }

/-- The job that an operator sent back to waiting. -/
def Job.renewed (j : Job) : Job :=
  { j.clearError with status := .queued, finishedAt := none }

/-- A job and its latest attempt. -/
structure Snapshot where
  job : Job
  latest : Option Attempt := none
deriving DecidableEq, Repr

/-- How many jobs there are in each status. -/
structure Tally where
  queued : Nat := 0
  running : Nat := 0
  succeeded : Nat := 0
  failed : Nat := 0
  retryScheduled : Nat := 0
  dlq : Nat := 0
  cancelled : Nat := 0
deriving DecidableEq, Repr

namespace Tally

/-- Count further jobs. -/
def record (t : Tally) (status : JobStatus) (count : Nat) : Tally :=
  match status with
  | .queued => { t with queued := t.queued + count }
  | .running => { t with running := t.running + count }
  | .succeeded => { t with succeeded := t.succeeded + count }
  | .failed => { t with failed := t.failed + count }
  | .retryScheduled => { t with retryScheduled := t.retryScheduled + count }
  | .dlq => { t with dlq := t.dlq + count }
  | .cancelled => { t with cancelled := t.cancelled + count }

/-- The number of all jobs. -/
def total (t : Tally) : Nat :=
  t.queued + t.running + t.succeeded + t.failed + t.retryScheduled + t.dlq + t.cancelled

end Tally

end Dispatch
