import Dispatch.Error
import Dispatch.Text.Quoted

/-!
# The life of a job

A job waits, runs, and ends in one of five ways; an operator may send a job that did not succeed
back to waiting.  The names are the ones that listings, queries and tables use.
-/

namespace Dispatch

/-- Where a job is in its life. -/
inductive JobStatus where
  | queued
  | running
  | succeeded
  | failed
  | retryScheduled
  | dlq
  | cancelled
deriving DecidableEq, Repr, Inhabited

namespace JobStatus

/-- Every status, in the order of a job's life. -/
def all : List JobStatus :=
  [queued, running, succeeded, failed, retryScheduled, dlq, cancelled]

/-- The name of a status. -/
def text : JobStatus → String
  | queued => "queued"
  | running => "running"
  | succeeded => "succeeded"
  | failed => "failed"
  | retryScheduled => "retry_scheduled"
  | dlq => "dlq"
  | cancelled => "cancelled"

/-- The status of a name. -/
def ofText? (s : String) : Option JobStatus := all.find? (·.text = s)

/-- The status of a name, or a complaint that quotes it. -/
def parse (s : String) : Except JobError JobStatus :=
  match ofText? s with
  | some status => .ok status
  | none => .error (.validation ("unknown job status: " ++ Text.quoted s))

/-- The position in the order of `all`. -/
def rank : JobStatus → Nat
  | queued => 0
  | running => 1
  | succeeded => 2
  | failed => 3
  | retryScheduled => 4
  | dlq => 5
  | cancelled => 6

/-- Nothing happens to the job by itself any more. -/
def isTerminal : JobStatus → Bool
  | queued | running => false
  | _ => true

/-- An operator may cancel the job. -/
def isCancellable : JobStatus → Bool
  | queued | running | retryScheduled => true
  | _ => false

/-- An operator may send the job back to waiting. -/
def isRetryable : JobStatus → Bool
  | failed | retryScheduled | dlq | cancelled => true
  | _ => false

theorem ofText?_text (s : JobStatus) : ofText? s.text = some s := by
  cases s <;> decide

end JobStatus

/-- Why an execution did not succeed. -/
inductive FailureCode where
  /-- The provider did not answer in time. -/
  | providerTimeout
  /-- The provider answered that it failed. -/
  | providerError
  /-- An operator cancelled the job. -/
  | cancelled
  /-- The worker fell silent. -/
  | workerLost
deriving DecidableEq, Repr

namespace FailureCode

/-- Every code. -/
def all : List FailureCode := [providerTimeout, providerError, cancelled, workerLost]

/-- The name of a code. -/
def text : FailureCode → String
  | providerTimeout => "PROVIDER_TIMEOUT"
  | providerError => "PROVIDER_ERROR"
  | cancelled => "CANCELLED"
  | workerLost => "WORKER_LOST"

/-- The code of a name. -/
def ofText? (s : String) : Option FailureCode := all.find? (·.text = s)

/-- The code of a name, or a complaint that quotes it. -/
def parse (s : String) : Except JobError FailureCode :=
  match ofText? s with
  | some code => .ok code
  | none => .error (.validation ("unknown error code: " ++ Text.quoted s))

theorem ofText?_text (c : FailureCode) : ofText? c.text = some c := by
  cases c <;> decide

end FailureCode

end Dispatch
