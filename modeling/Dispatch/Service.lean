import Dispatch.Script

/-!
# The job service

What callers may ask about jobs.  The store is written first and is the truth; the queue follows.
A job that could not be put on the ready list is reported, because it stays in the store and waits
for the reconciler; what else the queue fails at does not concern the caller.
-/

namespace Dispatch

/-- Whether the backends answer. -/
structure Health where
  store : Bool
  queue : Bool
deriving DecidableEq, Repr

/-- Both backends answer. -/
def Health.isHealthy (h : Health) : Bool := h.store && h.queue

/-- The call succeeded. -/
def succeeded {ε α : Type} : Except ε α → Bool
  | .ok _ => true
  | .error _ => false

namespace Service

/-- The reason recorded for a cancellation. -/
def cancelReason : String := "Cancelled by operator"

/-- A listing that asks for nothing. -/
def noLimit : JobError := .validation "limit must be a positive integer"

/-- Create a job, or find it again, and put a new one on the ready list. -/
def create (draft : Draft) : Script (Except JobError (Job × Bool)) :=
  match draft.validate with
  | .error e => .done (.error e)
  | .ok () => .askStoreFor (.create draft) fun ((job, existed) : Job × Bool) =>
    if existed then .done (.ok (job, true))
    else .queue (.enqueue job.id) fun
      | .ok _ => .done (.ok (job, false))
      | .error e => .done (.error (.transient
          ("job " ++ job.id.text ++ " stored but not enqueued: " ++ e.message)))

/-- A job with its latest attempt. -/
def get (id : JobId) : Script (Except JobError Snapshot) :=
  .askStoreFor (.get id) fun ((job, latest) : Job × Option Attempt) => .done (.ok { job, latest })

/-- A page of jobs. -/
def list (filter : Filter) : Script (Except JobError (List Job)) :=
  if filter.limit = 0 then .done (.error noLimit)
  else .askStoreFor (.list filter) fun jobs => .done (.ok jobs)

/-- Cancel a job, and tidy the queue up as far as it allows. -/
def cancel (id : JobId) : Script (Except JobError Job) :=
  .askStoreFor (.cancel id cancelReason) fun job =>
    .queue (.remove id) fun _ => .queue (.release id) fun _ => .done (.ok job)

/-- Send a job back to waiting, with exactly one entry on the ready list. -/
def retry (id : JobId) : Script (Except JobError Job) :=
  .askStoreFor (.retry id) fun job =>
    .queue (.remove id) fun _ => .queue (.enqueue id) fun
      | .ok _ => .done (.ok job)
      | .error e => .done (.error (.transient
          ("job " ++ id.text ++ " re-queued but not enqueued: " ++ e.message)))

/-- The first events of a job that exists. -/
def events (id : JobId) (limit : Nat) : Script (Except JobError (List Event)) :=
  if limit = 0 then .done (.error noLimit)
  else .askStoreFor (.get id) fun _ =>
    .askStoreFor (.listEvents id limit) fun events => .done (.ok events)

/-- The last report of every worker. -/
def workers : Script (Except JobError (List Heartbeat)) :=
  .askStoreFor .listWorkers fun hs => .done (.ok hs)

/-- The number of jobs in each status. -/
def tally : Script (Except JobError Tally) :=
  .askStoreFor .tally fun t => .done (.ok t)

/-- The number of jobs in each status, and the last report of every worker. -/
def overview : Script (Except JobError (Tally × List Heartbeat)) :=
  .askStoreFor .tally fun t => .askStoreFor .listWorkers fun hs => .done (.ok (t, hs))

/-- Whether the backends answer; both are asked. -/
def health : Script Health :=
  .store .ping fun store => .queue .ping fun queue => .done ⟨succeeded store, succeeded queue⟩

end Service

end Dispatch
