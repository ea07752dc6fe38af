import Dispatch.Store.Basic

/-!
# Calls to the store

What the service, the workers and the reconciler ask of a store, as data, together with the type of
the answer to each call.  The store in memory is one answerer of these calls; nothing above the
store knows which one it talks to.
-/

namespace Dispatch

/-- What a call may draw on besides its arguments: the time it is made at, and the identities that
a job created by it would get. -/
structure Moment where
  now : Time
  fresh : FreshIds
deriving Repr, Inhabited

/-- A request to a store. -/
inductive StoreCall where
  | create (draft : Draft)
  | get (id : JobId)
  | list (filter : Filter)
  | start (id : JobId) (worker : WorkerId)
  | succeed (id : JobId) (attempt : Int) (worker : WorkerId) (usage : Usage)
  | fail (id : JobId) (attempt : Int) (worker : WorkerId) (code : FailureCode) (message : String)
  | cancel (id : JobId) (reason : String)
  | retry (id : JobId)
  | beat (worker : WorkerId) (state : WorkerState) (running : Option JobId) (concurrency : Int)
  | listWorkers
  | listEvents (id : JobId) (limit : Nat)
  | tally
  | requeueOrphaned (staleAfter : Span)
  | ping
deriving Repr

namespace StoreCall

/-- What a call brings when it succeeds. -/
def Value : StoreCall → Type
  | create _ => Job × Bool
  | get _ => Job × Option Attempt
  | list _ => List Job
  | start _ _ => Option Job
  | succeed _ _ _ _ => Unit
  | fail _ _ _ _ _ => Unit
  | cancel _ _ => Job
  | retry _ => Job
  | beat _ _ _ _ => Unit
  | listWorkers => List Heartbeat
  | listEvents _ _ => List Event
  | tally => Tally
  | requeueOrphaned _ => List Job
  | ping => Unit

/-- The answer to a call. -/
abbrev Reply (c : StoreCall) : Type := Except StoreError c.Value

/-- The name under which a call is known to operators. -/
def name : StoreCall → String
  | create _ => "create_job"
  | get _ => "get_job"
  | list _ => "list_jobs"
  | start _ _ => "mark_running"
  | succeed _ _ _ _ => "mark_succeeded"
  | fail _ _ _ _ _ => "mark_failed"
  | cancel _ _ => "cancel_job"
  | retry _ => "retry_job"
  | beat _ _ _ _ => "upsert_worker_heartbeat"
  | listWorkers => "list_workers"
  | listEvents _ _ => "list_events"
  | tally => "job_stats"
  | requeueOrphaned _ => "requeue_orphaned"
  | ping => "ping"

end StoreCall

namespace Store

/-- The answer of an operation that keeps the store when it fails. -/
def settle {α : Type} (s : Store) : Outcome α → Except StoreError α × Store
  | .ok (a, next) => (.ok a, next)
  | .error e => (.error e, s)

/-- Answer a call. -/
def perform (s : Store) (m : Moment) : (c : StoreCall) → c.Reply × Store
  | .create draft => s.settle (s.create draft m.fresh m.now)
  | .get id => (s.get id, s)
  | .list filter => (s.list filter, s)
  | .start id worker => let (job, next) := s.start id worker m.now; (.ok job, next)
  | .succeed id attempt worker usage => s.settle (s.succeed id attempt worker usage m.now)
  | .fail id attempt worker code message =>
    s.settle (s.fail id attempt worker code message m.now)
  | .cancel id reason => s.settle (s.cancel id reason m.now)
  | .retry id => s.settle (s.retry id m.now)
  | .beat worker state running concurrency =>
    (.ok (), s.beat worker state running concurrency m.now)
  | .listWorkers => (.ok s.listWorkers, s)
  | .listEvents id limit => (s.listEvents id limit, s)
  | .tally => (.ok s.tally, s)
  | .requeueOrphaned staleAfter =>
    let (jobs, next) := s.requeueOrphaned staleAfter m.now
    (.ok jobs, next)
  | .ping => (.ok (), s)

end Store

end Dispatch
