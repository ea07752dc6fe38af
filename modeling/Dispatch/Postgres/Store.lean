import Dispatch.Postgres.Record
import Dispatch.Store.Call

/-!
# The store in the database

Every call of the store as an exchange.  A transition is one guarded update in a transaction with
the attempt's row and the event, so it lands completely or not at all.
-/

namespace Dispatch.Postgres

open Exchange

/-- Read a row, or fail. -/
def reading {α : Type} (r : Reading α) : Attempted α := done (r.mapError .row)

/-- Read the first row, if there is one. -/
def firstRow {α : Type} (read : Row → Reading α) : List Row → Attempted (Option α)
  | [] => done (.ok none)
  | row :: _ => reading ((read row).map some)

/-- Fail because there is nothing to be had. -/
def absent {α : Type} (e : StoreError) : Attempted α := done (.error (.store e))

/-- Append to the log. -/
def appendEvent (kind : EventKind) (id : JobId) (worker : Option WorkerId) (details : String) :
    Attempted Unit :=
  andThen (execute (.insertEvent kind id worker details)) fun _ => done (.ok ())

/-- Finalize an open attempt, or record it if it never was; one that is finalized stays. -/
def finalize (id : JobId) (attempt : Int) (ending : Ending) : Attempted Unit :=
  andThen (execute (.finalizeAttempt id attempt ending)) fun updated =>
    if updated = 0 then
      andThen (execute (.insertMissingAttempt id attempt ending)) fun _ => done (.ok ())
    else done (.ok ())

/-! ## Creation -/

/-- No job was inserted and no key says which one is in the way. -/
def keylessConflict (ids : FreshIds) : StoreError :=
  .conflict ("job " ++ ids.job.text ++ " conflicted without an idempotency key")

/-- The job that was in the way is gone. -/
def keyMissing (tenant key : String) : StoreError :=
  .notFound ("job for tenant " ++ tenant ++ " and key " ++ key ++ " not found")

/-- Insert a job; none if its key is taken. -/
def insert (d : Draft) (ids : FreshIds) : Attempted (Option Job) :=
  transaction <| (query (.insertJob d ids)).bind fun
    | .error f => done (.fail f)
    | .ok [] => done (.abandon none)
    | .ok (row :: _) => toCommit <|
      andThen (reading row.job) fun job =>
        andThen (appendEvent .created job.id none Store.createdNote) fun _ =>
          done (.ok (some job))

/-- Find the job that a tenant created under a key. -/
def findByKey (tenant key : String) : Attempted Job :=
  andThen (query (.findByKey tenant key)) fun
    | [] => absent (keyMissing tenant key)
    | row :: _ => reading row.job

def create (draft : Draft) (ids : FreshIds) : Attempted (Job × Bool) :=
  match draft.validate with
  | .error e => absent e.toStore
  | .ok () =>
    let d := draft.normalized
    andThen (insert d ids) fun
      | some job => done (.ok (job, false))
      | none =>
        match d.idempotencyKey with
        | none => absent (keylessConflict ids)
        | some key => andThen (findByKey d.tenant key) fun job => done (.ok (job, true))

/-! ## Look-ups -/

def get (id : JobId) : Attempted (Job × Option Attempt) :=
  andThen (query (.selectJob id)) fun
    | [] => absent (Store.missing id)
    | row :: _ =>
      andThen (reading row.job) fun job =>
        andThen (query (.selectLatestAttempt id)) fun rows =>
          andThen (firstRow Row.attempt rows) fun latest => done (.ok (job, latest))

def list (filter : Filter) : Attempted (List Job) :=
  if filter.limit = 0 then absent Store.noLimit
  else andThen (query (.listJobs filter.normalized)) fun rows => reading (rows.mapM Row.job)

def listEvents (id : JobId) (limit : Nat) : Attempted (List Event) :=
  if limit = 0 then absent Store.noLimit
  else andThen (query (.listEvents id limit)) fun rows => reading (rows.mapM Row.event)

def listWorkers : Attempted (List Heartbeat) :=
  andThen (query .listWorkers) fun rows => reading (rows.mapM Row.heartbeat)

def tally : Attempted Tally :=
  andThen (query .countJobs) fun rows =>
    reading ((rows.mapM Row.count).map fun counts =>
      counts.foldl (fun t (status, n) => t.record status n) {})

/-! ## Transitions -/

def start (id : JobId) (worker : WorkerId) : Attempted (Option Job) :=
  transaction <| (query (.startJob id)).bind fun
    | .error f => done (.fail f)
    | .ok [] => done (.abandon none)
    | .ok (row :: _) => toCommit <|
      andThen (reading row.job) fun job =>
        andThen (execute (.openAttempt id job.attempt)) fun _ =>
          andThen (appendEvent .started id (some worker) Store.startedNote) fun _ =>
            done (.ok (some job))

/-- End the running attempt of a job. -/
def settle (guard : Statement) (id : JobId) (attempt : Int) (worker : WorkerId) (ending : Ending)
    (kind : EventKind) (note : String) : Attempted Unit :=
  transaction <| toCommit <|
    andThen (execute guard) fun matched =>
      if matched = 0 then absent (Store.notRunning id attempt)
      else andThen (finalize id attempt ending) fun _ => appendEvent kind id (some worker) note

def succeed (id : JobId) (attempt : Int) (worker : WorkerId) (usage : Usage) : Attempted Unit :=
  settle (.succeedJob id attempt) id attempt worker (.succeeded usage) .succeeded
    Store.succeededNote

def fail (id : JobId) (attempt : Int) (worker : WorkerId) (code : FailureCode)
    (message : String) : Attempted Unit :=
  settle (.failJob id attempt code message) id attempt worker (.failed code message) .failed
    (Store.failedNote code)

/-- Change a job that must be in a given state. -/
def change (guard : Statement) (id : JobId) (state : String) (rest : Job → Attempted Unit) :
    Attempted Job :=
  transaction <| toCommit <|
    andThen (query guard) fun
      | [] => absent (Store.notInState id state)
      | row :: _ =>
        andThen (reading row.job) fun job => andThen (rest job) fun _ => done (.ok job)

def cancel (id : JobId) (reason : String) : Attempted Job :=
  change (.cancelJob id reason) id "cancellable" fun job =>
    andThen (execute (.cancelAttempt id job.attempt reason)) fun _ =>
      appendEvent .cancelled id none reason

def retry (id : JobId) : Attempted Job :=
  change (.retryJob id) id "retryable" fun _ =>
    appendEvent .retryScheduled id none Store.retriedNote

/-- Record what happened to the orphans, one after the other. -/
def requeueRows : List Row → Attempted (List Job)
  | [] => done (.ok [])
  | row :: rest =>
    andThen (reading row.job) fun job =>
      andThen (finalize job.id job.attempt (.failed .workerLost Store.workerLostNote)) fun _ =>
        andThen (appendEvent .requeued job.id none Store.workerLostNote) fun _ =>
          andThen (requeueRows rest) fun jobs => done (.ok (job :: jobs))

def requeueOrphaned (staleAfter : Span) : Attempted (List Job) :=
  transaction <| toCommit <|
    andThen (query (.requeueOrphaned staleAfter Store.workerLostNote)) requeueRows

/-! ## Calls -/

def beat (worker : WorkerId) (state : WorkerState) (running : Option JobId) (concurrency : Int) :
    Attempted Unit :=
  andThen (execute (.upsertWorker worker state running concurrency)) fun _ => done (.ok ())

def ping : Attempted Unit := andThen (ask .ping) fun _ => done (.ok ())

/-- Create the tables. -/
def migrate : Attempted Unit := andThen (ask .createSchema) fun _ => done (.ok ())

/-- A failure as the store reports it. -/
def reported {α : Type} (e : Attempted α) : Exchange (Except StoreError α) :=
  e.map fun
    | .ok a => .ok a
    | .error f => .error f.toStore

/-- The exchange that a call of the store is. -/
def exchange (ids : FreshIds) : (c : StoreCall) → Exchange c.Reply
  | .create draft => reported (create draft ids)
  | .get id => reported (get id)
  | .list filter => reported (list filter)
  | .start id worker => reported (start id worker)
  | .succeed id attempt worker usage => reported (succeed id attempt worker usage)
  | .fail id attempt worker code message => reported (fail id attempt worker code message)
  | .cancel id reason => reported (cancel id reason)
  | .retry id => reported (retry id)
  | .beat worker state running concurrency => reported (beat worker state running concurrency)
  | .listWorkers => reported listWorkers
  | .listEvents id limit => reported (listEvents id limit)
  | .tally => reported tally
  | .requeueOrphaned staleAfter => reported (requeueOrphaned staleAfter)
  | .ping => reported ping

end Dispatch.Postgres
