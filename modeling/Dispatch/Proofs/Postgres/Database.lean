import Dispatch.Postgres.Store
import Dispatch.Proofs.Postgres.Rows
import Dispatch.Proofs.Time.Seconds

/-!
# A database that does what statements mean

The tables as lists of rows, and what every statement does to them by the meaning that its text has
in the language of statements.  Values are kept as they were given: a time keeps its nanoseconds,
and numbers have no greatest one.  An interval is as long as the binary64 number of seconds that it
is made of, neither more nor less; it is all that the server gets to know of the span that was
meant.  Statements run one after the other; between `BEGIN` and its `COMMIT` or `ROLLBACK` they work
on a copy of the tables.

What the language leaves open is left open: in which order an update returns rows, and which number
an event gets next.
-/

namespace Dispatch.Postgres

/-- The contents of the tables, oldest rows first. -/
structure Database where
  jobs : List JobRow := []
  attempts : List AttemptRow := []
  events : List EventRow := []
  workers : List WorkerRow := []
deriving Repr

/-- What a server is free to choose. -/
structure Leeway where
  /-- The order in which changed rows are returned. -/
  order : List JobRow → List JobRow
  order_perm : ∀ rows, (order rows).Perm rows
  /-- The number of the next event. -/
  serial : List EventRow → Int
  serial_gt : ∀ events, ∀ e ∈ events, e.id < serial events

/-! ## Changes of a table -/

section Tables

variable {ρ : Type}

/-- The rows that are selected, as they are set. -/
def changed (selected : ρ → Bool) (set : ρ → ρ) (rows : List ρ) : List ρ :=
  (rows.filter selected).map set

/-- All rows, the selected ones as they are set. -/
def updated (selected : ρ → Bool) (set : ρ → ρ) (rows : List ρ) : List ρ :=
  rows.map fun r => if selected r then set r else r

/-- All rows and a new one, unless it is the same as some that are there, which are set instead. -/
def upserted (same : ρ → Bool) (set : ρ → ρ) (new : ρ) (rows : List ρ) : List ρ :=
  if rows.any same then updated same set rows else rows ++ [new]

end Tables

/-! ## Rows as they are inserted and set -/

/-! ### Jobs -/

namespace JobRow

variable (now : Time) (r : JobRow)

/-- The row that a job is inserted as. -/
def inserted (d : Draft) (ids : FreshIds) : JobRow :=
  { id := ids.job, tenant := d.tenant, status := .queued, priority := d.priority, model := d.model
    payload := d.payload, key := d.idempotencyKey, attempt := 0, maxAttempts := d.maxAttempts
    createdAt := now, startedAt := none, finishedAt := none, errorCode := none
    errorMessage := none, trace := ids.trace }

/-- The row is a given job's, with one of some statuses. -/
def isAmong (id : JobId) (statuses : List JobStatus) : Bool := r.id = id && r.status ∈ statuses

/-- The row is a given job's, which runs a given attempt. -/
def isRunning (id : JobId) (attempt : Int) : Bool :=
  r.id = id && r.status = .running && r.attempt = attempt

def started : JobRow :=
  { r with
    status := .running, startedAt := some now, finishedAt := none, attempt := r.attempt + 1
    errorCode := none, errorMessage := none }

def succeeded : JobRow :=
  { r with
    status := .succeeded, finishedAt := some now, errorCode := none, errorMessage := none }

def failed (code : FailureCode) (message : String) : JobRow :=
  { r with
    status := .failed, finishedAt := some now, errorCode := some code
    errorMessage := some message }

def cancelled (reason : String) : JobRow :=
  { r with
    status := .cancelled, finishedAt := some now, errorCode := some .cancelled
    errorMessage := some reason }

def retried : JobRow :=
  { r with status := .queued, finishedAt := none, errorCode := none, errorMessage := none }

def requeued (note : String) : JobRow :=
  { r with
    status := .queued, finishedAt := none, errorCode := some .workerLost
    errorMessage := some note }

section Job

variable (code : FailureCode) (message : String)

@[simp] theorem job_started : (r.started now).job = r.job.begun now := rfl

@[simp] theorem job_succeeded : (r.succeeded now).job = r.job.completed now := rfl

@[simp] theorem job_failed : (r.failed now code message).job = r.job.broken code message now := rfl

@[simp] theorem job_cancelled : (r.cancelled now message).job = r.job.withdrawn message now := rfl

@[simp] theorem job_retried : r.retried.job = r.job.renewed := rfl

@[simp] theorem job_requeued :
    (r.requeued Store.workerLostNote).job = Store.requeuedJob r.job := rfl

end Job

end JobRow

/-! ### Attempts -/

namespace AttemptRow

variable (now : Time) (r : AttemptRow)

/-- The row that an attempt is inserted as. -/
def opened (id : JobId) (attempt : Int) : AttemptRow :=
  { job := id, number := attempt, startedAt := now, finishedAt := none, success := none
    errorCode := none, errorMessage := none, tokens := 0, cost := .zero
    providerMeta := Json.empty }

/-- The row of an attempt that starts over. -/
def reopened : AttemptRow :=
  { r with
    startedAt := now, finishedAt := none, success := none, errorCode := none
    errorMessage := none, tokens := 0, cost := .zero, providerMeta := Json.empty }

/-- The row is that of an attempt. -/
def isOf (id : JobId) (attempt : Int) : Bool := r.job = id && r.number = attempt

/-- The row is that of an attempt, and it is not finished. -/
def isOpenOf (id : JobId) (attempt : Int) : Bool := r.isOf id attempt && r.finishedAt.isNone

def ended : Ending → AttemptRow
  | .succeeded u =>
    { r with
      finishedAt := some now, success := some true, errorCode := none, errorMessage := none
      tokens := u.tokens, cost := u.cost, providerMeta := u.providerMeta }
  | .failed code message =>
    { r with
      finishedAt := some now, success := some false, errorCode := some code
      errorMessage := some message, tokens := 0, cost := .zero, providerMeta := Json.empty }

def cancelled (reason : String) : AttemptRow :=
  { r with
    finishedAt := some now, success := some false, errorCode := some .cancelled
    errorMessage := some reason }

end AttemptRow

namespace Database

variable (leeway : Leeway) (now : Time)

/-! ## Inserting -/

/-- A constraint of a table is violated. -/
def violated (code constraint : String) : Reply :=
  .refused code ("violates constraint " ++ constraint)

/-- Insert a job, unless its tenant's key is taken. -/
def insertJob (db : Database) (d : Draft) (ids : FreshIds) : Reply × Database :=
  if d.priority ≤ 0 ∨ d.maxAttempts ≤ 0 then (violated "23514" "jobs_check", db)
  else if db.jobs.any fun r => r.tenant = d.tenant && r.key.isSome && r.key = d.idempotencyKey then
    (.rows [], db)
  else if db.jobs.any (·.id = ids.job) then (violated "23505" "jobs_pkey", db)
  else
    let row := JobRow.inserted now d ids
    (.rows [row.wire], { db with jobs := db.jobs ++ [row] })

/-- Insert an attempt, which needs a positive number and a job. -/
def insertAttempt (db : Database) (id : JobId) (attempt : Int)
    (insert : List AttemptRow → Nat × List AttemptRow) : Reply × Database :=
  if attempt ≤ 0 then (violated "23514" "job_attempts_attempt_check", db)
  else if !db.jobs.any (·.id = id) then (violated "23503" "job_attempts_job_id_fkey", db)
  else
    let (count, attempts) := insert db.attempts
    (.affected count, { db with attempts })

/-! ## Selecting -/

/-- The jobs of a page. -/
def page (f : Filter) (rows : List JobRow) : List JobRow :=
  let place (r : JobRow) : ListKey := ⟨r.createdAt, r.id⟩
  let past (a b : ListKey) : Bool := if f.oldestFirst then b.Before a else a.Before b
  let wanted (r : JobRow) : Bool :=
    f.status.all (r.status = ·) && f.tenant.all (r.tenant = ·) && f.model.all (r.model = ·) &&
      f.createdBefore.all (fun t => (r.createdAt : Timestamp) < t) &&
      f.after.all (past (place r) ·)
  ((rows.filter wanted).mergeSort fun a b => !past (place a) (place b)).take f.limit

/-- The job runs since the cutoff or longer, and no worker reported it after the cutoff. -/
def isOrphaned (db : Database) (cutoff : Time) (r : JobRow) : Bool :=
  r.status = .running && r.startedAt.any (· ≤ cutoff) &&
    !db.workers.any fun w => w.running = some r.id && cutoff < w.seenAt

/-! ## Updating -/

/-- Set the selected jobs, and return them. -/
def returning (db : Database) (selected : JobRow → Bool) (set : JobRow → JobRow) :
    Reply × Database :=
  (.rows ((leeway.order (changed selected set db.jobs)).map JobRow.wire),
    { db with jobs := updated selected set db.jobs })

/-- Set the selected jobs, and count them. -/
def updateJobs (db : Database) (selected : JobRow → Bool) (set : JobRow → JobRow) :
    Reply × Database :=
  (.affected (changed selected set db.jobs).length,
    { db with jobs := updated selected set db.jobs })

/-- Set the selected attempts, and count them. -/
def updateAttempts (db : Database) (selected : AttemptRow → Bool)
    (set : AttemptRow → AttemptRow) : Reply × Database :=
  (.affected (changed selected set db.attempts).length,
    { db with attempts := updated selected set db.attempts })

/-- The tables with one more event, about a job. -/
def logged (db : Database) (kind : EventKind) (id : JobId) (worker : Option WorkerId)
    (details : String) : Database :=
  { db with
    events := db.events ++
      [{ id := leeway.serial db.events, tag := kind.tag, job := some id, worker, details
         createdAt := now }] }

/-! ## Statements -/

/-- Answer a statement about the tables. -/
def answer (s : Statement) (db : Database) : Reply × Database :=
  match s with
  | .begin_ | .commit | .rollback | .createSchema => (.affected 0, db)
  | .ping => (.rows [spell s.columns [some (.int 1)]], db)
  | .insertJob d ids => db.insertJob now d ids
  | .findByKey tenant key =>
    (.rows ((db.jobs.filter fun r => r.tenant = tenant && r.key = some key).map JobRow.wire), db)
  | .selectJob id => (.rows ((db.jobs.filter (·.id = id)).map JobRow.wire), db)
  | .selectLatestAttempt id =>
    let rows := (db.attempts.filter (·.job = id)).mergeSort fun a b => b.number ≤ a.number
    (.rows ((rows.take 1).map AttemptRow.wire), db)
  | .listJobs f => (.rows ((page f db.jobs).map JobRow.wire), db)
  | .startJob id => db.returning leeway (·.isAmong id [.queued]) (·.started now)
  | .openAttempt id attempt =>
    db.insertAttempt id attempt fun rows =>
      (1, upserted (·.isOf id attempt) (·.reopened now) (.opened now id attempt) rows)
  | .succeedJob id attempt => db.updateJobs (·.isRunning id attempt) (·.succeeded now)
  | .failJob id attempt code message =>
    db.updateJobs (·.isRunning id attempt) (·.failed now code message)
  | .finalizeAttempt id attempt ending =>
    db.updateAttempts (·.isOpenOf id attempt) (·.ended now ending)
  | .insertMissingAttempt id attempt ending =>
    db.insertAttempt id attempt fun rows =>
      if rows.any (·.isOf id attempt) then (0, rows)
      else (1, rows ++ [(AttemptRow.opened now id attempt).ended now ending])
  | .cancelJob id reason =>
    db.returning leeway (·.isAmong id [.queued, .running, .retryScheduled])
      (·.cancelled now reason)
  | .cancelAttempt id attempt reason =>
    db.updateAttempts (·.isOpenOf id attempt) (·.cancelled now reason)
  | .retryJob id =>
    db.returning leeway (·.isAmong id [.failed, .retryScheduled, .dlq, .cancelled]) (·.retried)
  | .insertEvent kind id worker details =>
    (.affected 1, db.logged leeway now kind id worker details)
  | .upsertWorker worker state running concurrency =>
    let new : WorkerRow := { worker, seenAt := now, state, running, concurrency }
    (.affected 1, { db with
      workers := upserted (·.worker = worker)
        (fun r => { r with seenAt := now, state, running, concurrency }) new db.workers })
  | .listWorkers =>
    let rows := db.workers.mergeSort fun a b => !(b.worker.text < a.worker.text)
    (.rows (rows.map WorkerRow.wire), db)
  | .listEvents id limit =>
    let rows := (db.events.filter (·.job = some id)).mergeSort fun a b => a.id ≤ b.id
    (.rows ((rows.take limit).map EventRow.wire), db)
  | .countJobs =>
    let count (status : JobStatus) := (db.jobs.filter (·.status = status)).length
    let counted := JobStatus.all.filter fun status => count status ≠ 0
    (.rows (counted.map fun status =>
      spell s.columns [some (.text status.text), some (.int (count status))]), db)
  | .requeueOrphaned staleAfter note =>
    db.returning leeway (db.isOrphaned (now.secondsBack staleAfter.seconds)) (·.requeued note)

end Database

/-! ## Transactions -/

/-- A database and the copy of it that the open transaction works on. -/
structure Server where
  committed : Database := {}
  working : Option Database := none
deriving Repr

namespace Server

/-- Answer a statement. -/
def answer (leeway : Leeway) (now : Time) (s : Statement) (server : Server) : Reply × Server :=
  match s, server.working with
  | .begin_, _ => (.affected 0, { server with working := some server.committed })
  | .commit, some db => (.affected 0, { committed := db })
  | .commit, none => (.affected 0, server)
  | .rollback, _ => (.affected 0, { server with working := none })
  | s, some db =>
    let (r, db) := db.answer leeway now s
    (r, { server with working := some db })
  | s, none =>
    let (r, db) := server.committed.answer leeway now s
    (r, { committed := db })

/-- Answer a call to the store. -/
def perform (leeway : Leeway) (server : Server) (m : Moment) (c : StoreCall) :
    c.Reply × Server :=
  (exchange m.fresh c).run (answer leeway m.now) server

end Server

end Dispatch.Postgres
