import Dispatch.Attempt
import Dispatch.Event
import Dispatch.Job.Filter
import Dispatch.Postgres.Schema
import Dispatch.Postgres.Value
import Dispatch.Worker.Heartbeat

/-!
# Statements

Everything that is ever sent to the database, as data: what a statement is for, its text, its
parameters in the order of the placeholders, the columns of its result, and the name under which
its failures are reported.  Transitions are guarded by the status a job must have, so the database
picks one winner among those who try.
-/

namespace Dispatch.Postgres

/-- How an attempt is finalized. -/
inductive Ending where
  | succeeded (usage : Usage)
  | failed (code : FailureCode) (message : String)
deriving DecidableEq, Repr

/-- A statement with its arguments. -/
inductive Statement where
  | begin_
  | commit
  | rollback
  | createSchema
  | ping
  | insertJob (draft : Draft) (ids : FreshIds)
  | findByKey (tenant key : String)
  | selectJob (id : JobId)
  | selectLatestAttempt (id : JobId)
  | listJobs (filter : Filter)
  | startJob (id : JobId)
  | openAttempt (id : JobId) (attempt : Int)
  | succeedJob (id : JobId) (attempt : Int)
  | failJob (id : JobId) (attempt : Int) (code : FailureCode) (message : String)
  | finalizeAttempt (id : JobId) (attempt : Int) (ending : Ending)
  /-- The attempt that should have been open was never recorded. -/
  | insertMissingAttempt (id : JobId) (attempt : Int) (ending : Ending)
  | cancelJob (id : JobId) (reason : String)
  | cancelAttempt (id : JobId) (attempt : Int) (reason : String)
  | retryJob (id : JobId)
  | insertEvent (kind : EventKind) (id : JobId) (worker : Option WorkerId) (details : String)
  | upsertWorker (worker : WorkerId) (state : WorkerState) (running : Option JobId)
      (concurrency : Int)
  | listWorkers
  | listEvents (id : JobId) (limit : Nat)
  | countJobs
  | requeueOrphaned (staleAfter : Span) (note : String)
deriving Repr

namespace Statement

/-! ## Columns -/

/-- The columns of a job. -/
def jobColumns : List Column :=
  [⟨"id", .uuid⟩, ⟨"tenant_id", .text⟩, ⟨"status", .text⟩, ⟨"priority", .int4⟩, ⟨"model", .text⟩,
    ⟨"payload", .jsonb⟩, ⟨"idempotency_key", .text⟩, ⟨"attempt", .int4⟩,
    ⟨"max_attempts", .int4⟩, ⟨"created_at", .timestamptz⟩, ⟨"started_at", .timestamptz⟩,
    ⟨"finished_at", .timestamptz⟩, ⟨"error_code", .text⟩, ⟨"error_message", .text⟩,
    ⟨"trace_id", .uuid⟩]

/-- The columns of an attempt. -/
def attemptColumns : List Column :=
  [⟨"job_id", .uuid⟩, ⟨"attempt", .int4⟩, ⟨"started_at", .timestamptz⟩,
    ⟨"finished_at", .timestamptz⟩, ⟨"success", .bool⟩, ⟨"error_code", .text⟩,
    ⟨"error_message", .text⟩, ⟨"tokens", .int8⟩, ⟨"cost_usd", .float8⟩,
    ⟨"provider_meta", .jsonb⟩]

/-- The columns of an event. -/
def eventColumns : List Column :=
  [⟨"id", .int8⟩, ⟨"event_type", .text⟩, ⟨"job_id", .uuid⟩, ⟨"worker_id", .text⟩,
    ⟨"details", .text⟩, ⟨"created_at", .timestamptz⟩]

/-- The columns of a heartbeat. -/
def workerColumns : List Column :=
  [⟨"worker_id", .text⟩, ⟨"last_heartbeat_at", .timestamptz⟩, ⟨"state", .text⟩,
    ⟨"running_job_id", .uuid⟩, ⟨"concurrency", .int4⟩]

/-- The columns of the count of jobs by status. -/
def countColumns : List Column := [⟨"status", .text⟩, ⟨"count", .int8⟩]

/-- The columns of the result, none for a statement that returns no rows. -/
def columns : Statement → List Column
  | insertJob _ _ | findByKey _ _ | selectJob _ | listJobs _ | startJob _ | cancelJob _ _
  | retryJob _ | requeueOrphaned _ _ => jobColumns
  | selectLatestAttempt _ => attemptColumns
  | listWorkers => workerColumns
  | listEvents _ _ => eventColumns
  | countJobs => countColumns
  | ping => [⟨"?column?", .int4⟩]
  | _ => []

/-- Names with commas between them. -/
def names (cs : List Column) : String := String.intercalate ", " (cs.map (·.name))

/-! ## Text -/

def insertJobText : String :=
  "INSERT INTO jobs ( id, tenant_id, status, priority, model, payload, idempotency_key, " ++
  "attempt, max_attempts, created_at, trace_id ) " ++
  "VALUES ($1, $2, 'queued', $3, $4, $5, $6, 0, $7, now(), $8) " ++
  "ON CONFLICT (tenant_id, idempotency_key) DO NOTHING RETURNING " ++ names jobColumns

def listJobsText (oldestFirst : Bool) : String :=
  let past := if oldestFirst then ">" else "<"
  let direction := if oldestFirst then "ASC" else "DESC"
  "SELECT " ++ names jobColumns ++ " FROM jobs WHERE ($1::text IS NULL OR status = $1) " ++
  "AND ($2::text IS NULL OR tenant_id = $2) AND ($3::text IS NULL OR model = $3) " ++
  "AND ($4::timestamptz IS NULL OR created_at < $4) " ++
  "AND ($5::timestamptz IS NULL OR (created_at, id) " ++ past ++ " ($5, $6::uuid)) " ++
  "ORDER BY created_at " ++ direction ++ ", id " ++ direction ++ " LIMIT $7"

def startJobText : String :=
  "UPDATE jobs SET status = 'running', started_at = now(), finished_at = NULL, " ++
  "attempt = attempt + 1, error_code = NULL, error_message = NULL " ++
  "WHERE id = $1 AND status = 'queued' RETURNING " ++ names jobColumns

def openAttemptText : String :=
  "INSERT INTO job_attempts (job_id, attempt, started_at) VALUES ($1, $2, now()) " ++
  "ON CONFLICT (job_id, attempt) DO UPDATE SET started_at = excluded.started_at, " ++
  "finished_at = NULL, success = NULL, error_code = NULL, error_message = NULL, tokens = 0, " ++
  "cost_usd = 0, provider_meta = '\x7b\x7d'::jsonb"

def succeedJobText : String :=
  "UPDATE jobs SET status = 'succeeded', finished_at = now(), error_code = NULL, " ++
  "error_message = NULL WHERE id = $1 AND status = 'running' AND attempt = $2"

def failJobText : String :=
  "UPDATE jobs SET status = 'failed', finished_at = now(), error_code = $3, " ++
  "error_message = $4 WHERE id = $1 AND status = 'running' AND attempt = $2"

def finalizeAttemptText : String :=
  "UPDATE job_attempts SET finished_at = now(), success = $3, error_code = $4, " ++
  "error_message = $5, tokens = $6, cost_usd = $7, provider_meta = $8 " ++
  "WHERE job_id = $1 AND attempt = $2 AND finished_at IS NULL"

def insertMissingAttemptText : String :=
  "INSERT INTO job_attempts ( " ++ names attemptColumns ++ " ) " ++
  "VALUES ($1, $2, now(), now(), $3, $4, $5, $6, $7, $8) " ++
  "ON CONFLICT (job_id, attempt) DO NOTHING"

def cancelJobText : String :=
  "UPDATE jobs SET status = 'cancelled', finished_at = now(), error_code = $2, " ++
  "error_message = $3 WHERE id = $1 AND status IN ('queued', 'running', 'retry_scheduled') " ++
  "RETURNING " ++ names jobColumns

def cancelAttemptText : String :=
  "UPDATE job_attempts SET finished_at = now(), success = false, error_code = $3, " ++
  "error_message = $4 WHERE job_id = $1 AND attempt = $2 AND finished_at IS NULL"

def retryJobText : String :=
  "UPDATE jobs SET status = 'queued', finished_at = NULL, error_code = NULL, " ++
  "error_message = NULL WHERE id = $1 " ++
  "AND status IN ('failed', 'retry_scheduled', 'dlq', 'cancelled') RETURNING " ++ names jobColumns

def insertEventText : String :=
  "INSERT INTO events (event_type, job_id, worker_id, details, created_at) " ++
  "VALUES ($1, $2, $3, $4, now())"

def upsertWorkerText : String :=
  "INSERT INTO workers (worker_id, last_heartbeat_at, state, running_job_id, concurrency) " ++
  "VALUES ($1, now(), $2, $3, $4) ON CONFLICT (worker_id) DO UPDATE " ++
  "SET last_heartbeat_at = excluded.last_heartbeat_at, state = excluded.state, " ++
  "running_job_id = excluded.running_job_id, concurrency = excluded.concurrency"

def requeueOrphanedText : String :=
  "WITH orphaned AS ( SELECT j.id AS orphan_id FROM jobs j WHERE j.status = 'running' " ++
  "AND j.started_at <= now() - make_interval(secs => $1) AND NOT EXISTS ( " ++
  "SELECT 1 FROM workers w WHERE w.running_job_id = j.id " ++
  "AND w.last_heartbeat_at > now() - make_interval(secs => $1) ) " ++
  "ORDER BY j.id FOR UPDATE OF j SKIP LOCKED ) " ++
  "UPDATE jobs SET status = 'queued', finished_at = NULL, error_code = $2, " ++
  "error_message = $3 FROM orphaned WHERE jobs.id = orphaned.orphan_id " ++
  "AND jobs.status = 'running' RETURNING " ++ names jobColumns

/-- The text that is sent. -/
def text : Statement → String
  | begin_ => "BEGIN"
  | commit => "COMMIT"
  | rollback => "ROLLBACK"
  | createSchema => schema
  | ping => "SELECT 1"
  | insertJob _ _ => insertJobText
  | findByKey _ _ =>
    "SELECT " ++ names jobColumns ++ " FROM jobs WHERE tenant_id = $1 AND idempotency_key = $2"
  | selectJob _ => "SELECT " ++ names jobColumns ++ " FROM jobs WHERE id = $1"
  | selectLatestAttempt _ =>
    "SELECT " ++ names attemptColumns ++
    " FROM job_attempts WHERE job_id = $1 ORDER BY attempt DESC LIMIT 1"
  | listJobs filter => listJobsText filter.oldestFirst
  | startJob _ => startJobText
  | openAttempt _ _ => openAttemptText
  | succeedJob _ _ => succeedJobText
  | failJob _ _ _ _ => failJobText
  | finalizeAttempt _ _ _ => finalizeAttemptText
  | insertMissingAttempt _ _ _ => insertMissingAttemptText
  | cancelJob _ _ => cancelJobText
  | cancelAttempt _ _ _ => cancelAttemptText
  | retryJob _ => retryJobText
  | insertEvent _ _ _ _ => insertEventText
  | upsertWorker _ _ _ _ => upsertWorkerText
  | listWorkers => "SELECT " ++ names workerColumns ++ " FROM workers ORDER BY worker_id ASC"
  | listEvents _ _ =>
    "SELECT " ++ names eventColumns ++ " FROM events WHERE job_id = $1 ORDER BY id ASC LIMIT $2"
  | countJobs => "SELECT status, COUNT(*) AS count FROM jobs GROUP BY status"
  | requeueOrphaned _ _ => requeueOrphanedText

/-! ## Parameters -/

def ofId (id : JobId) : Param := some (.uuid id.uuid)
def ofText (s : String) : Param := some (.text s)
def ofInt (i : Int) : Param := some (.int i)
def ofCode (c : FailureCode) : Param := ofText c.text

/-- A limit, cut to what the server can count to. -/
def ofLimit (n : Nat) : Param := ofInt (min n Numeral.maxSigned)

/-- The ending of an attempt as the row that records it. -/
def ofEnding : Ending → List Param
  | .succeeded u => [some (.bool true), none, none, ofInt u.tokens, some (.float u.cost),
      some (.json u.providerMeta)]
  | .failed code message => [some (.bool false), ofCode code, ofText message, ofInt 0,
      some (.float .zero), some (.json Json.empty)]

/-- The parameters, in the order of the placeholders. -/
def params : Statement → List Param
  | begin_ | commit | rollback | createSchema | ping | listWorkers | countJobs => []
  | insertJob d ids => [ofId ids.job, ofText d.tenant, ofInt d.priority, ofText d.model,
      some (.json d.payload), .ofOption .text d.idempotencyKey, ofInt d.maxAttempts,
      some (.uuid ids.trace.uuid)]
  | findByKey tenant key => [ofText tenant, ofText key]
  | selectJob id | selectLatestAttempt id | startJob id | retryJob id => [ofId id]
  | listJobs f => [.ofOption (fun s : JobStatus => .text s.text) f.status,
      .ofOption .text f.tenant, .ofOption .text f.model, .ofOption Param.ofTime f.createdBefore,
      .ofOption (fun k : ListKey => Param.ofTime k.createdAt) f.after,
      .ofOption (fun k : ListKey => .uuid k.id.uuid) f.after, ofLimit f.limit]
  | openAttempt id attempt | succeedJob id attempt => [ofId id, ofInt attempt]
  | failJob id attempt code message => [ofId id, ofInt attempt, ofCode code, ofText message]
  | finalizeAttempt id attempt ending | insertMissingAttempt id attempt ending =>
    ofId id :: ofInt attempt :: ofEnding ending
  | cancelJob id reason => [ofId id, ofCode .cancelled, ofText reason]
  | cancelAttempt id attempt reason =>
    [ofId id, ofInt attempt, ofCode .cancelled, ofText reason]
  | insertEvent kind id worker details =>
    [ofText kind.tag, ofId id, .ofOption (fun w : WorkerId => .text w.text) worker, ofText details]
  | upsertWorker worker state running concurrency =>
    [ofText worker.text, ofText state.text, .ofOption (fun j : JobId => .uuid j.uuid) running,
      ofInt concurrency]
  | listEvents id limit => [ofId id, ofLimit limit]
  | requeueOrphaned staleAfter note =>
    [some (.float staleAfter.seconds), ofCode .workerLost, ofText note]

/-! ## Reports -/

/-- The name under which failures of a statement are reported. -/
def operation : Statement → String
  | begin_ => "begin_transaction"
  | commit => "commit_transaction"
  | rollback => "rollback_transaction"
  | createSchema => "migrate"
  | ping => "ping"
  | insertJob _ _ => "insert_job"
  | findByKey _ _ => "find_by_idempotency_key"
  | selectJob _ => "get_job"
  | selectLatestAttempt _ => "get_latest_attempt"
  | listJobs _ => "list_jobs"
  | startJob _ => "mark_running"
  | openAttempt _ _ => "open_attempt"
  | succeedJob _ _ => "mark_succeeded"
  | failJob _ _ _ _ => "mark_failed"
  | finalizeAttempt _ _ _ => "finalize_attempt"
  | insertMissingAttempt _ _ _ => "insert_missing_attempt"
  | cancelJob _ _ => "cancel_job"
  | cancelAttempt _ _ _ => "cancel_attempt"
  | retryJob _ => "retry_job"
  | insertEvent _ _ _ _ => "insert_event"
  | upsertWorker _ _ _ _ => "upsert_worker_heartbeat"
  | listWorkers => "list_workers"
  | listEvents _ _ => "list_events"
  | countJobs => "job_stats"
  | requeueOrphaned _ _ => "requeue_orphaned"

end Statement

end Dispatch.Postgres
