/-!
# The schema

The tables as a script that may be run at every start.
-/

namespace Dispatch.Postgres

/-- The jobs, one idempotency key per tenant; keys that are `NULL` are distinct. -/
def jobsTable : String :=
  "CREATE TABLE IF NOT EXISTS jobs ( id UUID PRIMARY KEY, tenant_id TEXT NOT NULL, " ++
  "status TEXT NOT NULL CHECK (status IN ( 'queued', 'running', 'succeeded', 'failed', " ++
  "'retry_scheduled', 'dlq', 'cancelled')), priority INTEGER NOT NULL CHECK (priority > 0), " ++
  "model TEXT NOT NULL, payload JSONB NOT NULL DEFAULT '\x7b\x7d'::jsonb, " ++
  "idempotency_key TEXT, attempt INTEGER NOT NULL DEFAULT 0 CHECK (attempt >= 0), " ++
  "max_attempts INTEGER NOT NULL CHECK (max_attempts > 0), " ++
  "created_at TIMESTAMPTZ NOT NULL DEFAULT now(), started_at TIMESTAMPTZ, " ++
  "finished_at TIMESTAMPTZ, error_code TEXT, error_message TEXT, trace_id UUID NOT NULL, " ++
  "CONSTRAINT jobs_tenant_idempotency_key UNIQUE (tenant_id, idempotency_key) );"

/-- The orders in which jobs are listed. -/
def jobsIndexes : String :=
  "CREATE INDEX IF NOT EXISTS jobs_status_created_idx ON jobs (status, created_at); " ++
  "CREATE INDEX IF NOT EXISTS jobs_created_idx ON jobs (created_at DESC, id DESC);"

/-- The attempts, numbered per job. -/
def attemptsTable : String :=
  "CREATE TABLE IF NOT EXISTS job_attempts ( " ++
  "job_id UUID NOT NULL REFERENCES jobs (id) ON DELETE CASCADE, " ++
  "attempt INTEGER NOT NULL CHECK (attempt > 0), started_at TIMESTAMPTZ NOT NULL, " ++
  "finished_at TIMESTAMPTZ, success BOOLEAN, error_code TEXT, error_message TEXT, " ++
  "tokens BIGINT NOT NULL DEFAULT 0, cost_usd DOUBLE PRECISION NOT NULL DEFAULT 0, " ++
  "provider_meta JSONB NOT NULL DEFAULT '\x7b\x7d'::jsonb, PRIMARY KEY (job_id, attempt) );"

/-- The log, numbered by the server. -/
def eventsTable : String :=
  "CREATE TABLE IF NOT EXISTS events ( id BIGSERIAL PRIMARY KEY, event_type TEXT NOT NULL, " ++
  "job_id UUID, worker_id TEXT, details TEXT NOT NULL DEFAULT '', " ++
  "created_at TIMESTAMPTZ NOT NULL DEFAULT now() ); " ++
  "CREATE INDEX IF NOT EXISTS events_job_idx ON events (job_id, id);"

/-- The last report of every worker. -/
def workersTable : String :=
  "CREATE TABLE IF NOT EXISTS workers ( worker_id TEXT PRIMARY KEY, " ++
  "last_heartbeat_at TIMESTAMPTZ NOT NULL, " ++
  "state TEXT NOT NULL CHECK (state IN ('idle', 'busy')), running_job_id UUID, " ++
  "concurrency INTEGER NOT NULL DEFAULT 1 );"

/-- The whole script. -/
def schema : String :=
  String.intercalate " " [jobsTable, jobsIndexes, attemptsTable, eventsTable, workersTable]

end Dispatch.Postgres
