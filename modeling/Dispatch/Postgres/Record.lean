import Dispatch.Job.Basic
import Dispatch.Postgres.Exchange

/-!
# Rows as entities

A row is read column by column, and only then are the names in it looked up.
-/

namespace Dispatch.Postgres

/-- What is read off a row, or why it cannot be. -/
abbrev Reading (α : Type) : Type := Except RowFault α

/-- All cells, or none. -/
def cells {α : Type} (entity : String) (read : Option α) : Reading α :=
  match read with
  | some a => .ok a
  | none => .error (.malformed entity)

/-- The status of a name in a row. -/
def statusOf (name : String) : Reading JobStatus :=
  match JobStatus.ofText? name with
  | some s => .ok s
  | none => .error (.unknownStatus name)

/-- The code of a name in a row. -/
def codeOf (name : String) : Reading FailureCode :=
  match FailureCode.ofText? name with
  | some c => .ok c
  | none => .error (.unknownCode name)

/-- The state of a name in a row. -/
def stateOf (name : String) : Reading WorkerState :=
  match WorkerState.ofText? name with
  | some s => .ok s
  | none => .error (.unknownState name)

/-- The code of a name in a row, if there is one. -/
def optionalCodeOf : Option String → Reading (Option FailureCode)
  | none => .ok none
  | some name => (codeOf name).map some

namespace Row

/-- A job, with a placeholder for its status and code, and their names. -/
def jobCells? (r : Row) : Option (Job × String × Option String) := do
  let id ← r.required "id" uuid
  let tenant ← r.required "tenant_id" text
  let status ← r.required "status" text
  let priority ← r.required "priority" int4
  let model ← r.required "model" text
  let payload ← r.required "payload" jsonb
  let idempotencyKey ← r.optional "idempotency_key" text
  let attempt ← r.required "attempt" int4
  let maxAttempts ← r.required "max_attempts" int4
  let createdAt ← r.required "created_at" timestamptz
  let startedAt ← r.optional "started_at" timestamptz
  let finishedAt ← r.optional "finished_at" timestamptz
  let code ← r.optional "error_code" text
  let errorMessage ← r.optional "error_message" text
  let trace ← r.required "trace_id" uuid
  return ({ id := ⟨id⟩, tenant, status := .queued, priority, model, payload, idempotencyKey
            attempt, maxAttempts, createdAt, startedAt, finishedAt, errorMessage
            trace := ⟨trace⟩ }, status, code)

/-- The job of a row. -/
def job (r : Row) : Reading Job := do
  let (j, status, code) ← cells "job" r.jobCells?
  let status ← statusOf status
  let errorCode ← optionalCodeOf code
  return { j with status, errorCode }

/-- An attempt without its code, and the code's name. -/
def attemptCells? (r : Row) : Option (Attempt × Option String) := do
  let job ← r.required "job_id" uuid
  let number ← r.required "attempt" int4
  let startedAt ← r.required "started_at" timestamptz
  let finishedAt ← r.optional "finished_at" timestamptz
  let success ← r.optional "success" bool
  let code ← r.optional "error_code" text
  let errorMessage ← r.optional "error_message" text
  let tokens ← r.required "tokens" int8
  let cost ← r.required "cost_usd" float8
  let providerMeta ← r.required "provider_meta" jsonb
  return ({ job := ⟨job⟩, number, startedAt, finishedAt, success, errorMessage, tokens, cost
            providerMeta }, code)

/-- The attempt of a row. -/
def attempt (r : Row) : Reading Attempt := do
  let (a, code) ← cells "job attempt" r.attemptCells?
  return { a with errorCode := ← optionalCodeOf code }

/-- The event of a row. -/
def event (r : Row) : Reading Event :=
  cells "event" do
    return {
      id := ← r.required "id" int8
      tag := ← r.required "event_type" text
      job := (← r.optional "job_id" uuid).map (⟨·⟩)
      worker := (← r.optional "worker_id" text).map (⟨·⟩)
      details := ← r.required "details" text
      createdAt := ← r.required "created_at" timestamptz }

/-- A heartbeat, with a placeholder for its state, and the state's name. -/
def heartbeatCells? (r : Row) : Option (Heartbeat × String) := do
  let worker ← r.required "worker_id" text
  let seenAt ← r.required "last_heartbeat_at" timestamptz
  let state ← r.required "state" text
  let running ← r.optional "running_job_id" uuid
  let concurrency ← r.required "concurrency" int4
  return ({ worker := ⟨worker⟩, seenAt, state := .idle, running := running.map (⟨·⟩)
            concurrency }, state)

/-- The heartbeat of a row. -/
def heartbeat (r : Row) : Reading Heartbeat := do
  let (h, state) ← cells "worker" r.heartbeatCells?
  return { h with state := ← stateOf state }

/-- The status of a row and how many jobs it counts; no count is below zero. -/
def count (r : Row) : Reading (JobStatus × Nat) := do
  let (name, n) ← cells "stats" do return (← r.required "status" text, ← r.required "count" int8)
  return (← statusOf name, n.toNat)

end Row

end Dispatch.Postgres
