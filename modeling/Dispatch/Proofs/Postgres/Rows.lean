import Dispatch.Postgres.Record

/-!
# Rows of the tables

A row of a table has a value for every column, and `NULL` only where the schema allows it.  A
column whose names are all known keeps what they name: the schema admits no other status and no
other state of a worker, and only names of codes are ever written.  What a statement returns is
such a row spelled out cell by cell, and reading the cells gives back what the row holds
(`JobRow.job_wire` and so on).
-/

namespace Dispatch.Postgres

/-- The cells of a row under the columns of a result. -/
def spell (columns : List Column) (contents : List (Option Value)) : Row :=
  columns.zipWith (fun c content => (c.name, ⟨c.type, content⟩)) contents

namespace Row

variable {α : Type} {row : Row} {name other : String} {cell : Cell} {type : ColumnType}
  {r : Reader α}

theorem read?_cons_eq {content : Option Value} :
    read? ((name, ⟨type, content⟩) :: row) name type = some content := by
  cases content <;> simp [read?]

theorem read?_cons_ne (h : other ≠ name) :
    read? ((other, cell) :: row) name type = row.read? name type := by
  simp [read?, h]

/-- A cell that is there is read. -/
theorem required_cons_eq (ht : r.type = type) (v : Value) :
    required ((name, ⟨type, some v⟩) :: row) name r = r.ofValue? v := by
  simp [required, ht, read?_cons_eq]

theorem required_cons_ne (h : other ≠ name) :
    required ((other, cell) :: row) name r = row.required name r := by
  simp [required, read?_cons_ne h]

/-- A cell that may be `NULL` is read, too. -/
theorem optional_cons_eq {β : Type} (ht : r.type = type) {value : β → Value}
    (hv : ∀ b, (r.ofValue? (value b)).isSome = true) (b : Option β) :
    optional ((name, ⟨type, b.map value⟩) :: row) name r =
      some (b.bind fun b => r.ofValue? (value b)) := by
  cases b with
  | none => simp [optional, ht, read?_cons_eq]
  | some b =>
    obtain ⟨a, ha⟩ := Option.isSome_iff_exists.1 (hv b)
    simp [optional, ht, read?_cons_eq, ha]

/-- Reading that never fails changes what is there. -/
theorem bind_some_eq_map {β γ : Type} (f : β → γ) (b : Option β) :
    (b.bind fun b => some (f b)) = b.map f :=
  Option.map_eq_bind.symm

theorem optional_cons_ne (h : other ≠ name) :
    optional ((other, cell) :: row) name r = row.optional name r := by
  simp [optional, read?_cons_ne h]

end Row

/-- A row of `jobs`. -/
structure JobRow where
  id : JobId
  tenant : String
  status : JobStatus
  priority : Int
  model : String
  payload : Json
  key : Option String
  attempt : Int
  maxAttempts : Int
  createdAt : Time
  startedAt : Option Time
  finishedAt : Option Time
  errorCode : Option FailureCode
  errorMessage : Option String
  trace : TraceId
deriving DecidableEq, Repr

/-- A row of `job_attempts`. -/
structure AttemptRow where
  job : JobId
  number : Int
  startedAt : Time
  finishedAt : Option Time
  success : Option Bool
  errorCode : Option FailureCode
  errorMessage : Option String
  tokens : Int
  cost : Double
  providerMeta : Json
deriving DecidableEq, Repr

/-- A row of `events`. -/
structure EventRow where
  id : Int
  tag : String
  job : Option JobId
  worker : Option WorkerId
  details : String
  createdAt : Time
deriving DecidableEq, Repr

/-- A row of `workers`. -/
structure WorkerRow where
  worker : WorkerId
  seenAt : Time
  state : WorkerState
  running : Option JobId
  concurrency : Int
deriving DecidableEq, Repr

theorem statusOf_text (status : JobStatus) : statusOf status.text = .ok status := by
  rw [statusOf, JobStatus.ofText?_text]

theorem optionalCodeOf_text (code : Option FailureCode) :
    optionalCodeOf (code.map (·.text)) = .ok code := by
  cases code with
  | none => rfl
  | some c =>
    rw [Option.map_some, optionalCodeOf, codeOf, FailureCode.ofText?_text]
    rfl

/-! ## Jobs -/

namespace JobRow

/-- The job that the row holds. -/
def job (r : JobRow) : Job :=
  { id := r.id, tenant := r.tenant, status := r.status, priority := r.priority, model := r.model
    payload := r.payload, idempotencyKey := r.key, attempt := r.attempt
    maxAttempts := r.maxAttempts, createdAt := r.createdAt
    startedAt := r.startedAt.map .ofTime, finishedAt := r.finishedAt.map .ofTime
    errorCode := r.errorCode, errorMessage := r.errorMessage, trace := r.trace }

@[simp] theorem job_id (r : JobRow) : r.job.id = r.id := rfl
@[simp] theorem job_status (r : JobRow) : r.job.status = r.status := rfl
@[simp] theorem job_attempt (r : JobRow) : r.job.attempt = r.attempt := rfl

/-- The row as a statement returns it. -/
def wire (r : JobRow) : Row :=
  spell Statement.jobColumns
    [some (.uuid r.id.uuid), some (.text r.tenant), some (.text r.status.text),
      some (.int r.priority), some (.text r.model), some (.json r.payload), r.key.map .text,
      some (.int r.attempt), some (.int r.maxAttempts), some (.time r.createdAt),
      r.startedAt.map .time, r.finishedAt.map .time, r.errorCode.map fun c => .text c.text,
      r.errorMessage.map .text, some (.uuid r.trace.uuid)]

theorem jobCells?_wire (r : JobRow) : r.wire.jobCells? =
    some ({ r.job with status := .queued, errorCode := none }, r.status.text,
      r.errorCode.map (·.text)) := by
  simp [wire, spell, Statement.jobColumns, Row.jobCells?, Row.required_cons_eq,
    Row.required_cons_ne, Row.optional_cons_eq, Row.optional_cons_ne, Row.bind_some_eq_map,
    Row.uuid, Row.text, Row.int4, Row.jsonb, Row.timestamptz, job]

/-- What is read off a returned row is the job that the row holds. -/
theorem job_wire (r : JobRow) : r.wire.job = .ok r.job := by
  simp [Row.job, jobCells?_wire, cells, statusOf_text, optionalCodeOf_text, Bind.bind, Except.bind,
    pure, Except.pure, job]

end JobRow

/-! ## Attempts -/

namespace AttemptRow

/-- The attempt that the row holds. -/
def attempt (r : AttemptRow) : Attempt :=
  { job := r.job, number := r.number, startedAt := r.startedAt
    finishedAt := r.finishedAt.map .ofTime, success := r.success, errorCode := r.errorCode
    errorMessage := r.errorMessage, tokens := r.tokens, cost := r.cost
    providerMeta := r.providerMeta }

@[simp] theorem attempt_job (r : AttemptRow) : r.attempt.job = r.job := rfl
@[simp] theorem attempt_number (r : AttemptRow) : r.attempt.number = r.number := rfl
@[simp] theorem isOpen_attempt (r : AttemptRow) : r.attempt.isOpen = r.finishedAt.isNone := by
  simp [attempt, Attempt.isOpen]

/-- The row as a statement returns it. -/
def wire (r : AttemptRow) : Row :=
  spell Statement.attemptColumns
    [some (.uuid r.job.uuid), some (.int r.number), some (.time r.startedAt),
      r.finishedAt.map .time, r.success.map .bool, r.errorCode.map fun c => .text c.text,
      r.errorMessage.map .text, some (.int r.tokens), some (.float r.cost),
      some (.json r.providerMeta)]

theorem attemptCells?_wire (r : AttemptRow) : r.wire.attemptCells? =
    some ({ r.attempt with errorCode := none }, r.errorCode.map (·.text)) := by
  simp [wire, spell, Statement.attemptColumns, Row.attemptCells?, Row.required_cons_eq,
    Row.required_cons_ne, Row.optional_cons_eq, Row.optional_cons_ne, Row.bind_some_eq_map,
    Row.uuid, Row.text, Row.int4, Row.int8, Row.float8, Row.bool, Row.jsonb, Row.timestamptz,
    attempt]

/-- What is read off a returned row is the attempt that the row holds. -/
theorem attempt_wire (r : AttemptRow) : r.wire.attempt = .ok r.attempt := by
  simp [Row.attempt, attemptCells?_wire, cells, optionalCodeOf_text, Bind.bind, Except.bind, pure,
    Except.pure, attempt]

end AttemptRow

/-! ## Events -/

namespace EventRow

/-- The event that the row holds. -/
def event (r : EventRow) : Event :=
  { id := r.id, tag := r.tag, job := r.job, worker := r.worker, details := r.details
    createdAt := r.createdAt }

/-- The row as a statement returns it. -/
def wire (r : EventRow) : Row :=
  spell Statement.eventColumns
    [some (.int r.id), some (.text r.tag), r.job.map fun j => .uuid j.uuid,
      r.worker.map fun w => .text w.text, some (.text r.details), some (.time r.createdAt)]

/-- What is read off a returned row is the event that the row holds. -/
theorem event_wire (r : EventRow) : r.wire.event = .ok r.event := by
  simp [wire, spell, Statement.eventColumns, Row.event, cells, Row.required_cons_eq,
    Row.required_cons_ne, Row.optional_cons_eq, Row.optional_cons_ne, Row.bind_some_eq_map,
    Row.uuid, Row.text, Row.int8, Row.timestamptz, event, Function.comp_def]

end EventRow

/-! ## Workers -/

namespace WorkerRow

/-- The report that the row holds. -/
def heartbeat (r : WorkerRow) : Heartbeat :=
  { worker := r.worker, seenAt := r.seenAt, state := r.state, running := r.running
    concurrency := r.concurrency }

/-- The row as a statement returns it. -/
def wire (r : WorkerRow) : Row :=
  spell Statement.workerColumns
    [some (.text r.worker.text), some (.time r.seenAt), some (.text r.state.text),
      r.running.map fun j => .uuid j.uuid, some (.int r.concurrency)]

theorem heartbeatCells?_wire (r : WorkerRow) :
    r.wire.heartbeatCells? = some ({ r.heartbeat with state := .idle }, r.state.text) := by
  simp [wire, spell, Statement.workerColumns, Row.heartbeatCells?, Row.required_cons_eq,
    Row.required_cons_ne, Row.optional_cons_eq, Row.optional_cons_ne, Row.bind_some_eq_map,
    Row.uuid, Row.text, Row.int4, Row.timestamptz, heartbeat, Function.comp_def]

/-- What is read off a returned row is the report that the row holds. -/
theorem heartbeat_wire (r : WorkerRow) : r.wire.heartbeat = .ok r.heartbeat := by
  simp [Row.heartbeat, heartbeatCells?_wire, cells, stateOf, WorkerState.ofText?_text, Bind.bind,
    Except.bind, pure, Except.pure, heartbeat]

end WorkerRow

/-! ## Counts -/

/-- A row of the count of jobs by status. -/
def countWire (counted : JobStatus × Int) : Row :=
  spell Statement.countColumns [some (.text counted.1.text), some (.int counted.2)]

/-- The row of a count is read as the count. -/
theorem count_wire (counted : JobStatus × Int) :
    (countWire counted).count = .ok (counted.1, counted.2.toNat) := by
  simp [countWire, spell, Statement.countColumns, Row.count, cells, Row.required_cons_eq,
    Row.required_cons_ne, Row.text, Row.int8, statusOf_text, Bind.bind, Except.bind, pure,
    Except.pure]

end Dispatch.Postgres
