import Dispatch.Event
import Dispatch.Job.Basic
import Dispatch.Json.Decoder
import Dispatch.Worker.Heartbeat

/-!
# The JSON forms of the entities

Each entity has one written form, in which optional members without a value are left out, and a
decoder that reads it back from that form, from a form with the members in another order, with
unknown members between them or with `null` for no value, and from the array of its fields.
-/

namespace Dispatch

/-! ## Names and identities -/

def JobId.toJson (id : JobId) : Json := .str id.text
def TraceId.toJson (id : TraceId) : Json := .str id.text
def WorkerId.toJson (id : WorkerId) : Json := .str id.text
def JobStatus.toJson (s : JobStatus) : Json := .str s.text
def FailureCode.toJson (c : FailureCode) : Json := .str c.text
def WorkerState.toJson (s : WorkerState) : Json := .str s.text

def JobId.decoder : Decoder JobId := fun room doc => (Decoder.uuid room doc).map (⟨·⟩)
def TraceId.decoder : Decoder TraceId := fun room doc => (Decoder.uuid room doc).map (⟨·⟩)
def WorkerId.decoder : Decoder WorkerId := fun room doc => (Decoder.str room doc).map (⟨·⟩)
def JobStatus.decoder : Decoder JobStatus := Decoder.name JobStatus.ofText?
def FailureCode.decoder : Decoder FailureCode := Decoder.name FailureCode.ofText?
def WorkerState.decoder : Decoder WorkerState := Decoder.name WorkerState.ofText?

/-! ## Drafts -/

/-- Drafts write the absence of a key as `null`. -/
def Draft.toJson (d : Draft) : Json :=
  .obj [("tenant_id", .str d.tenant), ("priority", .int d.priority), ("model", .str d.model),
    ("payload", d.payload), ("idempotency_key", Json.nullable .str d.idempotencyKey),
    ("max_attempts", .int d.maxAttempts)]

/-- The fields of a draft, in order. -/
def Draft.fieldNames : List String :=
  ["tenant_id", "priority", "model", "payload", "idempotency_key", "max_attempts"]

def Draft.decoder : Decoder Draft := fun room doc => do
  let f ← Decoder.fields? fieldNames room doc
  return {
    tenant := ← f.required "tenant_id" Decoder.str
    priority := ← f.defaulted "priority" Decoder.int32 0
    model := ← f.required "model" Decoder.str
    payload := ← f.defaulted "payload" Decoder.json .null
    idempotencyKey := ← f.optional "idempotency_key" Decoder.str
    maxAttempts := ← f.defaulted "max_attempts" Decoder.int32 0 }

/-! ## Jobs -/

def Job.toJson (j : Job) : Json :=
  .obj ([("id", j.id.toJson), ("tenant_id", .str j.tenant), ("status", j.status.toJson),
      ("priority", .int j.priority), ("model", .str j.model), ("payload", j.payload)] ++
    Json.optionalMember "idempotency_key" .str j.idempotencyKey ++
    [("attempt", .int j.attempt), ("max_attempts", .int j.maxAttempts),
      ("created_at", Json.time j.createdAt)] ++
    Json.optionalMember "started_at" Json.time j.startedAt ++
    Json.optionalMember "finished_at" Json.time j.finishedAt ++
    Json.optionalMember "error_code" FailureCode.toJson j.errorCode ++
    Json.optionalMember "error_message" .str j.errorMessage ++
    [("trace_id", j.trace.toJson)])

/-- The fields of a job, in order. -/
def Job.fieldNames : List String :=
  ["id", "tenant_id", "status", "priority", "model", "payload", "idempotency_key", "attempt",
    "max_attempts", "created_at", "started_at", "finished_at", "error_code", "error_message",
    "trace_id"]

def Job.decoder : Decoder Job := fun room doc => do
  let f ← Decoder.fields? fieldNames room doc
  return {
    id := ← f.required "id" JobId.decoder
    tenant := ← f.required "tenant_id" Decoder.str
    status := ← f.required "status" JobStatus.decoder
    priority := ← f.required "priority" Decoder.int32
    model := ← f.required "model" Decoder.str
    payload := ← f.required "payload" Decoder.json
    idempotencyKey := ← f.optional "idempotency_key" Decoder.str
    attempt := ← f.required "attempt" Decoder.int32
    maxAttempts := ← f.required "max_attempts" Decoder.int32
    createdAt := ← f.required "created_at" Decoder.time
    startedAt := ← f.optional "started_at" Decoder.time
    finishedAt := ← f.optional "finished_at" Decoder.time
    errorCode := ← f.optional "error_code" FailureCode.decoder
    errorMessage := ← f.optional "error_message" Decoder.str
    trace := ← f.required "trace_id" TraceId.decoder }

/-! ## Attempts -/

def Attempt.toJson (a : Attempt) : Json :=
  .obj ([("job_id", a.job.toJson), ("attempt", .int a.number),
      ("started_at", Json.time a.startedAt)] ++
    Json.optionalMember "finished_at" Json.time a.finishedAt ++
    Json.optionalMember "success" .bool a.success ++
    Json.optionalMember "error_code" FailureCode.toJson a.errorCode ++
    Json.optionalMember "error_message" .str a.errorMessage ++
    [("tokens", .int a.tokens), ("cost_usd", .float a.cost), ("provider_meta", a.providerMeta)])

/-- The fields of an attempt, in order. -/
def Attempt.fieldNames : List String :=
  ["job_id", "attempt", "started_at", "finished_at", "success", "error_code", "error_message",
    "tokens", "cost_usd", "provider_meta"]

def Attempt.decoder : Decoder Attempt := fun room doc => do
  let f ← Decoder.fields? fieldNames room doc
  return {
    job := ← f.required "job_id" JobId.decoder
    number := ← f.required "attempt" Decoder.int32
    startedAt := ← f.required "started_at" Decoder.time
    finishedAt := ← f.optional "finished_at" Decoder.time
    success := ← f.optional "success" Decoder.bool
    errorCode := ← f.optional "error_code" FailureCode.decoder
    errorMessage := ← f.optional "error_message" Decoder.str
    tokens := ← f.required "tokens" Decoder.int64
    cost := ← f.required "cost_usd" Decoder.double
    providerMeta := ← f.required "provider_meta" Decoder.json }

/-! ## Usage -/

def Usage.toJson (u : Usage) : Json :=
  .obj [("tokens", .int u.tokens), ("cost_usd", .float u.cost),
    ("provider_meta", u.providerMeta)]

/-- The fields of a usage, in order. -/
def Usage.fieldNames : List String := ["tokens", "cost_usd", "provider_meta"]

def Usage.decoder : Decoder Usage := fun room doc => do
  let f ← Decoder.fields? fieldNames room doc
  return {
    tokens := ← f.required "tokens" Decoder.int64
    cost := ← f.required "cost_usd" Decoder.double
    providerMeta := ← f.required "provider_meta" Decoder.json }

/-! ## Snapshots -/

def Snapshot.toJson (s : Snapshot) : Json :=
  .obj ([("job", s.job.toJson)] ++ Json.optionalMember "latest_attempt" Attempt.toJson s.latest)

/-- The fields of a snapshot, in order. -/
def Snapshot.fieldNames : List String := ["job", "latest_attempt"]

def Snapshot.decoder : Decoder Snapshot := fun room doc => do
  let f ← Decoder.fields? fieldNames room doc
  return {
    job := ← f.required "job" Job.decoder
    latest := ← f.optional "latest_attempt" Attempt.decoder }

/-! ## Events -/

def Event.toJson (e : Event) : Json :=
  .obj ([("id", .int e.id), ("event_type", .str e.tag)] ++
    Json.optionalMember "job_id" JobId.toJson e.job ++
    Json.optionalMember "worker_id" WorkerId.toJson e.worker ++
    [("details", .str e.details), ("created_at", Json.time e.createdAt)])

/-- The fields of an event, in order. -/
def Event.fieldNames : List String :=
  ["id", "event_type", "job_id", "worker_id", "details", "created_at"]

def Event.decoder : Decoder Event := fun room doc => do
  let f ← Decoder.fields? fieldNames room doc
  return {
    id := ← f.required "id" Decoder.int64
    tag := ← f.required "event_type" Decoder.str
    job := ← f.optional "job_id" JobId.decoder
    worker := ← f.optional "worker_id" WorkerId.decoder
    details := ← f.required "details" Decoder.str
    createdAt := ← f.required "created_at" Decoder.time }

/-! ## Heartbeats -/

/-- The members of a heartbeat. -/
def Heartbeat.members (h : Heartbeat) : List (String × Json) :=
  [("worker_id", h.worker.toJson), ("last_heartbeat_at", Json.time h.seenAt),
    ("state", h.state.toJson)] ++
  Json.optionalMember "running_job_id" JobId.toJson h.running ++
  [("concurrency", .int h.concurrency)]

def Heartbeat.toJson (h : Heartbeat) : Json := .obj h.members

/-- The fields of a heartbeat, in order. -/
def Heartbeat.fieldNames : List String :=
  ["worker_id", "last_heartbeat_at", "state", "running_job_id", "concurrency"]

def Heartbeat.decoder : Decoder Heartbeat := fun room doc => do
  let f ← Decoder.fields? fieldNames room doc
  return {
    worker := ← f.required "worker_id" WorkerId.decoder
    seenAt := ← f.required "last_heartbeat_at" Decoder.time
    state := ← f.required "state" WorkerState.decoder
    running := ← f.optional "running_job_id" JobId.decoder
    concurrency := ← f.required "concurrency" Decoder.int32 }

/-! ## Tallies -/

/-- The members of a tally. -/
def Tally.members (t : Tally) : List (String × Json) :=
  [("queued", .nat t.queued), ("running", .nat t.running), ("succeeded", .nat t.succeeded),
    ("failed", .nat t.failed), ("retry_scheduled", .nat t.retryScheduled), ("dlq", .nat t.dlq),
    ("cancelled", .nat t.cancelled)]

def Tally.toJson (t : Tally) : Json := .obj t.members

/-- The fields of a tally, in order. -/
def Tally.fieldNames : List String :=
  ["queued", "running", "succeeded", "failed", "retry_scheduled", "dlq", "cancelled"]

def Tally.decoder : Decoder Tally := fun room doc => do
  let f ← Decoder.fields? fieldNames room doc
  return {
    queued := ← f.required "queued" Decoder.nat64
    running := ← f.required "running" Decoder.nat64
    succeeded := ← f.required "succeeded" Decoder.nat64
    failed := ← f.required "failed" Decoder.nat64
    retryScheduled := ← f.required "retry_scheduled" Decoder.nat64
    dlq := ← f.required "dlq" Decoder.nat64
    cancelled := ← f.required "cancelled" Decoder.nat64 }

end Dispatch
