import Dispatch.Proofs.Json.Codec

/-!
# The codecs of the entities

For each entity: which values programs hold, the slots that its encoder fills, the fields that its
decoder asks for, and that the two make a sound codec.  A snapshot is a record of records, and its
codec is sound because those of the job and of the attempt are.
-/

namespace Dispatch

open Json Decoder Codec

/-! ## Usages -/

namespace Usage

/-- A usage as programs hold it. -/
structure Proper (u : Usage) : Prop where
  tokens : IsInt64 u.tokens
  providerMeta : u.providerMeta.Proper

/-- What each field is written as. -/
def slots (u : Usage) : List (String × Option Json) :=
  [("tokens", some (.int u.tokens)), ("cost_usd", some (.float u.cost)),
    ("provider_meta", some u.providerMeta)]

/-- The wire format of usages. -/
def codec : Codec Usage where
  encode := toJson
  decode := decoder
  fields := [.needed "tokens", .needed "cost_usd", .needed "provider_meta"]
  Proper := Proper

theorem sound_codec : codec.Sound := by
  apply sound_of_slots (show ∀ u, codec.encode u = .obj (present u.slots) from fun _ => rfl)
    fun _ _ => rfl
  · decide
  · simp [codec, Field.regular_needed]
  · intro read u
    simp [codec, slots, fits_needed]
  · intro u hu
    simp [slots, hu.tokens.proper, hu.providerMeta]
  · intro u hu read f hf
    obtain ⟨tokens, cost, providerMeta⟩ := u
    have htokens := hf.required "tokens" (by simp [slots]) (undoes_int64 hu.tokens)
    have hcost := hf.required "cost_usd" (by simp [slots]) (undoes_double cost)
    have hmeta := hf.value "provider_meta" (by simp [slots]) hu.providerMeta
    simp only [↓build_step_iff, Option.pure_def, Option.some.injEq, mk.injEq, existsAndEq]
    simp [slots, htokens, hcost, hmeta]
  · intro f g h
    simp (disch := rw [codec]; simp) only [h.required]

end Usage

/-! ## Drafts -/

namespace Draft

/-- A draft as programs hold it. -/
structure Proper (d : Draft) : Prop where
  priority : IsInt32 d.priority
  payload : d.payload.Proper
  maxAttempts : IsInt32 d.maxAttempts

/-- What each field is written as. -/
def slots (d : Draft) : List (String × Option Json) :=
  [("tenant_id", some (.str d.tenant)), ("priority", some (.int d.priority)),
    ("model", some (.str d.model)), ("payload", some d.payload),
    ("idempotency_key", some (Json.nullable .str d.idempotencyKey)),
    ("max_attempts", some (.int d.maxAttempts))]

/-- The wire format of drafts. -/
def codec : Codec Draft where
  encode := toJson
  decode := decoder
  fields := [.needed "tenant_id", .needed "priority", .needed "model", .needed "payload",
    .maybe "idempotency_key", .needed "max_attempts"]
  Proper := Proper

theorem proper_nullable (key : Option String) : (Json.nullable .str key).Proper := by
  cases key with
  | none => trivial
  | some key => trivial

theorem sound_codec : codec.Sound := by
  apply sound_of_slots (show ∀ d, codec.encode d = .obj (present d.slots) from fun _ => rfl)
    fun _ _ => rfl
  · decide
  · simp [codec, Field.regular_needed, Field.regular_maybe]
  · intro read d
    simp [codec, slots, fits_needed, fits_maybe]
  · intro d hd
    simp [slots, hd.priority.proper, hd.maxAttempts.proper, hd.payload, proper_nullable]
  · intro d hd read f hf
    obtain ⟨tenant, priority, model, payload, key, maxAttempts⟩ := d
    have htenant := hf.required "tenant_id" (by simp [slots]) (undoes_str tenant)
    have hpriority := hf.defaulted "priority" (by simp [slots]) (undoes_int32 hd.priority) 0
    have hmodel := hf.required "model" (by simp [slots]) (undoes_str model)
    have hpayload := hf.defaultedValue "payload" (by simp [slots]) hd.payload .null
    have hkey := hf.nulled "idempotency_key" (v := key) (by simp [slots]) fun k _ => undoes_str k
    have hmax := hf.defaulted "max_attempts" (by simp [slots]) (undoes_int32 hd.maxAttempts) 0
    simp only [↓build_step_iff, Option.pure_def, Option.some.injEq, mk.injEq, existsAndEq]
    simp [slots, htenant, hpriority, hmodel, hpayload, hkey, hmax]
  · intro f g h
    simp (disch := rw [codec]; simp) only [h.required, h.optional, h.defaulted]

end Draft

/-! ## Jobs -/

namespace Job

/-- A job as programs hold it. -/
structure Proper (j : Job) : Prop where
  priority : IsInt32 j.priority
  payload : j.payload.Proper
  attempt : IsInt32 j.attempt
  maxAttempts : IsInt32 j.maxAttempts
  createdAt : j.createdAt.Plain
  startedAt : ∀ t ∈ j.startedAt, t.Plain
  finishedAt : ∀ t ∈ j.finishedAt, t.Plain

/-- What each field is written as. -/
def slots (j : Job) : List (String × Option Json) :=
  [("id", some j.id.toJson), ("tenant_id", some (.str j.tenant)), ("status", some j.status.toJson),
    ("priority", some (.int j.priority)), ("model", some (.str j.model)),
    ("payload", some j.payload), ("idempotency_key", j.idempotencyKey.map .str),
    ("attempt", some (.int j.attempt)), ("max_attempts", some (.int j.maxAttempts)),
    ("created_at", some (Json.time j.createdAt)), ("started_at", j.startedAt.map Json.time),
    ("finished_at", j.finishedAt.map Json.time), ("error_code", j.errorCode.map FailureCode.toJson),
    ("error_message", j.errorMessage.map .str), ("trace_id", some j.trace.toJson)]

/-- The wire format of jobs. -/
def codec : Codec Job where
  encode := toJson
  decode := decoder
  fields := [.needed "id", .needed "tenant_id", .needed "status", .needed "priority",
    .needed "model", .needed "payload", .maybe "idempotency_key", .needed "attempt",
    .needed "max_attempts", .needed "created_at", .maybe "started_at", .maybe "finished_at",
    .maybe "error_code", .maybe "error_message", .needed "trace_id"]
  Proper := Proper

theorem encode_eq (j : Job) : codec.encode j = .obj (present j.slots) := by
  show j.toJson = _
  simp only [toJson, slots, present_some, present_map, present_nil, List.append_assoc,
    List.cons_append, List.nil_append]

theorem sound_codec : codec.Sound := by
  apply sound_of_slots encode_eq fun _ _ => rfl
  · decide
  · simp [codec, Field.regular_needed, Field.regular_maybe]
  · intro read j
    simp [codec, slots, fits_needed, fits_maybe]
  · intro j hj
    simp [slots, hj.priority.proper, hj.attempt.proper, hj.maxAttempts.proper, hj.payload]
  · intro j hj read f hf
    obtain ⟨id, tenant, status, priority, model, payload, key, attempt, maxAttempts, createdAt,
      startedAt, finishedAt, code, message, trace⟩ := j
    have hid := hf.required "id" (by simp [slots]) (undoes_jobId id)
    have htenant := hf.required "tenant_id" (by simp [slots]) (undoes_str tenant)
    have hstatus := hf.required "status" (by simp [slots]) (undoes_status status)
    have hpriority := hf.required "priority" (by simp [slots]) (undoes_int32 hj.priority)
    have hmodel := hf.required "model" (by simp [slots]) (undoes_str model)
    have hpayload := hf.value "payload" (by simp [slots]) hj.payload
    have hkey := hf.optional "idempotency_key" (v := key) (by simp [slots]) fun k _ => undoes_str k
    have hattempt := hf.required "attempt" (by simp [slots]) (undoes_int32 hj.attempt)
    have hmax := hf.required "max_attempts" (by simp [slots]) (undoes_int32 hj.maxAttempts)
    have hcreated := hf.required "created_at" (by simp [slots]) (undoes_time hj.createdAt)
    have hstarted := hf.optional "started_at" (v := startedAt) (by simp [slots])
      fun t ht => undoes_time (hj.startedAt t ht)
    have hfinished := hf.optional "finished_at" (v := finishedAt) (by simp [slots])
      fun t ht => undoes_time (hj.finishedAt t ht)
    have hcode := hf.optional "error_code" (v := code) (by simp [slots]) fun c _ => undoes_code c
    have hmessage := hf.optional "error_message" (v := message) (by simp [slots])
      fun m _ => undoes_str m
    have htrace := hf.required "trace_id" (by simp [slots]) (undoes_traceId trace)
    simp only [↓build_step_iff, Option.pure_def, Option.some.injEq, mk.injEq, existsAndEq]
    simp [slots, hid, htenant, hstatus, hpriority, hmodel, hpayload, hkey, hattempt, hmax, hcreated,
      hstarted, hfinished, hcode, hmessage, htrace]
  · intro f g h
    simp (disch := rw [codec]; simp) only [h.required, h.optional]

end Job

/-! ## Attempts -/

namespace Attempt

/-- An attempt as programs hold it. -/
structure Proper (a : Attempt) : Prop where
  number : IsInt32 a.number
  startedAt : a.startedAt.Plain
  finishedAt : ∀ t ∈ a.finishedAt, t.Plain
  tokens : IsInt64 a.tokens
  providerMeta : a.providerMeta.Proper

/-- What each field is written as. -/
def slots (a : Attempt) : List (String × Option Json) :=
  [("job_id", some a.job.toJson), ("attempt", some (.int a.number)),
    ("started_at", some (Json.time a.startedAt)), ("finished_at", a.finishedAt.map Json.time),
    ("success", a.success.map .bool), ("error_code", a.errorCode.map FailureCode.toJson),
    ("error_message", a.errorMessage.map .str), ("tokens", some (.int a.tokens)),
    ("cost_usd", some (.float a.cost)), ("provider_meta", some a.providerMeta)]

/-- The wire format of attempts. -/
def codec : Codec Attempt where
  encode := toJson
  decode := decoder
  fields := [.needed "job_id", .needed "attempt", .needed "started_at", .maybe "finished_at",
    .maybe "success", .maybe "error_code", .maybe "error_message", .needed "tokens",
    .needed "cost_usd", .needed "provider_meta"]
  Proper := Proper

theorem encode_eq (a : Attempt) : codec.encode a = .obj (present a.slots) := by
  show a.toJson = _
  simp only [toJson, slots, present_some, present_map, present_nil, List.append_assoc,
    List.cons_append, List.nil_append]

theorem sound_codec : codec.Sound := by
  apply sound_of_slots encode_eq fun _ _ => rfl
  · decide
  · simp [codec, Field.regular_needed, Field.regular_maybe]
  · intro read a
    simp [codec, slots, fits_needed, fits_maybe]
  · intro a ha
    simp [-Bool.exists_bool, -Bool.forall_bool, slots, ha.number.proper, ha.tokens.proper,
      ha.providerMeta]
  · intro a ha read f hf
    obtain ⟨job, number, startedAt, finishedAt, success, code, message, tokens, cost,
      providerMeta⟩ := a
    have hjob := hf.required "job_id" (by simp [slots]) (undoes_jobId job)
    have hnumber := hf.required "attempt" (by simp [slots]) (undoes_int32 ha.number)
    have hstarted := hf.required "started_at" (by simp [slots]) (undoes_time ha.startedAt)
    have hfinished := hf.optional "finished_at" (v := finishedAt) (by simp [slots])
      fun t ht => undoes_time (ha.finishedAt t ht)
    have hsuccess := hf.optional "success" (v := success) (by simp [slots]) fun b _ => undoes_bool b
    have hcode := hf.optional "error_code" (v := code) (by simp [slots]) fun c _ => undoes_code c
    have hmessage := hf.optional "error_message" (v := message) (by simp [slots])
      fun m _ => undoes_str m
    have htokens := hf.required "tokens" (by simp [slots]) (undoes_int64 ha.tokens)
    have hcost := hf.required "cost_usd" (by simp [slots]) (undoes_double cost)
    have hmeta := hf.value "provider_meta" (by simp [slots]) ha.providerMeta
    simp only [↓build_step_iff, Option.pure_def, Option.some.injEq, mk.injEq, existsAndEq]
    simp [slots, hjob, hnumber, hstarted, hfinished, hsuccess, hcode, hmessage, htokens, hcost,
      hmeta]
  · intro f g h
    simp (disch := rw [codec]; simp) only [h.required, h.optional]

end Attempt

/-! ## Snapshots -/

namespace Snapshot

/-- A snapshot as programs hold it. -/
structure Proper (s : Snapshot) : Prop where
  job : s.job.Proper
  latest : ∀ a ∈ s.latest, a.Proper

/-- What each field is written as. -/
def slots (s : Snapshot) : List (String × Option Json) :=
  [("job", some s.job.toJson), ("latest_attempt", s.latest.map Attempt.toJson)]

/-- The wire format of snapshots. -/
def codec : Codec Snapshot where
  encode := toJson
  decode := decoder
  fields := [.nested "job" false Job.codec.fields,
    .nested "latest_attempt" true Attempt.codec.fields]
  Proper := Proper

theorem encode_eq (s : Snapshot) : codec.encode s = .obj (present s.slots) := by
  show s.toJson = _
  simp only [toJson, slots, present_some, present_map, present_nil, List.append_nil,
    List.singleton_append]

theorem sound_codec : codec.Sound := by
  apply sound_of_slots encode_eq fun _ _ => rfl
  · decide
  · have hjob := Field.regular_nested "job" false Job.sound_codec.regular
    have hlatest := Field.regular_nested "latest_attempt" true Attempt.sound_codec.regular
    simp [codec, hjob, hlatest]
  · intro read s
    have hjob := fits_nested read "job" false (Job.sound_codec.sameRecord read s.job)
    have hlatest := fits_nested_map read "latest_attempt" (v := s.latest)
      (Attempt.sound_codec.sameRecord read)
    exact .cons hjob (.cons hlatest .nil)
  · intro s hs
    have hjob : s.job.toJson.Proper := Job.sound_codec.proper hs.job
    have hlatest : ∀ a ∈ s.latest, a.toJson.Proper :=
      fun a ha => Attempt.sound_codec.proper (hs.latest a ha)
    simpa [slots, hjob] using hlatest
  · intro s hs read f hf
    obtain ⟨job, latest⟩ := s
    have hjob : f.required "job" Job.decoder = some job ↔ job.toJson.Kept read f.room :=
      hf.required "job" (by simp [slots]) (Job.sound_codec.undoes hs.job)
    have hlatest : f.optional "latest_attempt" Attempt.decoder = some latest ↔
        ∀ j ∈ latest.map Attempt.toJson, j.Kept read f.room :=
      hf.optional "latest_attempt" (by simp [slots])
        fun a ha => Attempt.sound_codec.undoes (hs.latest a ha)
    simp only [↓build_step_iff, Option.pure_def, Option.some.injEq, mk.injEq, existsAndEq]
    simp [slots, hjob, hlatest]
  · intro f g h
    have hjob : f.required "job" Job.decoder = g.required "job" Job.decoder :=
      h.required_nested "job" (by simp [codec]) Job.sound_codec.congr
    have hlatest : f.optional "latest_attempt" Attempt.decoder =
        g.optional "latest_attempt" Attempt.decoder :=
      h.optional_nested "latest_attempt" (by simp [codec]) Attempt.sound_codec.congr
    simp only [hjob, hlatest]

end Snapshot

/-! ## Events -/

namespace Event

/-- An event as programs hold it. -/
structure Proper (e : Event) : Prop where
  id : IsInt64 e.id
  createdAt : e.createdAt.Plain

/-- What each field is written as. -/
def slots (e : Event) : List (String × Option Json) :=
  [("id", some (.int e.id)), ("event_type", some (.str e.tag)), ("job_id", e.job.map JobId.toJson),
    ("worker_id", e.worker.map WorkerId.toJson), ("details", some (.str e.details)),
    ("created_at", some (Json.time e.createdAt))]

/-- The wire format of events. -/
def codec : Codec Event where
  encode := toJson
  decode := decoder
  fields := [.needed "id", .needed "event_type", .maybe "job_id", .maybe "worker_id",
    .needed "details", .needed "created_at"]
  Proper := Proper

theorem encode_eq (e : Event) : codec.encode e = .obj (present e.slots) := by
  show e.toJson = _
  simp only [toJson, slots, present_some, present_map, present_nil, List.append_assoc,
    List.cons_append, List.nil_append]

theorem sound_codec : codec.Sound := by
  apply sound_of_slots encode_eq fun _ _ => rfl
  · decide
  · simp [codec, Field.regular_needed, Field.regular_maybe]
  · intro read e
    simp [codec, slots, fits_needed, fits_maybe]
  · intro e he
    simp [slots, he.id.proper]
  · intro e he read f hf
    obtain ⟨id, tag, job, worker, details, createdAt⟩ := e
    have hid := hf.required "id" (by simp [slots]) (undoes_int64 he.id)
    have htag := hf.required "event_type" (by simp [slots]) (undoes_str tag)
    have hjob := hf.optional "job_id" (v := job) (by simp [slots]) fun id _ => undoes_jobId id
    have hworker := hf.optional "worker_id" (v := worker) (by simp [slots])
      fun id _ => undoes_workerId id
    have hdetails := hf.required "details" (by simp [slots]) (undoes_str details)
    have hcreated := hf.required "created_at" (by simp [slots]) (undoes_time he.createdAt)
    simp only [↓build_step_iff, Option.pure_def, Option.some.injEq, mk.injEq, existsAndEq]
    simp [slots, hid, htag, hjob, hworker, hdetails, hcreated]
  · intro f g h
    simp (disch := rw [codec]; simp) only [h.required, h.optional]

end Event

/-! ## Heartbeats -/

namespace Heartbeat

/-- A heartbeat as programs hold it. -/
structure Proper (h : Heartbeat) : Prop where
  seenAt : h.seenAt.Plain
  concurrency : IsInt32 h.concurrency

/-- What each field is written as. -/
def slots (h : Heartbeat) : List (String × Option Json) :=
  [("worker_id", some h.worker.toJson), ("last_heartbeat_at", some (Json.time h.seenAt)),
    ("state", some h.state.toJson), ("running_job_id", h.running.map JobId.toJson),
    ("concurrency", some (.int h.concurrency))]

/-- The wire format of heartbeats. -/
def codec : Codec Heartbeat where
  encode := toJson
  decode := decoder
  fields := [.needed "worker_id", .needed "last_heartbeat_at", .needed "state",
    .maybe "running_job_id", .needed "concurrency"]
  Proper := Proper

theorem encode_eq (h : Heartbeat) : codec.encode h = .obj (present h.slots) := by
  show h.toJson = _
  simp only [toJson, members, slots, present_some, present_map, present_nil, List.cons_append,
    List.nil_append]

theorem sound_codec : codec.Sound := by
  apply sound_of_slots encode_eq fun _ _ => rfl
  · decide
  · simp [codec, Field.regular_needed, Field.regular_maybe]
  · intro read h
    simp [codec, slots, fits_needed, fits_maybe]
  · intro h hh
    simp [slots, hh.concurrency.proper]
  · intro h hh read f hf
    obtain ⟨worker, seenAt, state, running, concurrency⟩ := h
    have hworker := hf.required "worker_id" (by simp [slots]) (undoes_workerId worker)
    have hseen := hf.required "last_heartbeat_at" (by simp [slots]) (undoes_time hh.seenAt)
    have hstate := hf.required "state" (by simp [slots]) (undoes_state state)
    have hrunning := hf.optional "running_job_id" (v := running) (by simp [slots])
      fun id _ => undoes_jobId id
    have hconcurrency := hf.required "concurrency" (by simp [slots]) (undoes_int32 hh.concurrency)
    simp only [↓build_step_iff, Option.pure_def, Option.some.injEq, mk.injEq, existsAndEq]
    simp [slots, hworker, hseen, hstate, hrunning, hconcurrency]
  · intro f g h
    simp (disch := rw [codec]; simp) only [h.required, h.optional]

end Heartbeat

/-! ## Tallies -/

namespace Tally

/-- A tally as programs hold it. -/
structure Proper (t : Tally) : Prop where
  queued : IsNat64 t.queued
  running : IsNat64 t.running
  succeeded : IsNat64 t.succeeded
  failed : IsNat64 t.failed
  retryScheduled : IsNat64 t.retryScheduled
  dlq : IsNat64 t.dlq
  cancelled : IsNat64 t.cancelled

/-- What each field is written as. -/
def slots (t : Tally) : List (String × Option Json) :=
  t.members.map fun m => (m.1, some m.2)

/-- The wire format of tallies. -/
def codec : Codec Tally where
  encode := toJson
  decode := decoder
  fields := fieldNames.map .needed
  Proper := Proper

theorem sound_codec : codec.Sound := by
  apply sound_of_slots (show ∀ t, codec.encode t = .obj (present t.slots) from fun _ => rfl)
    fun _ _ => rfl
  · decide
  · simp [codec, fieldNames, Field.regular_needed]
  · intro read t
    simp [codec, fieldNames, slots, members, fits_needed]
  · intro t ht
    simp [slots, members, ht.queued.proper, ht.running.proper, ht.succeeded.proper,
      ht.failed.proper, ht.retryScheduled.proper, ht.dlq.proper, ht.cancelled.proper]
  · intro t ht read f hf
    obtain ⟨queued, running, succeeded, failed, retryScheduled, dlq, cancelled⟩ := t
    have hqueued := hf.required "queued" (by simp [slots, members]) (undoes_nat64 ht.queued)
    have hrunning := hf.required "running" (by simp [slots, members]) (undoes_nat64 ht.running)
    have hsucceeded := hf.required "succeeded" (by simp [slots, members])
      (undoes_nat64 ht.succeeded)
    have hfailed := hf.required "failed" (by simp [slots, members]) (undoes_nat64 ht.failed)
    have hretry := hf.required "retry_scheduled" (by simp [slots, members])
      (undoes_nat64 ht.retryScheduled)
    have hdlq := hf.required "dlq" (by simp [slots, members]) (undoes_nat64 ht.dlq)
    have hcancelled := hf.required "cancelled" (by simp [slots, members])
      (undoes_nat64 ht.cancelled)
    simp only [↓build_step_iff, Option.pure_def, Option.some.injEq, mk.injEq, existsAndEq]
    simp [slots, members, hqueued, hrunning, hsucceeded, hfailed, hretry, hdlq, hcancelled]
  · intro f g h
    simp (disch := rw [codec]; simp [fieldNames]) only [h.required]

end Tally

end Dispatch
