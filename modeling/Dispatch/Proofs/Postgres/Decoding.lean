import Dispatch.Proofs.Postgres.Rows

/-!
# What a row must show to be read

A row of a result may have any columns of any types.  It is read if and only if it shows what some
row of the table shows (`Row.Shows`): every column under its name, with its type, `NULL` only where
the table allows it, and in the columns of names one of the names that are known.  Then what is read
is what that row of the table holds, column for column (`Row.job_eq_ok`, `Row.attempt_eq_ok`,
`Row.heartbeat_eq_ok`).

One half says that a reader gets out of a cell what was put in, and the other that nothing else is
taken for it.  Both come from `Reader.Reads`, which says what a reader accepts; a row that shows
what another shows is read alike because readers see nothing but cells (`Row.read?`).
-/

namespace Dispatch

/-! ## Names -/

theorem JobStatus.ofText?_eq_some {name : String} {status : JobStatus} :
    JobStatus.ofText? name = some status ↔ name = status.text :=
  ⟨fun h => by simpa [eq_comm] using List.find?_some h, fun h => h ▸ status.ofText?_text⟩

theorem FailureCode.ofText?_eq_some {name : String} {code : FailureCode} :
    FailureCode.ofText? name = some code ↔ name = code.text :=
  ⟨fun h => by simpa [eq_comm] using List.find?_some h, fun h => h ▸ code.ofText?_text⟩

theorem WorkerState.ofText?_eq_some {name : String} {state : WorkerState} :
    WorkerState.ofText? name = some state ↔ name = state.text :=
  ⟨fun h => by simpa [eq_comm] using List.find?_some h, fun h => h ▸ state.ofText?_text⟩

namespace Postgres

theorem statusOf_eq_ok {name : String} {status : JobStatus} :
    statusOf name = .ok status ↔ name = status.text := by
  rw [← JobStatus.ofText?_eq_some, statusOf]
  cases JobStatus.ofText? name <;> simp

theorem codeOf_eq_ok {name : String} {code : FailureCode} :
    codeOf name = .ok code ↔ name = code.text := by
  rw [← FailureCode.ofText?_eq_some, codeOf]
  cases FailureCode.ofText? name <;> simp

theorem stateOf_eq_ok {name : String} {state : WorkerState} :
    stateOf name = .ok state ↔ name = state.text := by
  rw [← WorkerState.ofText?_eq_some, stateOf]
  cases WorkerState.ofText? name <;> simp

theorem optionalCodeOf_eq_ok {name : Option String} {code : Option FailureCode} :
    optionalCodeOf name = .ok code ↔ name = code.map (·.text) := by
  constructor
  · intro h
    cases name with
    | none =>
      cases h
      rfl
    | some name =>
      rw [optionalCodeOf] at h
      cases hcode : codeOf name with
      | error fault => cases (congrArg (Except.map some) hcode).symm.trans h
      | ok c =>
        cases (congrArg (Except.map some) hcode).symm.trans h
        rw [codeOf_eq_ok.1 hcode]
        rfl
  · rintro rfl
    exact optionalCodeOf_text code

theorem cells_eq_ok {α : Type} {entity : String} {read : Option α} {a : α} :
    cells entity read = .ok a ↔ read = some a := by
  cases read <;> simp [cells]

/-! ## Cells -/

namespace Row

/-- A reader takes values of one form, and gets out of them what was put in. -/
def Reader.Reads {α β : Type} (r : Reader α) (value : β → Value) (of : β → α) : Prop :=
  ∀ v a, r.ofValue? v = some a ↔ ∃ b, v = value b ∧ a = of b

theorem uuid_reads : uuid.Reads .uuid id := by
  intro v a
  cases v <;> simp [uuid, eq_comm]

theorem text_reads : text.Reads .text id := by
  intro v a
  cases v <;> simp [text, eq_comm]

theorem int4_reads : int4.Reads .int id := by
  intro v a
  cases v <;> simp [int4, eq_comm]

theorem int8_reads : int8.Reads .int id := by
  intro v a
  cases v <;> simp [int8, eq_comm]

theorem float8_reads : float8.Reads .float id := by
  intro v a
  cases v <;> simp [float8, eq_comm]

theorem bool_reads : bool.Reads .bool id := by
  intro v a
  cases v <;> simp [bool, eq_comm]

theorem jsonb_reads : jsonb.Reads .json id := by
  intro v a
  cases v <;> simp [jsonb, eq_comm]

theorem timestamptz_reads : timestamptz.Reads .time Timestamp.ofTime := by
  intro v a
  cases v <;> simp [timestamptz, eq_comm]

variable {α β γ : Type} {r : Reader α} {value : β → Value} {of : β → α} {row other : Row}
  {name : String}

/-- What goes on after a cell that must hold a value goes on with what was put in. -/
theorem Reader.Reads.required (h : r.Reads value of) {k : α → Option γ} {c : γ}
    (hk : row.required name r >>= k = some c) :
    ∃ b, row.read? name r.type = some (some (value b)) ∧ k (of b) = some c := by
  obtain ⟨a, ha, hc⟩ := Option.bind_eq_some_iff.1 hk
  obtain ⟨_, hread, hv⟩ := Option.bind_eq_some_iff.1 ha
  obtain ⟨v, rfl, hv⟩ := Option.bind_eq_some_iff.1 hv
  obtain ⟨b, rfl, rfl⟩ := (h v a).1 hv
  exact ⟨b, hread, hc⟩

/-- What goes on after a cell that may be `NULL` goes on with what was put in. -/
theorem Reader.Reads.optional (h : r.Reads value of) {k : Option α → Option γ} {c : γ}
    (hk : row.optional name r >>= k = some c) :
    ∃ b : Option β, row.read? name r.type = some (b.map value) ∧ k (b.map of) = some c := by
  obtain ⟨a, ha, hc⟩ := Option.bind_eq_some_iff.1 hk
  obtain ⟨_ | v, hread, hv⟩ := Option.bind_eq_some_iff.1 ha
  · cases hv
    exact ⟨none, hread, hc⟩
  · obtain ⟨a', ha', rfl⟩ := Option.map_eq_some_iff.1 hv
    obtain ⟨b, rfl, rfl⟩ := (h v a').1 ha'
    exact ⟨some b, hread, hc⟩

theorem Reader.Reads.required_same {value : α → Value} (h : r.Reads value id) {k : α → Option γ}
    {c : γ} (hk : row.required name r >>= k = some c) :
    ∃ a, row.read? name r.type = some (some (value a)) ∧ k a = some c :=
  h.required hk

theorem Reader.Reads.optional_same {value : α → Value} (h : r.Reads value id)
    {k : Option α → Option γ} {c : γ} (hk : row.optional name r >>= k = some c) :
    ∃ a : Option α, row.read? name r.type = some (a.map value) ∧ k a = some c := by
  obtain ⟨a, hread, hc⟩ := h.optional hk
  exact ⟨a, hread, by rwa [Option.map_id_fun] at hc⟩

/-! ## Rows -/

/-- A row has all that another has: each cell under its name, with its type and its content. -/
def Shows (row wire : Row) : Prop :=
  ∀ cell ∈ wire, row.read? cell.1 cell.2.type = some cell.2.content

/-- What is spelled out under a column is read there. -/
theorem read?_spell {columns : List Column} {contents : List (Option Value)}
    (distinct : (columns.map (·.name)).Nodup) (filled : columns.length = contents.length)
    {c : Column} (mem : c ∈ columns) :
    ∃ content, (c.name, (⟨c.type, content⟩ : Cell)) ∈ spell columns contents ∧
      read? (spell columns contents) c.name c.type = some content := by
  induction columns generalizing contents with
  | nil => cases mem
  | cons first columns ih =>
    obtain _ | ⟨content, contents⟩ := contents
    · cases filled
    rw [List.map_cons, List.nodup_cons] at distinct
    rcases List.mem_cons.1 mem with rfl | mem
    · exact ⟨content, List.mem_cons_self, read?_cons_eq⟩
    · obtain ⟨later, hmem, hread⟩ := ih distinct.2 (Nat.succ.inj filled) mem
      have hne : first.name ≠ c.name := fun h => distinct.1 (h ▸ List.mem_map_of_mem mem)
      exact ⟨later, List.mem_cons_of_mem _ hmem, (read?_cons_ne hne).trans hread⟩

/-- A row that shows what is spelled out under columns is read there like it. -/
theorem Shows.reads_alike {columns : List Column} {contents : List (Option Value)}
    (distinct : (columns.map (·.name)).Nodup) (filled : columns.length = contents.length)
    (h : row.Shows (spell columns contents)) :
    ∀ c ∈ columns, row.read? c.name c.type = read? (spell columns contents) c.name c.type := by
  intro c mem
  obtain ⟨content, hmem, hread⟩ := read?_spell distinct filled mem
  exact (h _ hmem).trans hread.symm

end Row

/-- One reading after another. -/
theorem Reading.bind_eq_ok {α β : Type} {x : Reading α} {k : α → Reading β} {b : β} :
    x >>= k = .ok b ↔ ∃ a, x = .ok a ∧ k a = .ok b := by
  cases x <;> simp [Bind.bind, Except.bind]

/-! ## Jobs -/

theorem Row.jobCells?_congr {row other : Row}
    (h : ∀ c ∈ Statement.jobColumns, row.read? c.name c.type = other.read? c.name c.type) :
    row.jobCells? = other.jobCells? := by
  simp only [Statement.jobColumns, List.forall_mem_cons] at h
  simp only [Row.jobCells?, Row.required, Row.optional, Row.uuid, Row.text, Row.int4, Row.jsonb,
    Row.timestamptz, h]

/-- A row is read as a job if and only if it shows a row of `jobs` that holds the job. -/
theorem Row.job_eq_ok {row : Row} {j : Job} :
    row.job = .ok j ↔ ∃ r : JobRow, row.Shows r.wire ∧ j = r.job := by
  constructor
  · intro h
    obtain ⟨⟨j₀, name, code⟩, hcells, h⟩ := Reading.bind_eq_ok.1 h
    obtain ⟨status, hstatus, h⟩ := Reading.bind_eq_ok.1 h
    obtain ⟨errorCode, hcode, h⟩ := Reading.bind_eq_ok.1 h
    cases h
    rw [statusOf_eq_ok] at hstatus
    rw [optionalCodeOf_eq_ok] at hcode
    rw [cells_eq_ok] at hcells
    -- the columns in the order in which they are read
    obtain ⟨uuid, hid, h⟩ := uuid_reads.required_same hcells
    obtain ⟨tenant, htenant, h⟩ := text_reads.required_same h
    obtain ⟨_, hname, h⟩ := text_reads.required_same h
    obtain ⟨priority, hpriority, h⟩ := int4_reads.required_same h
    obtain ⟨model, hmodel, h⟩ := text_reads.required_same h
    obtain ⟨payload, hpayload, h⟩ := jsonb_reads.required_same h
    obtain ⟨key, hkey, h⟩ := text_reads.optional_same h
    obtain ⟨attempt, hattempt, h⟩ := int4_reads.required_same h
    obtain ⟨maxAttempts, hmax, h⟩ := int4_reads.required_same h
    obtain ⟨createdAt, hcreated, h⟩ := timestamptz_reads.required h
    obtain ⟨startedAt, hstarted, h⟩ := timestamptz_reads.optional h
    obtain ⟨finishedAt, hfinished, h⟩ := timestamptz_reads.optional h
    obtain ⟨_, hread, h⟩ := text_reads.optional_same h
    obtain ⟨errorMessage, hmessage, h⟩ := text_reads.optional_same h
    obtain ⟨trace, htrace, h⟩ := uuid_reads.required_same h
    cases h
    subst hstatus hcode
    refine ⟨{ id := ⟨uuid⟩, tenant, status, priority, model, payload, key, attempt, maxAttempts
              createdAt, startedAt, finishedAt, errorCode, errorMessage, trace := ⟨trace⟩ },
      ?_, rfl⟩
    simp only [Shows, JobRow.wire, spell, Statement.jobColumns, List.zipWith_cons_cons,
      List.zipWith_nil_left, List.forall_mem_cons]
    rw [Option.map_map] at hread
    exact ⟨hid, htenant, hname, hpriority, hmodel, hpayload, hkey, hattempt, hmax, hcreated,
      hstarted, hfinished, hread, hmessage, htrace, fun _ h => absurd h List.not_mem_nil⟩
  · -- nothing but the cells is looked at, and they are those of `r.wire`
    rintro ⟨r, h, rfl⟩
    have alike := row.jobCells?_congr (h.reads_alike (by decide) rfl)
    have hwire := r.job_wire
    rw [Row.job] at hwire ⊢
    rw [alike]
    exact hwire

/-! ## Attempts -/

theorem Row.attemptCells?_congr {row other : Row}
    (h : ∀ c ∈ Statement.attemptColumns, row.read? c.name c.type = other.read? c.name c.type) :
    row.attemptCells? = other.attemptCells? := by
  simp only [Statement.attemptColumns, List.forall_mem_cons] at h
  simp only [Row.attemptCells?, Row.required, Row.optional, Row.uuid, Row.text, Row.int4, Row.int8,
    Row.float8, Row.bool, Row.jsonb, Row.timestamptz, h]

/-- A row is read as an attempt if and only if it shows a row of `job_attempts` that holds the
attempt. -/
theorem Row.attempt_eq_ok {row : Row} {a : Attempt} :
    row.attempt = .ok a ↔ ∃ r : AttemptRow, row.Shows r.wire ∧ a = r.attempt := by
  constructor
  · intro h
    obtain ⟨⟨a₀, code⟩, hcells, h⟩ := Reading.bind_eq_ok.1 h
    obtain ⟨errorCode, hcode, h⟩ := Reading.bind_eq_ok.1 h
    cases h
    rw [optionalCodeOf_eq_ok] at hcode
    rw [cells_eq_ok] at hcells
    obtain ⟨uuid, hjob, h⟩ := uuid_reads.required_same hcells
    obtain ⟨number, hnumber, h⟩ := int4_reads.required_same h
    obtain ⟨startedAt, hstarted, h⟩ := timestamptz_reads.required h
    obtain ⟨finishedAt, hfinished, h⟩ := timestamptz_reads.optional h
    obtain ⟨success, hsuccess, h⟩ := bool_reads.optional_same h
    obtain ⟨_, hread, h⟩ := text_reads.optional_same h
    obtain ⟨errorMessage, hmessage, h⟩ := text_reads.optional_same h
    obtain ⟨tokens, htokens, h⟩ := int8_reads.required_same h
    obtain ⟨cost, hcost, h⟩ := float8_reads.required_same h
    obtain ⟨providerMeta, hmeta, h⟩ := jsonb_reads.required_same h
    cases h
    subst hcode
    refine ⟨{ job := ⟨uuid⟩, number, startedAt, finishedAt, success, errorCode, errorMessage
              tokens, cost, providerMeta }, ?_, rfl⟩
    simp only [Shows, AttemptRow.wire, spell, Statement.attemptColumns, List.zipWith_cons_cons,
      List.zipWith_nil_left, List.forall_mem_cons]
    rw [Option.map_map] at hread
    exact ⟨hjob, hnumber, hstarted, hfinished, hsuccess, hread, hmessage, htokens, hcost, hmeta,
      fun _ h => absurd h List.not_mem_nil⟩
  · rintro ⟨r, h, rfl⟩
    have alike := row.attemptCells?_congr (h.reads_alike (by decide) rfl)
    have hwire := r.attempt_wire
    rw [Row.attempt] at hwire ⊢
    rw [alike]
    exact hwire

/-! ## Events -/

theorem Row.event_congr {row other : Row}
    (h : ∀ c ∈ Statement.eventColumns, row.read? c.name c.type = other.read? c.name c.type) :
    row.event = other.event := by
  simp only [Statement.eventColumns, List.forall_mem_cons] at h
  simp only [Row.event, Row.required, Row.optional, Row.uuid, Row.text, Row.int8, Row.timestamptz,
    h]

/-- A row is read as an event if and only if it shows a row of `events` that holds the event. -/
theorem Row.event_eq_ok {row : Row} {e : Event} :
    row.event = .ok e ↔ ∃ r : EventRow, row.Shows r.wire ∧ e = r.event := by
  constructor
  · intro h
    rw [Row.event, cells_eq_ok] at h
    obtain ⟨id, hid, h⟩ := int8_reads.required_same h
    obtain ⟨tag, htag, h⟩ := text_reads.required_same h
    obtain ⟨job, hjob, h⟩ := uuid_reads.optional_same h
    obtain ⟨worker, hworker, h⟩ := text_reads.optional_same h
    obtain ⟨details, hdetails, h⟩ := text_reads.required_same h
    obtain ⟨createdAt, hcreated, h⟩ := timestamptz_reads.required h
    cases h
    refine ⟨{ id, tag, job := job.map (⟨·⟩), worker := worker.map (⟨·⟩), details, createdAt },
      ?_, rfl⟩
    simp only [Shows, EventRow.wire, spell, Statement.eventColumns, List.zipWith_cons_cons,
      List.zipWith_nil_left, List.forall_mem_cons, Option.map_map]
    exact ⟨hid, htag, hjob, hworker, hdetails, hcreated, fun _ h => absurd h List.not_mem_nil⟩
  · rintro ⟨r, h, rfl⟩
    exact (row.event_congr (h.reads_alike (by decide) rfl)).trans r.event_wire

/-! ## Workers -/

theorem Row.heartbeatCells?_congr {row other : Row}
    (h : ∀ c ∈ Statement.workerColumns, row.read? c.name c.type = other.read? c.name c.type) :
    row.heartbeatCells? = other.heartbeatCells? := by
  simp only [Statement.workerColumns, List.forall_mem_cons] at h
  simp only [Row.heartbeatCells?, Row.required, Row.optional, Row.uuid, Row.text, Row.int4,
    Row.timestamptz, h]

/-- A row is read as a report if and only if it shows a row of `workers` that holds the report. -/
theorem Row.heartbeat_eq_ok {row : Row} {b : Heartbeat} :
    row.heartbeat = .ok b ↔ ∃ r : WorkerRow, row.Shows r.wire ∧ b = r.heartbeat := by
  constructor
  · intro h
    obtain ⟨⟨b₀, name⟩, hcells, h⟩ := Reading.bind_eq_ok.1 h
    obtain ⟨state, hstate, h⟩ := Reading.bind_eq_ok.1 h
    cases h
    rw [stateOf_eq_ok] at hstate
    rw [cells_eq_ok] at hcells
    obtain ⟨worker, hworker, h⟩ := text_reads.required_same hcells
    obtain ⟨seenAt, hseen, h⟩ := timestamptz_reads.required h
    obtain ⟨_, hname, h⟩ := text_reads.required_same h
    obtain ⟨running, hrunning, h⟩ := uuid_reads.optional_same h
    obtain ⟨concurrency, hconcurrency, h⟩ := int4_reads.required_same h
    cases h
    subst hstate
    refine ⟨{ worker := ⟨worker⟩, seenAt, state, running := running.map (⟨·⟩), concurrency },
      ?_, rfl⟩
    simp only [Shows, WorkerRow.wire, spell, Statement.workerColumns, List.zipWith_cons_cons,
      List.zipWith_nil_left, List.forall_mem_cons, Option.map_map]
    exact ⟨hworker, hseen, hname, hrunning, hconcurrency, fun _ h => absurd h List.not_mem_nil⟩
  · rintro ⟨r, h, rfl⟩
    have alike := row.heartbeatCells?_congr (h.reads_alike (by decide) rfl)
    have hwire := r.heartbeat_wire
    rw [Row.heartbeat] at hwire ⊢
    rw [alike]
    exact hwire

/-! ## Counts -/

theorem Row.count_congr {row other : Row}
    (h : ∀ c ∈ Statement.countColumns, row.read? c.name c.type = other.read? c.name c.type) :
    row.count = other.count := by
  simp only [Statement.countColumns, List.forall_mem_cons] at h
  simp only [Row.count, Row.required, Row.text, Row.int8, h]

theorem Row.shows_countWire {row : Row} {counted : JobStatus × Int} :
    row.Shows (countWire counted) ↔
      row.read? "status" .text = some (some (.text counted.1.text)) ∧
        row.read? "count" .int8 = some (some (.int counted.2)) := by
  simp [Shows, countWire, spell, Statement.countColumns]

/-- A row is read as a count if and only if it shows a status and a number. -/
theorem Row.count_eq_ok {row : Row} {x : JobStatus × Nat} :
    row.count = .ok x ↔
      ∃ counted, row.Shows (countWire counted) ∧ x = (counted.1, counted.2.toNat) := by
  constructor
  · intro h
    obtain ⟨⟨name, n⟩, hcells, h⟩ := Reading.bind_eq_ok.1 h
    obtain ⟨status, hstatus, h⟩ := Reading.bind_eq_ok.1 h
    cases h
    rw [statusOf_eq_ok] at hstatus
    rw [cells_eq_ok] at hcells
    obtain ⟨_, hname, h⟩ := text_reads.required_same hcells
    obtain ⟨_, hn, h⟩ := int8_reads.required_same h
    cases h
    subst hstatus
    exact ⟨(status, n), shows_countWire.2 ⟨hname, hn⟩, rfl⟩
  · rintro ⟨counted, h, rfl⟩
    exact (row.count_congr (h.reads_alike (by decide) rfl)).trans (count_wire counted)

/-! ## Names that are not known -/

section Names

variable {row : Row}

theorem JobRow.read_status {r : JobRow} (h : row.Shows r.wire) :
    row.read? "status" .text = some (some (.text r.status.text)) :=
  h ("status", ⟨.text, some (.text r.status.text)⟩) (by simp [wire, spell, Statement.jobColumns])

theorem JobRow.read_code {r : JobRow} (h : row.Shows r.wire) :
    row.read? "error_code" .text = some (r.errorCode.map fun c => .text c.text) :=
  h ("error_code", ⟨.text, r.errorCode.map fun c => .text c.text⟩)
    (by simp [wire, spell, Statement.jobColumns])

theorem AttemptRow.read_code {r : AttemptRow} (h : row.Shows r.wire) :
    row.read? "error_code" .text = some (r.errorCode.map fun c => .text c.text) :=
  h ("error_code", ⟨.text, r.errorCode.map fun c => .text c.text⟩)
    (by simp [wire, spell, Statement.attemptColumns])

theorem WorkerRow.read_state {r : WorkerRow} (h : row.Shows r.wire) :
    row.read? "state" .text = some (some (.text r.state.text)) :=
  h ("state", ⟨.text, some (.text r.state.text)⟩) (by simp [wire, spell, Statement.workerColumns])

/-- A status that is read is known. -/
theorem known_status {name : String} {status : JobStatus}
    (read : row.read? "status" .text = some (some (.text name)))
    (shown : row.read? "status" .text = some (some (.text status.text))) :
    JobStatus.ofText? name = some status := by
  cases read.symm.trans shown
  exact status.ofText?_text

/-- A code that is read is known. -/
theorem known_code {name : String} {code : Option FailureCode}
    (read : row.read? "error_code" .text = some (some (.text name)))
    (shown : row.read? "error_code" .text = some (code.map fun c => .text c.text)) :
    ∃ c, FailureCode.ofText? name = some c := by
  cases code with
  | none => cases read.symm.trans shown
  | some c =>
    cases read.symm.trans shown
    exact ⟨c, c.ofText?_text⟩

end Names

/-- What a row is read as, if it is read at all. -/
structure Row.Understood (row : Row) : Prop where
  /-- A job, an attempt and a report are read as what they are in the tables, column for column. -/
  job : ∀ j, row.job = .ok j ↔ ∃ r : JobRow, row.Shows r.wire ∧ j = r.job
  attempt : ∀ a, row.attempt = .ok a ↔ ∃ r : AttemptRow, row.Shows r.wire ∧ a = r.attempt
  heartbeat : ∀ b, row.heartbeat = .ok b ↔ ∃ r : WorkerRow, row.Shows r.wire ∧ b = r.heartbeat
  /-- Nothing is read off a row with a status, a code or a state that is not known. -/
  status : ∀ name, row.read? "status" .text = some (some (.text name)) →
    JobStatus.ofText? name = none →
      (¬ ∃ r : JobRow, row.Shows r.wire) ∧ ¬ ∃ counted, row.Shows (countWire counted)
  code : ∀ name, row.read? "error_code" .text = some (some (.text name)) →
    FailureCode.ofText? name = none →
      (¬ ∃ r : JobRow, row.Shows r.wire) ∧ ¬ ∃ r : AttemptRow, row.Shows r.wire
  state : ∀ name, row.read? "state" .text = some (some (.text name)) →
    WorkerState.ofText? name = none → ¬ ∃ r : WorkerRow, row.Shows r.wire

theorem Row.understood (row : Row) : row.Understood where
  job := fun _ => row.job_eq_ok
  attempt := fun _ => row.attempt_eq_ok
  heartbeat := fun _ => row.heartbeat_eq_ok
  status := by
    intro name read unknown
    constructor
    · rintro ⟨r, h⟩
      cases unknown.symm.trans (known_status read (JobRow.read_status h))
    · rintro ⟨counted, h⟩
      cases unknown.symm.trans (known_status read (shows_countWire.1 h).1)
  code := by
    intro name read unknown
    constructor
    · rintro ⟨r, h⟩
      obtain ⟨c, known⟩ := known_code read (JobRow.read_code h)
      cases unknown.symm.trans known
    · rintro ⟨r, h⟩
      obtain ⟨c, known⟩ := known_code read (AttemptRow.read_code h)
      cases unknown.symm.trans known
  state := by
    rintro name read unknown ⟨r, h⟩
    cases read.symm.trans (WorkerRow.read_state h)
    cases unknown.symm.trans r.state.ofText?_text

end Postgres

end Dispatch
