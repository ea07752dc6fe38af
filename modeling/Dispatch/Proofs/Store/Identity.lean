import Dispatch.Proofs.Service.Memory
import Dispatch.Proofs.Store.Replay
import Dispatch.Postgres.Store

/-!
# Stored jobs are fit for their table and keep what they are

The table of jobs has checks on its columns, and readers take it for granted that a job has a
tenant, a model and a payload that says something.  `Job.Fit` collects this.  A job is fit when it
is made of a draft (`Job.fit_queued`); afterwards its row is rewritten by every turn of its life,
but no turn touches what the job is (`Job.identity`), and the attempts are only counted up.  All of
this is one case analysis (`Turn.origin`), from which the rest follows by the usual induction over
the calls.

A draft gets its defaults in more than one place.  They agree, because what has been filled in stays
(`Draft.FilledOnce`).
-/

namespace Dispatch

/-- What a job is, as opposed to what becomes of it. -/
structure Identity where
  id : JobId
  tenant : String
  priority : Int
  model : String
  payload : Json
  idempotencyKey : Option String
  maxAttempts : Int
  createdAt : Timestamp
  trace : TraceId

namespace Job

/-- What the row says the job is. -/
def identity (j : Job) : Identity :=
  { id := j.id, tenant := j.tenant, priority := j.priority, model := j.model, payload := j.payload
    idempotencyKey := j.idempotencyKey, maxAttempts := j.maxAttempts, createdAt := j.createdAt
    trace := j.trace }

/-- The row passes the checks of the table of jobs, and says for whom, by what and about what. -/
structure Fit (j : Job) : Prop where
  priority : 0 < j.priority
  maxAttempts : 0 < j.maxAttempts
  attempt : 0 ≤ j.attempt
  tenant : Text.allBlank j.tenant = false
  model : Text.allBlank j.model = false
  payload : j.payload ≠ .null ∧ j.payload ≠ .str ""
  key : j.idempotencyKey ≠ some ""

variable {j k : Job}

/-- A job that is fit stays so while it stays what it is and its attempts are only counted up. -/
theorem Fit.of_identity (fit : j.Fit) (same : k.identity = j.identity)
    (le : j.attempt ≤ k.attempt) : k.Fit := by
  have htenant : k.tenant = j.tenant := congrArg Identity.tenant same
  have hpriority : k.priority = j.priority := congrArg Identity.priority same
  have hmodel : k.model = j.model := congrArg Identity.model same
  have hpayload : k.payload = j.payload := congrArg Identity.payload same
  have hkey : k.idempotencyKey = j.idempotencyKey := congrArg Identity.idempotencyKey same
  have hattempts : k.maxAttempts = j.maxAttempts := congrArg Identity.maxAttempts same
  refine ⟨?_, ?_, Int.le_trans fit.attempt le, ?_, ?_, ?_, ?_⟩
  · rw [hpriority]
    exact fit.priority
  · rw [hattempts]
    exact fit.maxAttempts
  · rw [htenant]
    exact fit.tenant
  · rw [hmodel]
    exact fit.model
  · rw [hpayload]
    exact fit.payload
  · rw [hkey]
    exact fit.key

/-- A complete draft makes a job that is fit. -/
theorem fit_queued {d : Draft} (complete : d.isComplete = true) (ids : FreshIds) (now : Time) :
    (Job.queued d ids now).Fit := by
  have hnumbers := d.normalized_checked
  have hpayload := d.isEmptyPayload_normalized
  rw [Draft.isComplete, Bool.and_eq_true, Bool.not_eq_true', Bool.not_eq_true'] at complete
  refine ⟨?_, ?_, Int.le_refl 0, complete.1, complete.2, ⟨?_, ?_⟩, d.key_normalized⟩
  · show 0 < d.normalized.priority
    omega
  · show 0 < d.normalized.maxAttempts
    omega
  · intro hnull
    rw [show d.normalized.payload = .null from hnull] at hpayload
    cases hpayload
  · intro hempty
    rw [show d.normalized.payload = .str "" from hempty] at hpayload
    simp [Draft.isEmptyPayload] at hpayload

end Job

namespace Store

variable {s s' t : Store} {now : Time} {d : Deed} {after j : Job} {id : JobId}

/-! ## Turns -/

/-- A turn makes a job of a complete draft, or it leaves what the job is and counts its attempts
up if anything. -/
theorem Turn.origin (turn : Turn now s d after s') :
    (s.jobs.get? after.id = none ∧ ∃ draft : Draft, ∃ ids, draft.isComplete = true ∧
        after = Job.queued draft ids now) ∨
      ∃ j, s.jobs.get? after.id = some j ∧ after.identity = j.identity ∧
        j.attempt ≤ after.attempt := by
  cases turn with
  | @created draft ids valid unclaimed unknown =>
    exact .inl ⟨unknown, draft, ids, Draft.complete_of_validate valid,
      Job.queued_normalized draft ids now⟩
  | @started j worker stored waiting =>
    refine .inr ⟨j, stored, rfl, ?_⟩
    show j.attempt ≤ j.attempt + 1
    omega
  -- the other turns count nothing
  | @succeeded j worker usage stored running
  | @failed j worker code message stored running
  | @dropped j reason stored waiting
  | @stopped j reason stored running
  | @retried j stored ended
  | @requeued j stored running => exact .inr ⟨j, stored, rfl, Int.le_refl _⟩

/-- Where all jobs are fit, a turn leaves a job that is fit. -/
theorem Turn.fit (turn : Turn now s d after s')
    (fit : ∀ id j, s.jobs.get? id = some j → j.Fit) : after.Fit := by
  rcases turn.origin with ⟨-, draft, ids, complete, rfl⟩ | ⟨j, stored, same, le⟩
  · exact Job.fit_queued complete ids now
  · exact (fit after.id j stored).of_identity same le

/-! ## Changes -/

/-- A change leaves all jobs fit. -/
theorem Change.fit (change : Change now s t) (fit : ∀ id j, s.jobs.get? id = some j → j.Fit) :
    ∀ id j, t.jobs.get? id = some j → j.Fit := by
  cases change with
  | report workers => exact fit
  | turn turn =>
    intro id j hj
    rw [turn.get?_jobs] at hj
    split at hj
    · cases hj
      exact turn.fit fit
    · exact fit id j hj

/-- A job is there after a change, and what it is has not changed. -/
theorem Change.same (change : Change now s t) (stored : s.jobs.get? id = some j) :
    ∃ k, t.jobs.get? id = some k ∧ k.identity = j.identity := by
  cases change with
  | report workers => exact ⟨j, stored, rfl⟩
  | turn turn =>
    rw [turn.get?_jobs]
    split
    · rename_i hid
      subst hid
      rcases turn.origin with ⟨unknown, -⟩ | ⟨k, hk, same, -⟩
      · rw [unknown] at stored
        cases stored
      · rw [stored] at hk
        cases hk
        exact ⟨_, rfl, same⟩
    · exact ⟨j, stored, rfl⟩

/-! ## Runs -/

/-- A job is there after all calls, and what it is has not changed. -/
theorem Orderly.same_afterAll (h : s.Orderly) (stored : s.jobs.get? id = some j)
    (calls : List (Moment × StoreCall)) :
    ∃ k, (s.afterAll calls).jobs.get? id = some k ∧ k.identity = j.identity := by
  refine (kept_by_afterAll
    (P := fun u => ∃ k, u.jobs.get? id = some k ∧ k.identity = j.identity) h ?_
    ⟨j, stored, rfl⟩ calls).2
  rintro now a b - change ⟨k, hk, same⟩
  obtain ⟨l, hl, same'⟩ := change.same hk
  exact ⟨l, hl, same'.trans same⟩

/-- The rows of a store are fit for their tables. -/
structure Fit (s : Store) : Prop where
  jobs : ∀ id j, s.jobs.get? id = some j → j.Fit
  /-- A job's attempts are its starts in the log, so they are no more than there is room for as long
  as the starts are not. -/
  counted : ∀ id j, s.jobs.get? id = some j →
    j.attempt = ((s.eventsOf id).countP (·.is .started) : Int)
  attempts : ∀ id n row, s.attempts.get? (id, n) = some row → row.number = n ∧ 0 < n ∧
    ∃ j, s.jobs.get? id = some j ∧ n ≤ j.attempt

theorem fit_lived {past : List Dealing} (lived : Lived past s) : s.Fit where
  jobs := (lived.kept (P := fun u => ∀ id j, u.jobs.get? id = some j → j.Fit)
    (by simp [Store.empty]) fun _ change fit => change.fit fit).2
  counted id j hj := by
    have hstarts := (Chronicle.lived lived).starts id
    rw [hj] at hstarts
    exact hstarts.symm
  attempts id n row hrow := by
    have ledger := Ledger.lived lived
    obtain ⟨-, hnumber⟩ := lived.orderly.named id n row hrow
    cases hj : s.jobs.get? id with
    | none =>
      rw [ledger.unowned id n hj] at hrow
      cases hrow
    | some j =>
      obtain ⟨hpositive, hle⟩ := (ledger.booked id j hj).numbered hrow
      exact ⟨hnumber, by omega, j, rfl, hle⟩

/-- An accepted draft leads to a stored job, which is the one that the draft asks for unless it was
there before. -/
theorem Orderly.create_stored (h : s.Orderly) {m : Moment} {draft : Draft} {found : Bool}
    (accepted : (s.perform m (.create draft)).1 = .ok (j, found)) :
    (s.perform m (.create draft)).2.jobs.get? j.id = some j ∧
      (found = false → j = Job.queued draft m.fresh m.now) := by
  rw [Store.perform] at accepted ⊢
  cases hs : s.create draft m.fresh m.now with
  | error e =>
    rw [hs] at accepted
    cases accepted
  | ok r =>
    rw [hs] at accepted
    obtain ⟨⟨k, b⟩, t⟩ := r
    cases accepted
    rcases create_inv hs with ⟨rfl, rfl, -, id, -, -, stored⟩ | ⟨rfl, rfl, -, rfl⟩
    · refine ⟨h.get?_self stored, fun fresh => ?_⟩
      cases fresh
    · refine ⟨?_, fun _ => Job.queued_normalized draft m.fresh m.now⟩
      show (Store.register _ _ _ _).jobs.get? _ = _
      rw [get?_jobs_register, if_pos rfl]

end Store

/-! ## Defaults -/

/-- It does not matter where the defaults of a draft are filled in: what one place has filled in,
the others leave. -/
structure Draft.FilledOnce (d : Draft) : Prop where
  again : d.normalized.normalized = d.normalized
  queued : ∀ ids now, Job.queued d.normalized ids now = Job.queued d ids now
  memory : ∀ (s : Store) (m : Moment),
    s.perform m (.create d.normalized) = s.perform m (.create d)
  database : ∀ ids, Postgres.create d.normalized ids = Postgres.create d ids
  service : ∀ (m : Moment) (w : Store × LeaseQueue),
    (Service.create d.normalized).run (.memory m) w = (Service.create d).run (.memory m) w

theorem Draft.filledOnce (d : Draft) : d.FilledOnce := by
  have hcreate : ∀ (s : Store) ids now, s.create d.normalized ids now = s.create d ids now := by
    intro s ids now
    rw [Store.create, Store.create, d.validate_normalized, d.normalized_normalized]
  refine ⟨d.normalized_normalized, Job.queued_normalized d, ?_, ?_, ?_⟩
  · intro s m
    show s.settle _ = s.settle _
    rw [hcreate]
  · intro ids
    rw [Postgres.create, Postgres.create, d.validate_normalized, d.normalized_normalized]
  · rintro m ⟨s, q⟩
    rw [Service.run_create, Service.run_create, hcreate]

namespace Store

variable {s : Store}

/-- What may be relied on about the jobs of a store. -/
structure Lasting (s : Store) : Prop where
  fit : s.Fit
  /-- A job is never lost, and it never becomes another job. -/
  same : ∀ later id j, s.jobs.get? id = some j →
    ∃ k, (s.afterAll later).jobs.get? id = some k ∧ k.identity = j.identity
  /-- Whoever has a draft accepted is told of a stored job. -/
  accepted : ∀ m draft j found, (s.perform m (.create draft)).1 = .ok (j, found) →
    (s.perform m (.create draft)).2.jobs.get? j.id = some j ∧
      (found = false → j = Job.queued draft m.fresh m.now)

/-- Whatever calls are made on the empty store, its jobs are fit for their table and stay what they
are whatever calls follow; and it does not matter where a draft gets its defaults. -/
theorem lasting_afterAll (calls : List (Moment × StoreCall)) :
    (empty.afterAll calls).Lasting ∧ ∀ d : Draft, d.FilledOnce := by
  have hlived := Lived.dealings calls
  refine ⟨⟨fit_lived hlived, ?_, ?_⟩, Draft.filledOnce⟩
  · intro later id j stored
    exact hlived.orderly.same_afterAll stored later
  · intro m draft j found accepted
    exact hlived.orderly.create_stored accepted

end Store

end Dispatch
