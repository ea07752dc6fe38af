import Dispatch.Proofs.Job.Life
import Dispatch.Store.Basic

/-!
# Turns: what happens to the jobs in the store

A `Deed` is what happens to one job, and a `Turn` is a deed done in a store.  A turn replaces the
job's row, writes to the row of the job's current attempt and to no other, adds one entry to the
log, and takes a step of the job's life: `Turn.get?_jobs`, `Turn.get?_attempts`, `Turn.events_eq`
and `Turn.found` say all that later proofs need to know about it.
-/

namespace Dispatch.Store

variable {s s' : Store} {now : Time}

/-! ## The tables after a write -/

@[simp]
theorem get?_jobs_putJob (s : Store) (j : Job) (id : JobId) :
    (s.putJob j).jobs.get? id = if j.id = id then some j else s.jobs.get? id :=
  Table.get?_set s.jobs j.id id j

@[simp] theorem events_putJob (s : Store) (j : Job) : (s.putJob j).events = s.events := rfl

@[simp]
theorem get?_attempts_putAttempt (s : Store) (a : Attempt) (key : JobId × Int) :
    (s.putAttempt a).attempts.get? key =
      if (a.job, a.number) = key then some a else s.attempts.get? key :=
  Table.get?_set s.attempts (a.job, a.number) key a

@[simp] theorem jobs_putAttempt (s : Store) (a : Attempt) : (s.putAttempt a).jobs = s.jobs := rfl

/-- The entry that an event leaves in the log. -/
def entry (s : Store) (kind : EventKind) (job : JobId) (worker : Option WorkerId)
    (details : String) (now : Time) : Event :=
  { id := (s.events.length : Int) + 1, tag := kind.tag, job := some job, worker, details
    createdAt := now }

section Log

variable (s : Store) (kind : EventKind) (job : JobId) (worker : Option WorkerId) (details : String)
  (now : Time)

@[simp] theorem jobs_log : (s.log kind job worker details now).jobs = s.jobs := rfl

@[simp] theorem attempts_log : (s.log kind job worker details now).attempts = s.attempts := rfl

@[simp] theorem events_log :
    (s.log kind job worker details now).events =
      s.events ++ [s.entry kind job worker details now] := rfl

end Log

section Close

variable (s : Store) (id : JobId) (n : Int) (code : FailureCode) (reason : String) (now : Time)

@[simp]
theorem jobs_closeAttempt : (s.closeAttempt id n code reason now).jobs = s.jobs := by
  unfold closeAttempt
  split <;> rfl

@[simp]
theorem events_closeAttempt : (s.closeAttempt id n code reason now).events = s.events := by
  unfold closeAttempt
  split <;> rfl

/-- Only the row of the attempt is closed. -/
theorem get?_attempts_closeAttempt
    (named : ∀ row, s.attempts.get? (id, n) = some row → row.job = id ∧ row.number = n)
    (key : JobId × Int) :
    (s.closeAttempt id n code reason now).attempts.get? key =
      if (id, n) = key then (s.attempts.get? (id, n)).map (·.fail code reason now)
      else s.attempts.get? key := by
  unfold closeAttempt
  cases hrow : s.attempts.get? (id, n) with
  | none =>
    by_cases hkey : (id, n) = key
    · rw [if_pos hkey, ← hkey]
      exact hrow
    · rw [if_neg hkey]
  | some row =>
    obtain ⟨hjob, hnumber⟩ := named row hrow
    simp [hjob, hnumber]

end Close

/-! ## Deeds -/

/-- What closes a row. -/
inductive Verdict where
  | done (usage : Usage)
  | broken (code : FailureCode) (message : String)
deriving DecidableEq

/-- The row, closed by the verdict if it was open. -/
def Verdict.close (now : Time) (row : Attempt) : Verdict → Attempt
  | done usage => row.succeed usage now
  | broken code message => row.fail code message now

namespace Verdict

variable (now : Time) (row : Attempt) (v : Verdict)

@[simp] theorem close_job : (v.close now row).job = row.job := by
  cases v <;> simp [close]

@[simp] theorem close_number : (v.close now row).number = row.number := by
  cases v <;> simp [close]

end Verdict

/-- What happens to one job. -/
inductive Deed where
  /-- The job is accepted. -/
  | created
  /-- The next attempt of the waiting job opens. -/
  | started (worker : WorkerId)
  /-- The running attempt ends well. -/
  | succeeded (worker : WorkerId) (usage : Usage)
  /-- The running attempt ends badly. -/
  | failed (worker : WorkerId) (code : FailureCode) (message : String)
  /-- An operator gives up the waiting job. -/
  | dropped (reason : String)
  /-- An operator gives up the running job. -/
  | stopped (reason : String)
  /-- An operator sends the job back to waiting. -/
  | retried
  /-- Nobody vouches for the running job, which goes back to waiting. -/
  | requeued

namespace Deed

/-- The kind of event that the deed is in the log. -/
def kind : Deed → EventKind
  | created => .created
  | started _ => .started
  | succeeded _ _ => .succeeded
  | failed _ _ _ => .failed
  | dropped _ | stopped _ => .cancelled
  | retried => .retryScheduled
  | requeued => .requeued

/-- The worker who did it. -/
def worker : Deed → Option WorkerId
  | started worker | succeeded worker _ | failed worker _ _ => some worker
  | _ => none

/-- What the log has to say about it. -/
def note : Deed → String
  | created => createdNote
  | started _ => startedNote
  | succeeded _ _ => succeededNote
  | failed _ code _ => failedNote code
  | dropped reason | stopped reason => reason
  | retried => retriedNote
  | requeued => workerLostNote

/-- What becomes of the running attempt, if the deed ends one. -/
def verdict : Deed → Option Verdict
  | succeeded _ usage => some (.done usage)
  | failed _ code message => some (.broken code message)
  | stopped reason => some (.broken .cancelled reason)
  | requeued => some (.broken .workerLost workerLostNote)
  | _ => none

/-- The row of the job's current attempt after the deed. -/
def write (now : Time) (after : Job) (row : Option Attempt) : Deed → Option Attempt
  | started _ => some (.opened after.id after.attempt now)
  | d => match d.verdict with
    | some v => row.map (v.close now)
    | none => row

section Write

variable {d : Deed} {now : Time} {after : Job} {before : Option Attempt}

/-- What is written under an attempt's name carries the name. -/
theorem write_named {row : Attempt}
    (named : ∀ a, before = some a → a.job = after.id ∧ a.number = after.attempt)
    (hrow : d.write now after before = some row) :
    row.job = after.id ∧ row.number = after.attempt := by
  unfold write at hrow
  split at hrow
  · cases hrow
    exact ⟨rfl, rfl⟩
  · split at hrow
    · rename_i v _
      obtain ⟨a, ha, rfl⟩ := Option.map_eq_some_iff.1 hrow
      simpa using named a ha
    · exact named row hrow

theorem write_started (hd : d.kind = .started) :
    d.write now after before = some (.opened after.id after.attempt now) := by
  cases d <;> first | rfl | cases hd

theorem write_verdict {v : Verdict} (hv : d.verdict = some v) :
    d.write now after before = before.map (v.close now) := by
  cases d <;> cases hv <;> rfl

theorem write_idle (hd : d.kind ≠ .started) (hv : d.verdict = none) :
    d.write now after before = before := by
  cases d with
  | started worker => exact absurd rfl hd
  | _ => first | rfl | cases hv

/-- A start ends nothing. -/
theorem verdict_started (hd : d.kind = .started) : d.verdict = none := by
  cases d <;> first | rfl | cases hd

end Write

theorem worker_isSome (d : Deed) : d.worker.isSome = d.kind.isWorkers := by
  cases d <;> rfl

end Deed

/-! ## Turns -/

/-- One job takes a turn: the deed happens to it, and its row becomes the given one. -/
inductive Turn (now : Time) (s : Store) : Deed → Job → Store → Prop
  | created {draft : Draft} {ids : FreshIds} (valid : draft.validate = .ok ())
      (unclaimed : (draft.normalized.claim.bind fun k => (s.keys.get? k).bind s.jobs.get?) = none)
      (unknown : s.jobs.get? ids.job = none) :
      Turn now s .created (Job.queued draft.normalized ids now)
        (s.register draft.normalized.claim (Job.queued draft.normalized ids now) now)
  | started {j : Job} (worker : WorkerId) (stored : s.jobs.get? j.id = some j)
      (waiting : j.status = .queued) :
      Turn now s (.started worker) (j.begun now) (((s.putJob (j.begun now)).putAttempt
        (.opened j.id (j.begun now).attempt now)).log .started j.id (some worker) startedNote now)
  | succeeded {j : Job} (worker : WorkerId) (usage : Usage) (stored : s.jobs.get? j.id = some j)
      (running : j.status = .running) :
      Turn now s (.succeeded worker usage) (j.completed now)
        (((s.putJob (j.completed now)).putAttempt
          ((s.attemptRow j.id j.attempt now).succeed usage now)).log .succeeded j.id (some worker)
            succeededNote now)
  | failed {j : Job} (worker : WorkerId) (code : FailureCode) (message : String)
      (stored : s.jobs.get? j.id = some j) (running : j.status = .running) :
      Turn now s (.failed worker code message) (j.broken code message now)
        (((s.putJob (j.broken code message now)).putAttempt
          ((s.attemptRow j.id j.attempt now).fail code message now)).log .failed j.id (some worker)
            (failedNote code) now)
  | dropped {j : Job} (reason : String) (stored : s.jobs.get? j.id = some j)
      (waiting : j.status = .queued) :
      Turn now s (.dropped reason) (j.withdrawn reason now)
        ((s.putJob (j.withdrawn reason now)).log .cancelled j.id none reason now)
  | stopped {j : Job} (reason : String) (stored : s.jobs.get? j.id = some j)
      (running : j.status = .running) :
      Turn now s (.stopped reason) (j.withdrawn reason now)
        (((s.putJob (j.withdrawn reason now)).closeAttempt j.id j.attempt .cancelled
          reason now).log .cancelled j.id none reason now)
  | retried {j : Job} (stored : s.jobs.get? j.id = some j)
      (ended : j.status = .failed ∨ j.status = .cancelled) :
      Turn now s .retried j.renewed
        ((s.putJob j.renewed).log .retryScheduled j.id none retriedNote now)
  | requeued {j : Job} (stored : s.jobs.get? j.id = some j) (running : j.status = .running) :
      Turn now s .requeued (requeuedJob j) (requeueOne now s j)

/-! ## Order among the rows -/

/-- Every row stands under the name that it carries, the statuses are those that jobs have, and the
attempt of a running job has a row. -/
structure Orderly (s : Store) : Prop where
  filed : ∀ id j, s.jobs.get? id = some j → j.id = id
  named : ∀ id n row, s.attempts.get? (id, n) = some row → row.job = id ∧ row.number = n
  lively : ∀ id j, s.jobs.get? id = some j → Life.Lively j.status
  rowed : ∀ id j, s.jobs.get? id = some j → j.status = .running →
    ∃ row, s.attempts.get? (id, j.attempt) = some row

namespace Orderly

theorem empty : Store.empty.Orderly where
  filed := by simp [Store.empty]
  named := by simp [Store.empty]
  lively := by simp [Store.empty]
  rowed := by simp [Store.empty]

theorem get?_self (h : s.Orderly) {id : JobId} {j : Job} (hj : s.jobs.get? id = some j) :
    s.jobs.get? j.id = some j := by
  rw [h.filed id j hj]
  exact hj

theorem get?_of_mem (h : s.Orderly) {j : Job} (hj : j ∈ s.jobs.rows) :
    s.jobs.get? j.id = some j := by
  obtain ⟨id, hid⟩ := Table.mem_rows.1 hj
  exact h.get?_self hid

/-- Different jobs have different identities. -/
theorem nodup_ids (h : s.Orderly) : (s.jobs.rows.map (·.id)).Nodup :=
  s.jobs.nodup_map_rows (·.id) h.filed

/-- The row of a running attempt is there, and it carries the attempt's name. -/
theorem attemptRow_running (h : s.Orderly) {j : Job} (stored : s.jobs.get? j.id = some j)
    (running : j.status = .running) (now : Time) :
    s.attempts.get? (j.id, j.attempt) = some (s.attemptRow j.id j.attempt now) ∧
      (s.attemptRow j.id j.attempt now).job = j.id ∧
      (s.attemptRow j.id j.attempt now).number = j.attempt := by
  obtain ⟨row, hrow⟩ := h.rowed j.id j stored running
  have hfound : s.attemptRow j.id j.attempt now = row := by
    rw [attemptRow, hrow]
    rfl
  rw [hfound]
  exact ⟨hrow, h.named j.id j.attempt row hrow⟩

end Orderly

/-- A closed row of a running attempt is the attempt's row from then on, and it replaces no other
row. -/
theorem get?_attempts_close (h : s.Orderly) {j : Job} (stored : s.jobs.get? j.id = some j)
    (running : j.status = .running) (v : Verdict) (now : Time) (key : JobId × Int) :
    (s.putAttempt (v.close now (s.attemptRow j.id j.attempt now))).attempts.get? key =
      if (j.id, j.attempt) = key then (s.attempts.get? key).map (v.close now)
      else s.attempts.get? key := by
  obtain ⟨hrow, hjob, hnumber⟩ := h.attemptRow_running stored running now
  rw [get?_attempts_putAttempt, v.close_job, v.close_number, hjob, hnumber]
  by_cases hkey : (j.id, j.attempt) = key
  · rw [if_pos hkey, if_pos hkey, ← hkey, hrow]
    rfl
  · rw [if_neg hkey, if_neg hkey]

/-! ## What a turn does -/

namespace Turn

variable {d : Deed} {after : Job}

theorem jobs_eq (t : Turn now s d after s') : s'.jobs = s.jobs.set after.id after := by
  cases t with
  | stopped reason stored running => exact jobs_closeAttempt _ _ _ _ _ _
  | _ => rfl

/-- The job's row is replaced and no other. -/
theorem get?_jobs (t : Turn now s d after s') (id : JobId) :
    s'.jobs.get? id = if after.id = id then some after else s.jobs.get? id := by
  rw [t.jobs_eq]
  exact Table.get?_set s.jobs after.id id after

/-- The log grows by one entry. -/
theorem events_eq (t : Turn now s d after s') :
    s'.events = s.events ++ [s.entry d.kind after.id d.worker d.note now] := by
  cases t with
  | stopped reason stored running =>
    rw [events_log, events_closeAttempt]
    simp [entry, Job.withdrawn, Deed.kind, Deed.worker, Deed.note]
  | _ => rfl

/-- No turn touches a worker's report. -/
theorem workers_eq (t : Turn now s d after s') : s'.workers = s.workers := by
  cases t with
  | @stopped j reason stored running =>
    show ((s.putJob _).closeAttempt _ _ _ _ now).workers = _
    unfold closeAttempt
    split <;> rfl
  | _ => rfl

/-- A turn is the job's creation, or it finds the job in the store: the job's life goes on by a
step, a start is counted, and what ends an attempt finds the job running. -/
theorem found (t : Turn now s d after s') :
    (d = .created ∧ s.jobs.get? after.id = none ∧ after.status = .queued ∧ after.attempt = 0) ∨
      ∃ j, s.jobs.get? after.id = some j ∧ Life.Step (some j.status) d.kind after.status ∧
        after.attempt = j.attempt + (if d.kind = .started then 1 else 0) ∧
        (d.verdict.isSome = true ↔ j.status = .running) := by
  cases t with
  | created valid unclaimed unknown => exact .inl ⟨rfl, unknown, rfl, rfl⟩
  | @started j worker stored waiting =>
    exact .inr ⟨j, stored, waiting ▸ .started, rfl, by simp [Deed.verdict, waiting]⟩
  | @succeeded j worker usage stored running =>
    exact .inr ⟨j, stored, running ▸ .succeeded, (Int.add_zero _).symm,
      by simp [Deed.verdict, running]⟩
  | @failed j worker code message stored running =>
    exact .inr ⟨j, stored, running ▸ .failed, (Int.add_zero _).symm,
      by simp [Deed.verdict, running]⟩
  | @dropped j reason stored waiting =>
    exact .inr ⟨j, stored, waiting ▸ .dropped, (Int.add_zero _).symm,
      by simp [Deed.verdict, waiting]⟩
  | @stopped j reason stored running =>
    exact .inr ⟨j, stored, running ▸ .stopped, (Int.add_zero _).symm,
      by simp [Deed.verdict, running]⟩
  | @retried j stored ended =>
    refine .inr ⟨j, stored, ?_, (Int.add_zero _).symm, ?_⟩
    · rcases ended with h | h
      · exact h ▸ .retriedFailed
      · exact h ▸ .retriedCancelled
    · rcases ended with h | h <;> simp [Deed.verdict, h]
  | @requeued j stored running =>
    exact .inr ⟨j, stored, running ▸ .requeued, (Int.add_zero _).symm,
      by simp [Deed.verdict, running]⟩

/-- A turn takes a step of the job's life. -/
theorem step (t : Turn now s d after s') :
    Life.Step ((s.jobs.get? after.id).map (·.status)) d.kind after.status := by
  rcases t.found with ⟨rfl, unknown, hstatus, -⟩ | ⟨j, stored, step, -⟩
  · rw [unknown, hstatus]
    exact .created
  · rw [stored]
    exact step

/-- Starts are counted, from none, and nothing else is. -/
theorem counted (t : Turn now s d after s') :
    after.attempt = ((s.jobs.get? after.id).map (·.attempt)).getD 0 +
      if d.kind = .started then 1 else 0 := by
  rcases t.found with ⟨rfl, unknown, -, hattempt⟩ | ⟨j, stored, -, hattempt, -⟩
  · rw [unknown, hattempt]
    rfl
  · rw [stored, hattempt]
    rfl

/-- Only the row of the job's current attempt is written. -/
theorem get?_attempts (t : Turn now s d after s') (h : s.Orderly) (key : JobId × Int) :
    s'.attempts.get? key =
      if (after.id, after.attempt) = key then d.write now after (s.attempts.get? key)
      else s.attempts.get? key := by
  cases t with
  | @started j worker stored waiting => exact Table.get?_set s.attempts _ key _
  | @succeeded j worker usage stored running =>
    exact get?_attempts_close h stored running (.done usage) now key
  | @failed j worker code message stored running =>
    exact get?_attempts_close h stored running (.broken code message) now key
  | @stopped j reason stored running =>
    have hrow := get?_attempts_closeAttempt (s.putJob (j.withdrawn reason now)) j.id j.attempt
      .cancelled reason now (h.named j.id j.attempt) key
    rw [attempts_log, hrow]
    change _ = if (j.id, j.attempt) = key then _ else _
    by_cases hkey : (j.id, j.attempt) = key
    · rw [if_pos hkey, if_pos hkey, ← hkey]
      rfl
    · rw [if_neg hkey, if_neg hkey]
      rfl
  | @requeued j stored running =>
    exact get?_attempts_close h stored running (.broken .workerLost workerLostNote) now key
  -- the other deeds write no row
  | created valid unclaimed unknown => exact (ite_self _).symm
  | @dropped j reason stored waiting => exact (ite_self _).symm
  | @retried j stored ended => exact (ite_self _).symm

/-- A turn leaves the job running only by starting its next attempt. -/
theorem running_iff (t : Turn now s d after s') :
    after.status = .running ↔ d.kind = .started := by
  -- of all the steps of a job's life only a start ends in running
  have step := t.step
  revert step
  generalize (s.jobs.get? after.id).map (·.status) = before
  generalize after.status = status
  generalize d.kind = kind
  intro step
  cases step <;> decide

/-- A turn keeps the order among the rows. -/
theorem orderly (t : Turn now s d after s') (h : s.Orderly) : s'.Orderly where
  filed id j hj := by
    rw [t.get?_jobs] at hj
    split at hj
    · cases hj
      assumption
    · exact h.filed id j hj
  named id n row hrow := by
    rw [t.get?_attempts h] at hrow
    split at hrow
    · rename_i hkey
      cases hkey
      exact d.write_named (h.named _ _) hrow
    · exact h.named id n row hrow
  lively id j hj := by
    rw [t.get?_jobs] at hj
    split at hj
    · cases hj
      exact t.step.lively
    · exact h.lively id j hj
  rowed id j hj running := by
    rw [t.get?_jobs] at hj
    rw [t.get?_attempts h]
    split at hj
    · rename_i hid
      cases hj
      rw [if_pos (by rw [hid])]
      exact ⟨_, d.write_started (t.running_iff.1 running)⟩
    · rename_i hid
      rw [if_neg fun hkey => hid (congrArg Prod.fst hkey)]
      exact h.rowed id j hj running

end Turn

end Dispatch.Store
