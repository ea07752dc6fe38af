import Dispatch.Proofs.Postgres.Conduct
import Dispatch.Proofs.Store.InUse
import Dispatch.Proofs.Tables

/-!
# A database that mirrors a store

A database mirrors a store in memory if its tables hold the rows of the store, in their order, and
its log has the same entries about every job.  A statement that changes the rows under a key does
what the store does when it writes under the key (`changed_at`, `updated_at`, `upserted_at`), so a
mirror is kept table by table.
-/

namespace Dispatch

/-! ## Rows under a key -/

namespace Postgres

section Tables

variable {ρ κ ν : Type} [DecidableEq κ] {holds : ρ → ν} {name : ν → κ} {t : Table κ ν}
  {rows : List ρ} {key : κ} {selected : ρ → Bool} {allowed : ν → Bool} {set : ρ → ρ} {v v' : ν}

theorem filter_at (mirrored : rows.map holds = t.rows)
    (filed : ∀ k v, t.get? k = some v → name v = k)
    (hselected : ∀ r, selected r = (decide (name (holds r) = key) && allowed (holds r))) :
    (rows.filter selected).map holds = ((t.get? key).filter allowed).toList := by
  -- what is selected depends on the row that is held, so it is selected in the table as well
  have hsplit : selected = (fun v => allowed v && decide (name v = key)) ∘ holds :=
    funext fun r => (hselected r).trans (Bool.and_comm _ _)
  rw [hsplit, ← List.filter_map, mirrored, ← List.filter_filter, Table.filter_rows filed]
  cases t.get? key <;> simp [Option.filter_some, List.filter_cons, apply_ite Option.toList]

/-- Nothing changes if the key has no row that is allowed. -/
theorem updated_at_none (mirrored : rows.map holds = t.rows)
    (filed : ∀ k v, t.get? k = some v → name v = k)
    (hselected : ∀ r, selected r = (decide (name (holds r) = key) && allowed (holds r)))
    (hnone : (t.get? key).filter allowed = none) (set : ρ → ρ) :
    changed selected set rows = [] ∧ updated selected set rows = rows := by
  have hfilter := filter_at mirrored filed hselected
  rw [hnone, Option.toList_none, List.map_eq_nil_iff] at hfilter
  refine ⟨by rw [changed, hfilter]; rfl, ?_⟩
  rw [updated]
  refine (List.map_congr_left fun r hr => ?_).trans (List.map_id rows)
  rw [if_neg (by simpa using List.filter_eq_nil_iff.1 hfilter r hr)]
  rfl

/-- The row of the key changes, and it is the only one. -/
theorem updated_at_some (mirrored : rows.map holds = t.rows)
    (filed : ∀ k v, t.get? k = some v → name v = k)
    (hselected : ∀ r, selected r = (decide (name (holds r) = key) && allowed (holds r)))
    (hsome : (t.get? key).filter allowed = some v)
    (hset : ∀ r ∈ rows, holds r = v → holds (set r) = v') :
    (changed selected set rows).map holds = [v'] ∧
      (updated selected set rows).map holds = (t.set key v').rows := by
  have hfilter := filter_at mirrored filed hselected
  rw [hsome, Option.toList_some, List.map_eq_singleton_iff] at hfilter
  obtain ⟨r, hr, hholds⟩ := hfilter
  have hmem : r ∈ rows := List.mem_of_mem_filter (hr ▸ List.mem_singleton_self r)
  obtain ⟨hget, hallowed⟩ := Option.filter_eq_some_iff.1 hsome
  refine ⟨by rw [changed, hr, List.map_singleton, List.map_singleton, hset r hmem hholds], ?_⟩
  rw [Table.rows_set_of_some filed hget, ← mirrored, updated, List.map_map, List.map_map]
  apply List.map_congr_left
  intro r' hr'
  rw [Function.comp_apply, Function.comp_apply]
  by_cases hname : name (holds r') = key
  · have hheld : holds r' = v :=
      Table.eq_of_name filed hget (mirrored ▸ List.mem_map_of_mem hr') hname
    have hselect : selected r' = true := by
      rw [hselected, hname, hheld, hallowed]
      simp
    rw [if_pos hselect, if_pos hname, hset r' hr' hheld]
  · have hselect : selected r' = false := by simp [hselected, hname]
    rw [hselect, if_neg hname]
    rfl

/-- A row under the key takes the place of the one that is there. -/
theorem upserted_at {same : ρ → Bool} {new : ρ} (mirrored : rows.map holds = t.rows)
    (filed : ∀ k v, t.get? k = some v → name v = k)
    (hsame : ∀ r, same r = decide (name (holds r) = key)) (hset : ∀ r, same r = true →
      holds (set r) = v) (hnew : holds new = v) :
    (upserted same set new rows).map holds = (t.set key v).rows := by
  have hselected : ∀ r, same r = (decide (name (holds r) = key) && (fun _ => true) (holds r)) :=
    fun r => by rw [hsame, Bool.and_true]
  have hfilter : (rows.filter same).map holds = ((t.get? key).filter fun _ => true).toList :=
    filter_at mirrored filed hselected
  unfold upserted
  -- there is a row like the new one exactly if the key has a row
  cases hget : t.get? key with
  | none =>
    rw [hget, Option.filter_none, Option.toList_none, List.map_eq_nil_iff] at hfilter
    have hany : rows.any same = false := by
      rw [List.any_eq_false]
      exact List.filter_eq_nil_iff.1 hfilter
    rw [hany, Table.rows_set_of_none hget, ← mirrored, ← hnew]
    simp
  | some old =>
    have hsome : (t.get? key).filter (fun _ => true) = some old := by rw [hget]; rfl
    rw [hsome, Option.toList_some, List.map_eq_singleton_iff] at hfilter
    obtain ⟨r, hr, -⟩ := hfilter
    have hany : rows.any same = true := List.any_eq_true.2
      ⟨r, List.mem_filter.1 (hr ▸ List.mem_singleton_self r)⟩
    rw [if_pos hany]
    refine (updated_at_some mirrored filed hselected hsome fun r' hr' hold => hset r' ?_).2
    rw [hsame, hold, decide_eq_true_eq]
    exact filed key old hget

end Tables

end Postgres

/-! ## Mirrors -/

namespace Postgres

/-- Two logs have the same entries about every job, and the first is in the order of its
numbers. -/
structure SameLog (rows : List EventRow) (events : List Event) : Prop where
  same : ∀ id, (rows.filter (·.job = some id)).map (fun r => r.event.unnumbered) =
    (events.filter (·.job = some id)).map Event.unnumbered
  ascending : (rows.map (·.id)).Pairwise (· < ·)

theorem SameLog.append {rows : List EventRow} {events : List Event} (log : SameLog rows events)
    (leeway : Leeway) {new : EventRow} {e : Event} (hid : new.id = leeway.serial rows)
    (hnew : new.event.unnumbered = e.unnumbered) : SameLog (rows ++ [new]) (events ++ [e]) where
  same id := by
    have hjob : new.job = e.job := congrArg Event.job hnew
    rw [List.filter_append, List.filter_append, List.map_append, List.map_append, log.same id]
    by_cases h : e.job = some id <;> simp [hjob, h, hnew]
  ascending := by
    rw [List.map_append, List.pairwise_append]
    refine ⟨log.ascending, List.pairwise_singleton _ _, fun a ha b hb => ?_⟩
    obtain ⟨r, hr, rfl⟩ := List.mem_map.1 ha
    rw [List.map_singleton, List.mem_singleton] at hb
    rw [hb, hid]
    exact leeway.serial_gt rows r hr

/-- The tables hold the rows of the store, and the log tells the same about every job. -/
structure Mirrors (db : Database) (s : Store) : Prop where
  jobs : db.jobs.map JobRow.job = s.jobs.rows
  attempts : db.attempts.map AttemptRow.attempt = s.attempts.rows
  workers : db.workers.map WorkerRow.heartbeat = s.workers.rows
  log : SameLog db.events s.events

namespace Mirrors

theorem empty : Mirrors {} .empty where
  jobs := rfl
  attempts := rfl
  workers := rfl
  log := ⟨fun _ => rfl, .nil⟩

section Statements

variable {db : Database} {s : Store} {id : JobId} {j : Job}

/-! ### Jobs -/

theorem order_nil (leeway : Leeway) : leeway.order [] = [] := (leeway.order_perm []).eq_nil

theorem order_singleton (leeway : Leeway) (r : JobRow) : leeway.order [r] = [r] :=
  (leeway.order_perm [r]).eq_singleton

/-- A statement guarded by statuses selects what the store allows. -/
theorem isAmong_eq {statuses : List JobStatus} {among : JobStatus → Bool}
    (h : ∀ status, decide (status ∈ statuses) = among status) (id : JobId) (r : JobRow) :
    r.isAmong id statuses = (decide (r.job.id = id) && among r.job.status) := by
  rw [JobRow.isAmong, h]
  rfl

theorem isRunning_eq (id : JobId) (n : Int) (r : JobRow) : r.isRunning id n =
    (decide (r.job.id = id) && (decide (r.job.status = .running) && decide (r.job.attempt = n))) :=
  Bool.and_assoc _ _ _

section Jobs

variable {selected : JobRow → Bool} {allowed : Job → Bool} {set : JobRow → JobRow}

/-- No row is set if the store finds no job. -/
theorem putJob_none (mirror : Mirrors db s) (leeway : Leeway)
    (filed : ∀ id j, s.jobs.get? id = some j → j.id = id)
    (hselected : ∀ r, selected r = (decide (r.job.id = id) && allowed r.job))
    (hnone : s.jobIf? id allowed = none) (set : JobRow → JobRow) :
    db.returning leeway selected set = (.rows [], db) ∧
      db.updateJobs selected set = (.affected 0, db) := by
  obtain ⟨hchanged, hupdated⟩ := updated_at_none mirror.jobs filed hselected hnone set
  simp [Database.returning, Database.updateJobs, hchanged, hupdated, order_nil]

/-- The row of the job that the store finds is set, and no other. -/
theorem putJob_some (mirror : Mirrors db s) (leeway : Leeway) (step : Job → Job)
    (filed : ∀ id j, s.jobs.get? id = some j → j.id = id)
    (hselected : ∀ r, selected r = (decide (r.job.id = id) && allowed r.job))
    (hset : ∀ r, (set r).job = step r.job) (hsome : s.jobIf? id allowed = some j)
    (hstep : (step j).id = j.id) :
    ∃ (r : JobRow) (w : Database), r.job = step j ∧
      db.returning leeway selected set = (.rows [r.wire], w) ∧
      db.updateJobs selected set = (.affected 1, w) ∧ Mirrors w (s.putJob (step j)) := by
  obtain ⟨hchanged, hupdated⟩ := updated_at_some mirror.jobs filed hselected hsome
    fun r _ hr => (hset r).trans (congrArg step hr)
  obtain ⟨r, hr, hjob⟩ := List.map_eq_singleton_iff.1 hchanged
  refine ⟨r, { db with jobs := updated selected set db.jobs }, hjob, ?_, ?_, ?_⟩
  · simp [Database.returning, hr, order_singleton]
  · simp [Database.updateJobs, hr]
  · have hid : (step j).id = id := hstep.trans (filed id j (Store.jobIf?_eq_some.1 hsome).1)
    rw [← hid] at hupdated
    exact ⟨hupdated, mirror.attempts, mirror.workers, mirror.log⟩

end Jobs

/-- The tables have a job if the store has it. -/
theorem any_job (mirror : Mirrors db s) (stored : j ∈ s.jobs.rows) (hid : j.id = id) :
    db.jobs.any (·.id = id) = true := by
  rw [← mirror.jobs] at stored
  obtain ⟨r, hr, rfl⟩ := List.mem_map.1 stored
  exact List.any_eq_true.2 ⟨r, hr, by simpa using hid⟩

/-! ### Attempts -/

section Attempts

variable {n : Int} {now : Time} {set : AttemptRow → AttemptRow} {row row' : Attempt}

/-- Attempts are stored under the names that they carry. -/
def Named (s : Store) : Prop :=
  ∀ key row, s.attempts.get? key = some row → (row.job, row.number) = key

theorem named_of_orderly (orderly : s.Orderly) : Named s := fun key row h =>
  Prod.ext_iff.2 (orderly.named key.1 key.2 row h)

theorem isOpenOf_eq (r : AttemptRow) :
    r.isOpenOf id n =
      (decide ((r.attempt.job, r.attempt.number) = (id, n)) && r.attempt.isOpen) := by
  simp [AttemptRow.isOpenOf, AttemptRow.isOf]

/-- No row is set if the attempt is closed or was never there. -/
theorem putAttempt_none (mirror : Mirrors db s) (named : Named s)
    (closed : ∀ row, s.attempts.get? (id, n) = some row → row.isOpen = false)
    (set : AttemptRow → AttemptRow) :
    db.updateAttempts (·.isOpenOf id n) set = (.affected 0, db) := by
  have hnone : (s.attempts.get? (id, n)).filter Attempt.isOpen = none := by
    rw [Option.filter_eq_none_iff]
    exact fun row hrow => by simp [closed row hrow]
  obtain ⟨hchanged, hupdated⟩ := updated_at_none mirror.attempts named isOpenOf_eq hnone set
  simp [Database.updateAttempts, hchanged, hupdated]

/-- The row of an open attempt is set, and no other. -/
theorem putAttempt_some (mirror : Mirrors db s) (named : Named s)
    (found : s.attempts.get? (id, n) = some row) (isOpen : row.isOpen = true)
    (hset : ∀ r : AttemptRow, r.attempt = row → (set r).attempt = row')
    (hname : (row'.job, row'.number) = (id, n)) :
    ∃ w, db.updateAttempts (·.isOpenOf id n) set = (.affected 1, w) ∧
      Mirrors w (s.putAttempt row') := by
  have hsome : (s.attempts.get? (id, n)).filter Attempt.isOpen = some row :=
    Option.filter_eq_some_iff.2 ⟨found, isOpen⟩
  obtain ⟨hchanged, hupdated⟩ := updated_at_some mirror.attempts named isOpenOf_eq hsome
    fun r _ hr => hset r hr
  refine ⟨{ db with attempts := updated (·.isOpenOf id n) set db.attempts }, ?_, ?_⟩
  · have hlength : (changed (·.isOpenOf id n) set db.attempts).length = 1 := by
      simpa using congrArg List.length hchanged
    simp [Database.updateAttempts, hlength]
  · rw [← hname] at hupdated
    exact ⟨mirror.jobs, hupdated, mirror.workers, mirror.log⟩

/-- A new attempt is entered, in the place of the one of its name if there is one. -/
theorem openAttempt (mirror : Mirrors db s) (leeway : Leeway) (now : Time) (named : Named s)
    (stored : j ∈ s.jobs.rows) (hid : j.id = id) (positive : 0 < n) :
    ∃ w, db.answer leeway now (.openAttempt id n) = (.affected 1, w) ∧
      Mirrors w (s.putAttempt (.opened id n now)) := by
  have hentered : (upserted (·.isOf id n) (·.reopened now) (.opened now id n) db.attempts).map
      AttemptRow.attempt = (s.attempts.set (id, n) (.opened id n now)).rows := by
    refine upserted_at mirror.attempts named (fun r => ?_) (fun r hr => ?_) rfl
    · simp [AttemptRow.isOf]
    · rw [AttemptRow.isOf, Bool.and_eq_true, decide_eq_true_eq, decide_eq_true_eq] at hr
      rw [← hr.1, ← hr.2]
      rfl
  refine ⟨{ db with
    attempts := upserted (·.isOf id n) (·.reopened now) (.opened now id n) db.attempts }, ?_,
    mirror.jobs, hentered, mirror.workers, mirror.log⟩
  have hn : ¬n ≤ 0 := Int.not_le.2 positive
  simp [Database.answer, Database.insertAttempt, mirror.any_job stored hid, hn]

/-- What ends an attempt in the tables ends it in the store. -/
def verdict : Ending → Store.Verdict
  | .succeeded usage => .done usage
  | .failed code message => .broken code message

/-- An attempt that is as it was opened ends alike. -/
theorem attempt_ended {r : AttemptRow} {startedAt : Timestamp} (ending : Ending)
    (blank : r.attempt = .opened id n startedAt) :
    (r.ended now ending).attempt = (verdict ending).close now r.attempt := by
  have isOpen : r.attempt.isOpen = true := by rw [blank]; rfl
  cases ending with
  | succeeded usage =>
    rw [verdict, Store.Verdict.close, Attempt.succeed, if_pos isOpen]
    rfl
  | failed code message =>
    -- the statement resets what a row that was just opened has at its defaults
    have htokens : r.tokens = 0 := congrArg Attempt.tokens blank
    have hcost : r.cost = .zero := congrArg Attempt.cost blank
    have hmeta : r.providerMeta = Json.empty := congrArg Attempt.providerMeta blank
    rw [verdict, Store.Verdict.close, Attempt.fail, if_pos isOpen]
    simp [AttemptRow.ended, AttemptRow.attempt, htokens, hcost, hmeta]

/-- The attempt of a job that runs is ended, whatever has become of the job's row meanwhile. -/
theorem endAttempt {t : Store} (mirror : Mirrors db t) (use : s.InUse)
    (same : t.attempts = s.attempts) (stored : s.jobs.get? j.id = some j)
    (running : j.status = .running) (now : Time) (ending : Ending) :
    ∃ w, db.updateAttempts (·.isOpenOf j.id j.attempt) (·.ended now ending) = (.affected 1, w) ∧
      Mirrors w (t.putAttempt ((verdict ending).close now (s.attemptRow j.id j.attempt now))) := by
  obtain ⟨hrow, isOpen, hblank⟩ := use.opened stored running now
  obtain ⟨-, hjob, hnumber⟩ := use.orderly.attemptRow_running stored running now
  have named : Named t := fun key row => same ▸ named_of_orderly use.orderly key row
  refine mirror.putAttempt_some named (same ▸ hrow) isOpen (fun r hr => ?_) ?_
  · rw [← hr] at hblank ⊢
    exact attempt_ended ending hblank
  · rw [Store.Verdict.close_job, Store.Verdict.close_number, hjob, hnumber]

/-- The open attempt of a job that was cancelled is closed: there is one only if the job ran. -/
theorem cancelAttempt {t : Store} (mirror : Mirrors db t) (use : s.InUse)
    (same : t.attempts = s.attempts) (stored : s.jobs.get? j.id = some j) (now : Time)
    (reason : String) :
    ∃ count w, db.updateAttempts (·.isOpenOf j.id j.attempt) (·.cancelled now reason) =
        (.affected count, w) ∧
      Mirrors w (if j.status = .running then
        t.closeAttempt j.id j.attempt .cancelled reason now else t) := by
  have named : Named t := fun key row => same ▸ named_of_orderly use.orderly key row
  by_cases running : j.status = .running
  · obtain ⟨hrow, isOpen, -⟩ := use.opened stored running now
    obtain ⟨-, hjob, hnumber⟩ := use.orderly.attemptRow_running stored running now
    rw [← same] at hrow
    rw [if_pos running, Store.closeAttempt, hrow]
    refine ⟨1, mirror.putAttempt_some named hrow isOpen (fun r hr => ?_) (by simp [hjob, hnumber])⟩
    rw [← hr] at isOpen ⊢
    rw [Attempt.fail, if_pos isOpen]
    rfl
  · rw [if_neg running]
    have hclosed : ∀ row, t.attempts.get? (j.id, j.attempt) = some row → row.isOpen = false :=
      fun row hrow => use.closed stored running (same ▸ hrow)
    exact ⟨0, db, mirror.putAttempt_none named hclosed _, mirror⟩

end Attempts

/-! ### Workers and events -/

/-- A report takes the place of the worker's last one. -/
theorem upsertWorker (mirror : Mirrors db s) (leeway : Leeway) (now : Time)
    (reported : ∀ worker h, s.workers.get? worker = some h → h.worker = worker) (worker : WorkerId)
    (state : WorkerState) (running : Option JobId) (concurrency : Int) :
    ∃ w, db.answer leeway now (.upsertWorker worker state running concurrency) = (.affected 1, w) ∧
      Mirrors w (s.beat worker state running concurrency now) := by
  refine ⟨_, rfl, mirror.jobs, mirror.attempts, ?_, mirror.log⟩
  refine upserted_at mirror.workers reported (fun r => rfl) (fun r hr => ?_) rfl
  rw [← of_decide_eq_true hr]
  rfl

theorem log_logged (mirror : Mirrors db s) (leeway : Leeway) (now : Time) (kind : EventKind)
    (id : JobId) (worker : Option WorkerId) (details : String) :
    Mirrors (db.logged leeway now kind id worker details)
      (s.log kind id worker details now) where
  jobs := mirror.jobs
  attempts := mirror.attempts
  workers := mirror.workers
  log := mirror.log.append leeway rfl rfl

end Statements

end Mirrors

end Postgres

end Dispatch
