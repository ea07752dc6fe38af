import Dispatch.Proofs.Postgres.Writes

/-!
# Creation in a mirror

The store looks a key up in its index; the table of jobs has a row of the key exactly if the index
leads from the key to a job (`any_keyed`).  So an insertion that is in no other's way is the store's
registration (`insertJob_free`), and one that is in the way of a row leaves the tables and finds
that row (`insertJob_taken`, `findByKey_found`).
-/

namespace Dispatch.Postgres

open Exchange Server Mirrors

variable {leeway : Leeway} {now : Time} {db : Database} {s : Store} {m : Moment} {d : Draft}
  {ids : FreshIds} {id : JobId} {j : Job} {tenant key : String}

/-- The row that is inserted holds the job that a draft asks for. -/
theorem job_inserted (now : Time) (d : Draft) (ids : FreshIds) :
    (JobRow.inserted now d.normalized ids).job = Job.queued d.normalized ids now :=
  (Job.queued_normalized d ids now).symm

/-! ## Insertion -/

theorem any_keyed (mirror : Mirrors db s) (use : s.InUse) (tenant : String) (key : Option String) :
    (db.jobs.any fun r => r.tenant = tenant && r.key.isSome && r.key = key) = true ↔
      ∃ own id, key = some own ∧ s.keys.get? (tenant, own) = some id := by
  rw [List.any_eq_true]
  constructor
  · rintro ⟨r, hr, hrow⟩
    simp only [Bool.and_eq_true, decide_eq_true_eq] at hrow
    obtain ⟨⟨htenant, hsome⟩, rfl⟩ := hrow
    obtain ⟨own, hown⟩ := Option.isSome_iff_exists.1 hsome
    have hmem : r.job ∈ s.jobs.rows := mirror.jobs ▸ List.mem_map_of_mem hr
    exact ⟨own, r.job.id, hown, (use.keyed hmem tenant own).1 ⟨htenant, hown⟩⟩
  · rintro ⟨own, id, rfl, hk⟩
    obtain ⟨j, stored, htenant, hkey⟩ := (use.indexed.found tenant own id).1 hk
    have hmem : j ∈ db.jobs.map JobRow.job := mirror.jobs ▸ Table.mem_rows.2 ⟨id, stored⟩
    obtain ⟨r, hr, rfl⟩ := List.mem_map.1 hmem
    have hkey : r.key = some own := hkey
    exact ⟨r, hr, by simp [show r.tenant = tenant from htenant, hkey]⟩

/-- A key that leads to a job is taken. -/
theorem insertJob_taken (mirror : Mirrors db s) (use : s.InUse) (leeway : Leeway) (now : Time)
    (ids : FreshIds) (hkey : d.normalized.idempotencyKey = some key)
    (hk : s.keys.get? (d.normalized.tenant, key) = some id) :
    db.answer leeway now (.insertJob d.normalized ids) = (.rows [], db) := by
  have hany := (any_keyed mirror use d.normalized.tenant d.normalized.idempotencyKey).2
    ⟨key, id, hkey, hk⟩
  rw [Database.answer, Database.insertJob, if_neg d.normalized_checked, if_pos hany]

/-- The job that a key leads to is found under the key, and no other. -/
theorem findByKey_found (mirror : Mirrors db s) (use : s.InUse) (leeway : Leeway) (now : Time)
    (hk : s.keys.get? (tenant, key) = some id) (stored : s.jobs.get? id = some j) :
    ∃ r : JobRow, r.job = j ∧
      db.answer leeway now (.findByKey tenant key) = (.rows [r.wire], db) := by
  have hfilter : (db.jobs.filter fun r => r.tenant = tenant && r.key = some key).map JobRow.job =
      [j] := by
    calc (db.jobs.filter fun r => r.tenant = tenant && r.key = some key).map JobRow.job
        = s.jobs.rows.filter fun j => j.tenant = tenant && j.idempotencyKey = some key := by
          rw [← mirror.jobs, List.filter_map]
          rfl
      _ = s.jobs.rows.filter fun j => j.id = id := by
          apply List.filter_congr
          intro j hj
          have hkeyed := use.keyed hj tenant key
          rw [hk, Option.some.injEq, eq_comm (a := id)] at hkeyed
          rw [← Bool.decide_and]
          exact decide_eq_decide.2 hkeyed
      _ = [j] := by rw [Table.filter_rows use.orderly.filed, stored, Option.toList_some]
  obtain ⟨r, hr, hjob⟩ := List.map_eq_singleton_iff.1 hfilter
  exact ⟨r, hjob, by rw [Database.answer, hr, List.map_singleton]⟩

/-- A job whose key is free and whose identity is new is inserted. -/
theorem insertJob_free (mirror : Mirrors db s) (use : s.InUse) (leeway : Leeway) (now : Time)
    (unclaimed : ∀ k, d.normalized.claim = some k → s.keys.get? k = none)
    (unknown : s.jobs.get? ids.job = none) :
    ∃ w, db.answer leeway now (.insertJob d.normalized ids) =
        (.rows [(JobRow.inserted now d.normalized ids).wire], w) ∧
      Mirrors w { s with
        jobs := s.jobs.set ids.job (Job.queued d.normalized ids now) } := by
  have hkey : ¬(db.jobs.any fun r => r.tenant = d.normalized.tenant && r.key.isSome &&
      r.key = d.normalized.idempotencyKey) = true := by
    rw [any_keyed mirror use]
    rintro ⟨own, id, hown, hk⟩
    have hclaim : d.normalized.claim = some (d.normalized.tenant, own) := by
      rw [Draft.claim, hown]
      rfl
    cases (unclaimed _ hclaim).symm.trans hk
  have hid : ¬(db.jobs.any (·.id = ids.job)) = true := by
    rw [List.any_eq_true]
    rintro ⟨r, hr, hrow⟩
    have hmem : r.job ∈ s.jobs.rows := mirror.jobs ▸ List.mem_map_of_mem hr
    have hstored := use.orderly.get?_of_mem hmem
    rw [JobRow.job_id, of_decide_eq_true hrow, unknown] at hstored
    cases hstored
  refine ⟨{ db with jobs := db.jobs ++ [JobRow.inserted now d.normalized ids] }, ?_, ?_,
    mirror.attempts, mirror.workers, mirror.log⟩
  · rw [Database.answer, Database.insertJob, if_neg d.normalized_checked, if_neg hkey, if_neg hid]
  · rw [List.map_append, mirror.jobs, List.map_singleton, job_inserted]
    exact (Table.rows_set_of_none unknown _).symm

/-! ## Creation -/

theorem insert_taken (hanswer : db.answer leeway now (.insertJob d ids) = (.rows [], db)) :
    (insert d ids).run (answer leeway now) (resting db) = (.ok none, resting db) := by
  refine run_abandon (w := db) ?_
  rw [run_bind, query_within hanswer rfl]
  rfl

theorem insert_free {r : JobRow} {w : Database}
    (hanswer : db.answer leeway now (.insertJob d ids) = (.rows [r.wire], w)) :
    (insert d ids).run (answer leeway now) (resting db) = (.ok (some r.job),
      resting (w.logged leeway now .created r.job.id none Store.createdNote)) := by
  refine run_commit ?_
  rw [run_bind, query_within hanswer rfl]
  refine run_toCommit ?_
  rw [run_reading r.job_wire, run_andThen (appendEvent_within _ _ _ _)]
  rfl

/-- A draft whose key leads to a job finds the job as it stands. -/
theorem create_tracks_taken (mirror : Mirrors db s) (use : s.InUse)
    (complete : d.isComplete = true) (claim : d.normalized.claim = some (tenant, key))
    (hk : s.keys.get? (tenant, key) = some id) : Tracks leeway db s m (.create d) := by
  obtain ⟨j, stored, -⟩ := use.indexed.stored hk
  have hcreate : s.perform m (.create d) = (.ok (j, true), s) :=
    congrArg s.settle (Store.create_found complete claim hk stored)
  obtain ⟨htenant, hkey⟩ : d.normalized.tenant = tenant ∧
      d.normalized.idempotencyKey = some key := by
    simpa [Draft.claim, and_comm] using claim
  subst htenant
  obtain ⟨r, hjob, hanswer⟩ := findByKey_found mirror use leeway m.now hk stored
  have hfind : (findByKey d.normalized.tenant key).run (answer leeway m.now) (resting db) =
      (.ok j, resting db) := by
    rw [findByKey, run_andThen (run_query (answer_resting hanswer rfl))]
    exact hjob ▸ run_read r.job_wire
  have hrun : (create d m.fresh).run (answer leeway m.now) (resting db) =
      (.ok (j, true), resting db) := by
    rw [create, Draft.validate_of_complete complete]
    dsimp only
    -- the insertion is rolled back, and then the job is looked for on its own
    rw [run_andThen (insert_taken (insertJob_taken mirror use leeway m.now m.fresh hkey hk)), hkey]
    dsimp only
    rw [run_andThen hfind]
    rfl
  rw [Tracks, hcreate]
  exact ⟨.ok (j, true), db, run_reported hrun, rfl, mirror⟩

/-- A draft whose key is free makes a job. -/
theorem create_tracks_free (mirror : Mirrors db s) (use : s.InUse)
    (complete : d.isComplete = true)
    (unclaimed : ∀ k, d.normalized.claim = some k → s.keys.get? k = none)
    (unknown : s.jobs.get? m.fresh.job = none) : Tracks leeway db s m (.create d) := by
  have hcreate : s.perform m (.create d) = (.ok (Job.queued d.normalized m.fresh m.now, false),
      s.register d.normalized.claim (Job.queued d.normalized m.fresh m.now) m.now) :=
    congrArg s.settle (Store.create_new complete unclaimed unknown)
  obtain ⟨w, hanswer, hput⟩ := insertJob_free mirror use leeway m.now unclaimed unknown
  have hrun : (create d m.fresh).run (answer leeway m.now) (resting db) =
      (.ok (Job.queued d.normalized m.fresh m.now, false),
        resting (w.logged leeway m.now .created m.fresh.job none Store.createdNote)) := by
    rw [create, Draft.validate_of_complete complete]
    dsimp only
    rw [run_andThen (insert_free hanswer), job_inserted]
    rfl
  have hlogged := hput.log_logged leeway m.now .created m.fresh.job none Store.createdNote
  rw [Tracks, hcreate]
  -- the store enters the key into its index, which has no counterpart in the tables
  exact ⟨.ok (Job.queued d.normalized m.fresh m.now, false), _, run_reported hrun, rfl,
    hlogged.jobs, hlogged.attempts, hlogged.workers, hlogged.log⟩

theorem create_tracks (mirror : Mirrors db s) (use : s.InUse) (d : Draft)
    (unknown : s.jobs.get? m.fresh.job = none) : Tracks leeway db s m (.create d) := by
  cases hcomplete : d.isComplete with
  | false =>
    have hcreate : s.perform m (.create d) = (.error (.validation Draft.requiredMessage), s) :=
      congrArg s.settle (Store.create_incomplete hcomplete)
    have hrun : (create d m.fresh).run (answer leeway m.now) (resting db) =
        (.error (.store (.validation Draft.requiredMessage)), resting db) := by
      rw [create, Draft.validate_of_incomplete hcomplete]
      rfl
    rw [Tracks, hcreate]
    exact ⟨_, db, run_reported_error hrun, rfl, mirror⟩
  | true =>
    by_cases hfree : ∀ k, d.normalized.claim = some k → s.keys.get? k = none
    · exact create_tracks_free mirror use hcomplete hfree unknown
    · simp only [not_forall] at hfree
      obtain ⟨⟨tenant, key⟩, claim, hsome⟩ := hfree
      obtain ⟨id, hk⟩ := Option.ne_none_iff_exists'.1 hsome
      exact create_tracks_taken mirror use hcomplete claim hk

end Dispatch.Postgres
