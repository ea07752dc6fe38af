import Dispatch.Proofs.Postgres.Writes
import Dispatch.Proofs.Store.Orphans

/-!
# Orphans in a mirror

The store sends orphans back to waiting one by one, in the order of their identities.  The database
sets all their rows at once and then goes through them in an order of its own.  What becomes of a
store when jobs go back to waiting does not depend on their order (`Requeued.perm`), and it can be
told row by row: so both come to the same, if the server was told the span that the store was asked
with (`requeueOrphaned_atLeast`).
-/

namespace Dispatch

/-! ## Jobs that go back to waiting -/

namespace Store

variable {s t t' : Store} {now : Time} {found found' : List Job} {j : Job}

/-- The entry about a lost job, but for its number. -/
def lostEntry (now : Time) (id : JobId) : Event :=
  { id := 0, tag := EventKind.requeued.tag, job := some id, details := workerLostNote
    createdAt := now }

/-- The store is the other one after some jobs went back to waiting. -/
structure Requeued (now : Time) (s : Store) (found : List Job) (t : Store) : Prop where
  jobs : t.jobs.rows = s.jobs.rows.map fun j =>
    if j.id ∈ found.map (·.id) then requeuedJob j else j
  attempts : t.attempts.rows = s.attempts.rows.map fun a =>
    if (a.job, a.number) ∈ found.map (fun j => (j.id, j.attempt)) then
      a.fail .workerLost workerLostNote now else a
  workers : t.workers = s.workers
  log : ∀ id, (t.eventsOf id).map Event.unnumbered = (s.eventsOf id).map Event.unnumbered ++
    if id ∈ found.map (·.id) then [lostEntry now id] else []

theorem Requeued.perm (h : Requeued now s found t) (perm : found.Perm found') :
    Requeued now s found' t where
  jobs := by
    simpa only [(perm.map (·.id)).mem_iff] using h.jobs
  attempts := by
    simpa only [(perm.map fun j => (j.id, j.attempt)).mem_iff] using h.attempts
  workers := h.workers
  log id := by
    simpa only [(perm.map (·.id)).mem_iff] using h.log id

theorem Requeued.none (s : Store) : Requeued now s [] s where
  jobs := by simp
  attempts := by simp
  workers := rfl
  log id := by simp

/-- What becomes of a store when a job goes back to waiting, and others after it. -/
theorem Requeued.cons (use : s.InUse) (stored : s.jobs.get? j.id = some j)
    (running : j.status = .running) (fresh : j.id ∉ found.map (·.id))
    (h : Requeued now (requeueOne now s j) found t) : Requeued now s (j :: found) t where
  jobs := by
    have hjobs : (requeueOne now s j).jobs.rows = s.jobs.rows.map fun k =>
        if k.id = j.id then requeuedJob k else k :=
      Table.rows_set_amended use.orderly.filed stored requeuedJob
    rw [h.jobs, hjobs, List.map_map]
    apply List.map_congr_left
    intro k hk
    by_cases hid : k.id = j.id
    · simp [hid, requeuedJob, fresh]
    · simp [hid]
  attempts := by
    obtain ⟨hrow, hjob, hnumber⟩ := use.orderly.attemptRow_running stored running now
    have hattempts : (requeueOne now s j).attempts.rows = s.attempts.rows.map fun a =>
        if (a.job, a.number) = (j.id, j.attempt) then a.fail .workerLost workerLostNote now
        else a := by
      refine Eq.trans ?_ (Table.rows_set_amended (Postgres.Mirrors.named_of_orderly use.orderly)
        hrow fun a => a.fail .workerLost workerLostNote now)
      change (s.attempts.set (Attempt.job _, Attempt.number _) _).rows = _
      rw [Attempt.fail_job, Attempt.fail_number, hjob, hnumber]
    have hfresh : (j.id, j.attempt) ∉ found.map fun j => (j.id, j.attempt) := fun hmem => by
      obtain ⟨k, hk, hkey⟩ := List.mem_map.1 hmem
      exact fresh (List.mem_map.2 ⟨k, hk, congrArg Prod.fst hkey⟩)
    rw [h.attempts, hattempts, List.map_map]
    apply List.map_congr_left
    intro a ha
    by_cases hkey : (a.job, a.number) = (j.id, j.attempt)
    · simp only [Function.comp_apply, Attempt.fail_job, Attempt.fail_number, hkey, if_neg hfresh,
        List.map_cons, List.mem_cons, true_or, if_true]
    · simp only [Function.comp_apply, List.map_cons, List.mem_cons, hkey, if_false, false_or]
  workers := h.workers
  log id := by
    rw [h.log, Chronicle.eventsOf_turn (.requeued stored running), List.map_append]
    by_cases hid : j.id = id
    · subst hid
      have hentry : (s.entry Deed.requeued.kind j.id Deed.requeued.worker Deed.requeued.note
        now).unnumbered = lostEntry now j.id := rfl
      simp [fresh, requeuedJob, hentry]
    · simp [hid, Ne.symm hid, requeuedJob]

theorem requeued_foldl (use : s.InUse) (distinct : (found.map (·.id)).Nodup)
    (running : ∀ j ∈ found, s.jobs.get? j.id = some j ∧ j.status = .running) :
    Requeued now s found (found.foldl (requeueOne now) s) := by
  induction found generalizing s with
  | nil => exact .none s
  | cons j rest ih =>
    obtain ⟨stored, runs⟩ := running j List.mem_cons_self
    obtain ⟨fresh, hrest⟩ := List.nodup_cons.1 distinct
    exact .cons use stored runs fresh
      (ih (use.turn (.requeued stored runs)) hrest (requeue_running distinct running))

end Store

/-! ## The database at work -/

namespace Postgres

open Exchange Server Mirrors

variable {leeway : Leeway} {now : Time} {db w : Database} {s t : Store} {m : Moment}
  {found found' : List Job}

/-- A mirror of the store after some jobs went back to waiting is one whichever went first. -/
theorem Mirrors.requeued {t' : Store} (mirror : Mirrors db t)
    (h : Store.Requeued now s found t) (h' : Store.Requeued now s found t') : Mirrors db t' where
  jobs := by rw [mirror.jobs, h.jobs, h'.jobs]
  attempts := by rw [mirror.attempts, h.attempts, h'.attempts]
  workers := by rw [mirror.workers, h.workers, h'.workers]
  log := by
    refine ⟨fun id => ?_, mirror.log.ascending⟩
    rw [mirror.log.same id]
    exact (h.log id).trans (h'.log id).symm

/-- The row of a job that is lost is that of an orphan. -/
theorem isOrphaned_eq (mirror : Mirrors db s) (cutoff : Time) (r : JobRow) :
    db.isOrphaned cutoff r = s.isOrphan cutoff r.job := by
  have hvouched : (db.workers.any fun w => w.running = some r.id && cutoff < w.seenAt) =
      s.isVouchedFor cutoff r.job.id := by
    rw [Store.isVouchedFor, ← mirror.workers, List.any_map]
    congr 1
    funext w
    exact (Bool.and_comm _ _).trans
      (congrArg (· && _) (decide_eq_decide.2 Timestamp.ofTime_lt_ofTime.symm))
  have hjob : r.job.startedAt = r.startedAt.map .ofTime := rfl
  rw [Database.isOrphaned, hvouched, Store.isOrphan, hjob]
  cases r.startedAt with
  | none => rfl
  | some started =>
    have hstarted : decide (Timestamp.ofTime started ≤ .ofTime cutoff) =
        decide (started ≤ cutoff) :=
      decide_eq_decide.2 Timestamp.ofTime_le_ofTime
    simp only [Option.map_some, hstarted]
    rfl

/-- What happened to the orphans is recorded in the order in which they come; their own rows have
been set before. -/
theorem requeueRows_run (leeway : Leeway) (now : Time) (db : Database) {rows : List JobRow}
    (hrows : rows.map JobRow.job = found.map Store.requeuedJob) (use : s.InUse)
    (distinct : (found.map (·.id)).Nodup)
    (running : ∀ j ∈ found, s.jobs.get? j.id = some j ∧ j.status = .running)
    {jobs : Table JobId Job} (mirror : Mirrors w { s with jobs }) :
    ∃ w', (requeueRows (rows.map JobRow.wire)).run (answer leeway now) (within db w) =
        (.ok (found.map Store.requeuedJob), within db w') ∧
      Mirrors w' { found.foldl (Store.requeueOne now) s with jobs } := by
  -- the store of the induction is the one that went through the orphans before, so that the next
  -- one still runs in it and has an open attempt
  induction found generalizing rows s w with
  | nil =>
    rw [List.map_nil, List.map_eq_nil_iff] at hrows
    rw [hrows]
    exact ⟨w, rfl, mirror⟩
  | cons j rest ih =>
    obtain ⟨r, rows, rfl⟩ : ∃ r rs, rows = r :: rs := by
      cases rows with
      | nil => cases hrows
      | cons r rs => exact ⟨r, rs, rfl⟩
    rw [List.map_cons, List.map_cons, List.cons.injEq] at hrows
    obtain ⟨hr, hrest⟩ := hrows
    obtain ⟨stored, runs⟩ := running j List.mem_cons_self
    obtain ⟨w₁, hended, hput⟩ := mirror.endAttempt use rfl stored runs now
      (.failed .workerLost Store.workerLostNote)
    have hlogged := hput.log_logged leeway now .requeued j.id none Store.workerLostNote
    obtain ⟨w₂, hrun, hmirror⟩ := ih hrest (use.turn (.requeued stored runs))
      (List.nodup_cons.1 distinct).2 (Store.requeue_running distinct running) hlogged
    refine ⟨w₂, ?_, hmirror⟩
    rw [List.map_cons, requeueRows, run_reading r.job_wire, hr]
    refine (run_andThen (finalize_within hended)).trans ?_
    refine (run_andThen (appendEvent_within .requeued j.id none Store.workerLostNote)).trans ?_
    exact (run_andThen hrun).trans rfl

/-- All rows of orphans are set at once, and returned in the order that the database chooses. -/
theorem returning_orphans (mirror : Mirrors db s) (use : s.InUse) (leeway : Leeway)
    (cutoff : Time) :
    ∃ (rows : List JobRow) (found : List Job) (w : Database),
      db.returning leeway (db.isOrphaned cutoff) (·.requeued Store.workerLostNote) =
        (.rows (rows.map JobRow.wire), w) ∧
      rows.map JobRow.job = found.map Store.requeuedJob ∧ found.Perm (s.orphans cutoff) ∧
      ∀ jobs : Table JobId Job, (jobs.rows = s.jobs.rows.map fun j =>
          if j.id ∈ found.map (·.id) then Store.requeuedJob j else j) →
        Mirrors w { s with jobs } := by
  have hselected : ∀ r, db.isOrphaned cutoff r = s.isOrphan cutoff r.job :=
    isOrphaned_eq mirror cutoff
  have hchanged : (changed (db.isOrphaned cutoff) (·.requeued Store.workerLostNote)
      db.jobs).map JobRow.job = (s.jobs.rows.filter (s.isOrphan cutoff)).map Store.requeuedJob := by
    rw [changed, ← mirror.jobs, List.filter_map, List.map_map, List.map_map,
      List.filter_congr fun r _ => hselected r]
    rfl
  have hreturned : ((leeway.order (changed (db.isOrphaned cutoff)
      (·.requeued Store.workerLostNote) db.jobs)).map JobRow.job).Perm
        ((s.orphans cutoff).map Store.requeuedJob) := by
    refine ((leeway.order_perm _).map JobRow.job).trans ?_
    rw [hchanged]
    exact (List.mergeSort_perm _ _).symm.map _
  obtain ⟨found, hperm, hrows⟩ := exists_perm_of_perm_map hreturned
  refine ⟨_, found, _, rfl, hrows, hperm, fun jobs hjobs =>
    ⟨?_, mirror.attempts, mirror.workers, mirror.log⟩⟩
  rw [hjobs, ← mirror.jobs, updated, List.map_map, List.map_map]
  apply List.map_congr_left
  intro r hr
  have hmem : r.job ∈ s.jobs.rows := mirror.jobs ▸ List.mem_map_of_mem hr
  have horphan : s.isOrphan cutoff r.job = true ↔ r.job.id ∈ found.map (·.id) := by
    rw [(hperm.map (·.id)).mem_iff, List.mem_map]
    constructor
    · exact fun h => ⟨r.job, Store.mem_orphans.2 ⟨hmem, h⟩, rfl⟩
    · rintro ⟨j, hj, hid⟩
      obtain ⟨hstored, horphan⟩ := Store.mem_orphans.1 hj
      have hsame : r.job = j :=
        Table.eq_of_name use.orderly.filed (use.orderly.get?_of_mem hstored) hmem hid.symm
      rwa [hsame]
  rw [Function.comp_apply, Function.comp_apply, hselected]
  by_cases h : s.isOrphan cutoff r.job = true
  · rw [if_pos h, if_pos (horphan.1 h), JobRow.job_requeued]
  · rw [if_neg h, if_neg (horphan.not.1 h)]

/-- The server answers as the store does that is asked with the span that the server was told. -/
theorem requeueOrphaned_atLeast (mirror : Mirrors db s) (use : s.InUse) (leeway : Leeway)
    (m : Moment) {staleAfter told : Span} (htold : .atLeast staleAfter.seconds = told)
    (since : Time.earliest.nanos ≤ m.now.nanos - told.nanos) :
    ∃ (x : Except StoreError (List Job)) (w : Database),
      (resting db).perform leeway m (.requeueOrphaned staleAfter) = (x, resting w) ∧
        Alike (.requeueOrphaned told) x (s.perform m (.requeueOrphaned told)).1 ∧
          Mirrors w (s.perform m (.requeueOrphaned told)).2 := by
  have hcutoff : Store.staleCutoff m.now told = m.now.secondsBack staleAfter.seconds := by
    rw [Time.secondsBack, htold]
    exact congrArg Time.mk (Int.max_eq_right since)
  obtain ⟨rows, found, w, hreturning, hrows, hperm, hset⟩ :=
    returning_orphans mirror use leeway (m.now.secondsBack staleAfter.seconds)
  have hanswer : db.answer leeway m.now (.requeueOrphaned staleAfter Store.workerLostNote) =
      (.rows (rows.map JobRow.wire), w) := hreturning
  rw [← hcutoff] at hperm
  have hrunning : ∀ j ∈ s.orphans (Store.staleCutoff m.now told),
      s.jobs.get? j.id = some j ∧ j.status = .running := fun j hj =>
    Store.orphans_stored use.orderly hj
  have hdistinct := Store.nodup_orphans use.orderly (Store.staleCutoff m.now told)
  have hfound : ∀ j ∈ found, s.jobs.get? j.id = some j ∧ j.status = .running := fun j hj =>
    hrunning j (hperm.mem_iff.1 hj)
  have hdistinct' : (found.map (·.id)).Nodup := (hperm.map (·.id)).nodup_iff.2 hdistinct
  -- the tables mirror what becomes of the store in the order of the database
  have hown : Store.Requeued m.now s found (found.foldl (Store.requeueOne m.now) s) :=
    Store.requeued_foldl use hdistinct' hfound
  obtain ⟨w', hrun, hmirror⟩ := requeueRows_run leeway m.now db hrows use hdistinct' hfound
    (hset _ hown.jobs)
  refine ⟨.ok (found.map Store.requeuedJob), w', run_reported (run_commit (run_toCommit ?_)),
    hperm.map _, Mirrors.requeued hmirror (hown.perm hperm)
      (Store.requeued_foldl use hdistinct hrunning)⟩
  rw [run_andThen (query_within hanswer rfl)]
  exact hrun

theorem requeueOrphaned_tracks (mirror : Mirrors db s) (use : s.InUse) {staleAfter : Span}
    (since : Time.earliest.nanos ≤ m.now.nanos - staleAfter.nanos) (told : staleAfter.Told) :
    Tracks leeway db s m (.requeueOrphaned staleAfter) :=
  requeueOrphaned_atLeast mirror use leeway m told since

end Postgres

end Dispatch
