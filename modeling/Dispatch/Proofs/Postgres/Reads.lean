import Dispatch.Proofs.Job.Listing
import Dispatch.Proofs.Postgres.Writes

/-!
# Reads of a mirror

What is read of a mirror is what is read of the store.  A selection keeps the rows that hold what
the store keeps, and sorts them by the same keys; that the database takes the last attempt first
and the store takes it last makes no difference, because attempts have numbers of their own
(`latest_attempt`), and the log of the database is in the order of its numbers already.
-/

namespace Dispatch.Postgres

open Exchange Server Mirrors

variable {leeway : Leeway} {now : Time} {db : Database} {s : Store} {m : Moment} {id : JobId}

/-- Rows that can be read one by one can be read together. -/
theorem mapM_wire {ρ α : Type} {wire : ρ → Row} {read : Row → Reading α} {value : ρ → α}
    (h : ∀ r, read (wire r) = .ok (value r)) (rows : List ρ) :
    (rows.map wire).mapM read = .ok (rows.map value) := by
  induction rows with
  | nil => rfl
  | cons r rest ih =>
    rw [List.map_cons, List.mapM_cons, h, ih]
    rfl

/-! ## One job -/

/-- The rows of a job are the job's row, if there is one. -/
theorem select_job (mirror : Mirrors db s) (use : s.InUse) (id : JobId) :
    (db.jobs.filter fun r => r.id = id).map JobRow.job = (s.jobs.get? id).toList := by
  rw [← Table.filter_rows use.orderly.filed, ← mirror.jobs, List.filter_map]
  rfl

/-- The first attempt in falling order is the last one in rising order. -/
theorem latest_attempt (mirror : Mirrors db s) (use : s.InUse) (id : JobId) :
    (((db.attempts.filter fun r => r.job = id).mergeSort fun a b => b.number ≤ a.number).take
      1).map AttemptRow.attempt = (s.attemptsOf id).getLast?.toList := by
  have hrows : (db.attempts.filter fun r => r.job = id).map AttemptRow.attempt =
      s.attempts.rows.filter fun a => a.job = id := by
    rw [← mirror.attempts, List.filter_map]
    rfl
  have hsorted : ((db.attempts.filter fun r => r.job = id).mergeSort fun a b =>
        b.number ≤ a.number).map AttemptRow.attempt =
      (s.attempts.rows.filter fun a => a.job = id).mergeSort fun a b => b.number ≤ a.number := by
    rw [← hrows]
    exact List.map_mergeSort fun a _ b _ => rfl
  have hreverse : ((s.attempts.rows.filter fun a => a.job = id).mergeSort fun a b =>
      b.number ≤ a.number) = (s.attemptsOf id).reverse := by
    have hmem : ∀ {a}, a ∈ (s.attemptsOf id).reverse → a ∈ s.attemptsOf id := List.mem_reverse.1
    have hperm : ((s.attempts.rows.filter fun a => a.job = id).mergeSort fun a b =>
        b.number ≤ a.number).Perm (s.attemptsOf id).reverse :=
      (List.mergeSort_perm _ _).trans
        ((List.mergeSort_perm _ _).symm.trans (List.reverse_perm _).symm)
    have hfalling : (s.attemptsOf id).reverse.Pairwise fun a b =>
        decide (b.number ≤ a.number) = true := by
      rw [List.pairwise_reverse]
      apply (List.pairwise_map.1 (Store.pairwise_attemptsOf use.orderly id)).imp
      intro a b hab
      exact decide_eq_true (Int.le_of_lt hab)
    refine List.Perm.eq_of_pairwise ?_ (List.pairwise_mergeSort ?_ ?_ _) hfalling hperm
    · -- attempts of one job have numbers of their own
      intro a b ha hb hab hba
      refine List.inj_on_of_nodup_map (Store.nodup_attemptsOf use.orderly id)
        (hmem (hperm.mem_iff.1 ha)) (hmem hb) ?_
      exact Int.le_antisymm (of_decide_eq_true hba) (of_decide_eq_true hab)
    · simp only [decide_eq_true_eq]
      omega
    · simp only [Bool.or_eq_true, decide_eq_true_eq]
      omega
  rw [List.map_take, hsorted, hreverse, List.take_one, List.head?_reverse]

/-- The first of the rows is read if there is one. -/
theorem run_firstRow {rows : List AttemptRow} {latest : Option Attempt} {server : Server}
    (h : rows.map AttemptRow.attempt = latest.toList) :
    (firstRow Row.attempt (rows.map AttemptRow.wire)).run (answer leeway now) server =
      (.ok latest, server) := by
  cases latest with
  | none =>
    rw [Option.toList_none, List.map_eq_nil_iff] at h
    rw [h]
    rfl
  | some a =>
    rw [Option.toList_some, List.map_eq_singleton_iff] at h
    obtain ⟨r, rfl, rfl⟩ := h
    rw [List.map_singleton, firstRow, r.attempt_wire]
    rfl

theorem get_tracks (mirror : Mirrors db s) (use : s.InUse) (id : JobId) :
    Tracks leeway db s m (.get id) := by
  have hjob := select_job mirror use id
  cases hstored : s.jobs.get? id with
  | none =>
    rw [hstored, Option.toList_none, List.map_eq_nil_iff] at hjob
    have hanswer : db.answer leeway m.now (.selectJob id) = (.rows [], db) := by
      rw [Database.answer, hjob, List.map_nil]
    have hget : s.get id = .error (Store.missing id) := by rw [Store.get, hstored]
    have hrun : (get id).run (answer leeway m.now) (resting db) =
        (.error (.store (Store.missing id)), resting db) := by
      rw [get, run_andThen (run_query (answer_resting hanswer rfl))]
      rfl
    exact ⟨_, db, run_reported_error hrun, hget.symm, mirror⟩
  | some j =>
    rw [hstored, Option.toList_some, List.map_eq_singleton_iff] at hjob
    obtain ⟨r, hr, hjob⟩ := hjob
    have hanswer : db.answer leeway m.now (.selectJob id) = (.rows [r.wire], db) := by
      rw [Database.answer, hr, List.map_singleton]
    have hget : s.get id = .ok (j, (s.attemptsOf id).getLast?) := by rw [Store.get, hstored]
    have hrun : (get id).run (answer leeway m.now) (resting db) =
        (.ok (j, (s.attemptsOf id).getLast?), resting db) := by
      rw [get, run_andThen (run_query (answer_resting hanswer rfl))]
      dsimp only
      rw [run_reading r.job_wire, hjob, run_andThen (run_query (answer_resting rfl rfl)),
        run_andThen (run_firstRow (latest_attempt mirror use id))]
      rfl
    exact ⟨_, db, run_reported hrun, hget.symm, mirror⟩

/-! ## Lists -/

/-- A page keeps the rows of the jobs that the filter covers, in the order of the filter. -/
theorem page_eq (f : Filter) (rows : List JobRow) :
    Database.page f rows = ((rows.filter fun r => f.covers r.job).mergeSort fun a b =>
      f.inOrder a.job b.job).take f.limit := by
  have hadmits : ∀ {α : Type} (c : Option α) (holds : α → Bool),
      Filter.admits c holds = c.all holds := fun c holds => by cases c <;> rfl
  simp only [Filter.covers, hadmits]
  rfl

/-- A page of rows holds the page of jobs. -/
theorem map_page (f : Filter) (rows : List JobRow) :
    (Database.page f rows).map JobRow.job = f.page (rows.map JobRow.job) := by
  have hsort : ((rows.filter fun r => f.covers r.job).mergeSort fun a b =>
      f.inOrder a.job b.job).map JobRow.job =
        ((rows.filter fun r => f.covers r.job).map JobRow.job).mergeSort f.inOrder :=
    List.map_mergeSort fun a _ b _ => rfl
  rw [page_eq, List.map_take, hsort, Filter.page, Filter.sort, List.filter_map]
  rfl

theorem list_tracks (mirror : Mirrors db s) (f : Filter) : Tracks leeway db s m (.list f) := by
  by_cases hlimit : f.limit = 0
  · have hlist : s.list f = .error Store.noLimit := by rw [Store.list, if_pos hlimit]
    have hrun : (list f).run (answer leeway m.now) (resting db) =
        (.error (.store Store.noLimit), resting db) := by
      rw [list, if_pos hlimit]
      rfl
    exact ⟨_, db, run_reported_error hrun, hlist.symm, mirror⟩
  · have hlist : s.list f = .ok (f.normalized.page s.jobs.rows) := by
      rw [Store.list, if_neg hlimit]
    have hrun : (list f).run (answer leeway m.now) (resting db) =
        (.ok (f.normalized.page s.jobs.rows), resting db) := by
      rw [list, if_neg hlimit, run_andThen (run_query (answer_resting rfl rfl)), ← mirror.jobs,
        ← map_page]
      exact run_read (mapM_wire JobRow.job_wire _)
    exact ⟨_, db, run_reported hrun, hlist.symm, mirror⟩

/-! ## The log -/

/-- The log is in the order of its numbers already. -/
theorem sorted_events (log : SameLog db.events s.events) (id : JobId) :
    ((db.events.filter fun r => r.job = some id).mergeSort fun a b => a.id ≤ b.id) =
      db.events.filter fun r => r.job = some id := by
  apply List.mergeSort_of_pairwise
  apply ((List.pairwise_map.1 log.ascending).sublist List.filter_sublist).imp
  intro a b hab
  exact decide_eq_true (Int.le_of_lt hab)

theorem sameEvents (mirror : Mirrors db s) (use : s.InUse) (id : JobId) (limit : Nat) :
    SameEvents (((db.events.filter fun r => r.job = some id).take limit).map EventRow.event)
      ((s.eventsOf id).take limit) where
  same := by
    have hsame := mirror.log.same id
    rw [List.map_take, List.map_take, List.map_take, List.map_map]
    exact congrArg (List.take limit) hsame
  ascending := by
    constructor
    · rw [List.map_map]
      refine mirror.log.ascending.sublist ?_
      exact ((List.take_sublist _ _).trans List.filter_sublist).map _
    · have hall : (s.events.map (·.id)).Pairwise (· < ·) := by
        rw [use.chronicle.numbered]
        exact pairwise_countedTo _
      exact hall.sublist (((List.take_sublist _ _).trans List.filter_sublist).map _)

theorem alike_listEvents {limit : Nat} {a b : List Event} {answer : Except StoreError (List Event)}
    (h : answer = .ok b) (same : SameEvents a b) :
    Alike (.listEvents id limit) (.ok a) answer := by
  subst h
  exact same

theorem listEvents_tracks (mirror : Mirrors db s) (use : s.InUse) (id : JobId) (limit : Nat) :
    Tracks leeway db s m (.listEvents id limit) := by
  by_cases hlimit : limit = 0
  · have hlist : s.listEvents id limit = .error Store.noLimit := by
      rw [Store.listEvents, if_pos hlimit]
    have hrun : (listEvents id limit).run (answer leeway m.now) (resting db) =
        (.error (.store Store.noLimit), resting db) := by
      rw [listEvents, if_pos hlimit]
      rfl
    exact ⟨_, db, run_reported_error hrun, hlist.symm, mirror⟩
  · have hlist : s.listEvents id limit = .ok ((s.eventsOf id).take limit) := by
      rw [Store.listEvents, if_neg hlimit]
      rfl
    have hrun : (listEvents id limit).run (answer leeway m.now) (resting db) =
        (.ok (((db.events.filter fun r => r.job = some id).take limit).map EventRow.event),
          resting db) := by
      rw [listEvents, if_neg hlimit, run_andThen (run_query (answer_resting rfl rfl)),
        sorted_events mirror.log]
      exact run_read (mapM_wire EventRow.event_wire _)
    have hsame := sameEvents mirror use id limit
    exact ⟨_, db, run_reported hrun, alike_listEvents hlist hsame, mirror⟩

/-! ## Workers -/

theorem listWorkers_tracks (mirror : Mirrors db s) : Tracks leeway db s m .listWorkers := by
  have hsorted : (db.workers.mergeSort fun a b => !(b.worker.text < a.worker.text)).map
      WorkerRow.heartbeat = s.listWorkers := by
    rw [Store.listWorkers, ← mirror.workers]
    exact List.map_mergeSort fun a _ b _ => rfl
  have hrun : listWorkers.run (answer leeway m.now) (resting db) =
      (.ok s.listWorkers, resting db) := by
    rw [listWorkers, run_andThen (run_query (answer_resting rfl rfl)), ← hsorted]
    exact run_read (mapM_wire WorkerRow.heartbeat_wire _)
  exact ⟨_, db, run_reported hrun, rfl, mirror⟩

/-! ## Counts -/

/-- The number of jobs in a status. -/
def countIn (status : JobStatus) (jobs : List Job) : Nat :=
  (jobs.filter (·.status = status)).length

theorem countIn_cons (status : JobStatus) (j : Job) (jobs : List Job) :
    countIn status (j :: jobs) = (if j.status = status then 1 else 0) + countIn status jobs := by
  by_cases h : j.status = status <;> simp [countIn, h, Nat.add_comm]

/-- The tally of a count for every status. -/
def tallied (count : JobStatus → Nat) : Tally :=
  ⟨count .queued, count .running, count .succeeded, count .failed, count .retryScheduled,
    count .dlq, count .cancelled⟩

theorem record_tallied (count : JobStatus → Nat) (status : JobStatus) (n : Nat) :
    (tallied count).record status n =
      tallied fun other => count other + if status = other then n else 0 := by
  cases status <;> rfl

/-- Jobs may be counted one by one. -/
theorem tally_jobs (jobs : List Job) (count : JobStatus → Nat) :
    jobs.foldl (fun t j => t.record j.status 1) (tallied count) =
      tallied fun status => count status + countIn status jobs := by
  induction jobs generalizing count with
  | nil => rfl
  | cons j rest ih =>
    rw [List.foldl_cons, record_tallied, ih]
    simp only [countIn_cons, Nat.add_assoc]

/-- Jobs may be counted status by status. -/
theorem tally_statuses {statuses : List JobStatus} (distinct : statuses.Nodup)
    (counts count : JobStatus → Nat) :
    statuses.foldl (fun t status => t.record status (counts status)) (tallied count) =
      tallied fun status => count status + if status ∈ statuses then counts status else 0 := by
  induction statuses generalizing count with
  | nil => rfl
  | cons status rest ih =>
    obtain ⟨hfresh, hrest⟩ := List.nodup_cons.1 distinct
    rw [List.foldl_cons, record_tallied, ih hrest]
    congr 1
    funext other
    by_cases h : status = other
    · subst h
      simp [hfresh]
    · simp [h, Ne.symm h]

theorem tally_tracks (mirror : Mirrors db s) : Tracks leeway db s m .tally := by
  have hcount : ∀ status, (db.jobs.filter (·.status = status)).length =
      countIn status s.jobs.rows := fun status => by
    rw [countIn, ← mirror.jobs, List.filter_map, List.length_map]
    rfl
  -- statuses without jobs have no row, and they would count for nothing
  have hcounted : (JobStatus.all.filter fun status => countIn status s.jobs.rows ≠ 0).foldl
      (fun t status => t.record status (countIn status s.jobs.rows)) {} = s.tally := by
    have hall : ∀ status, status ∈ JobStatus.all := fun status => by cases status <;> decide
    refine (tally_statuses (List.Nodup.filter _ (by decide)) (countIn · s.jobs.rows)
      fun _ => 0).trans ?_
    refine Eq.trans ?_ (tally_jobs s.jobs.rows fun _ => 0).symm
    congr 1
    funext status
    by_cases h : countIn status s.jobs.rows = 0 <;> simp [h, hall]
  have hrun : tally.run (answer leeway m.now) (resting db) = (.ok s.tally, resting db) := by
    rw [tally, run_andThen (run_query (answer_resting rfl rfl))]
    refine run_read ?_
    simp only [hcount]
    have hread := mapM_wire (fun status => count_wire (status, countIn status s.jobs.rows))
      (JobStatus.all.filter fun status => countIn status s.jobs.rows ≠ 0)
    refine (congrArg (Except.map fun counts => counts.foldl
      (fun (t : Tally) (x : JobStatus × Nat) => t.record x.1 x.2) {}) hread).trans
        (congrArg Except.ok ?_)
    exact (List.foldl_map).trans hcounted
  exact ⟨_, db, run_reported hrun, rfl, mirror⟩

theorem ping_tracks (mirror : Mirrors db s) : Tracks leeway db s m .ping :=
  ⟨.ok (), db, rfl, rfl, mirror⟩

end Dispatch.Postgres
