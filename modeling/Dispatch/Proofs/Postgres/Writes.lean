import Dispatch.Proofs.Postgres.Mirror

/-!
# Writes to a mirror

A write goes to the tables as a transaction of statements and to the store as one operation.  If
the tables mirror the store, both answer alike and the tables mirror the store afterwards
(`Tracks`): the guard of the transaction selects the job that the operation finds, or nothing if it
finds none, and every further statement does a part of what the operation does.
-/

namespace Dispatch.Postgres

open Exchange Server Mirrors

/-- The events are the same but for their numbers, and in the order of their numbers. -/
structure SameEvents (a b : List Event) : Prop where
  same : a.map Event.unnumbered = b.map Event.unnumbered
  ascending : (a.map (·.id)).Pairwise (· < ·) ∧ (b.map (·.id)).Pairwise (· < ·)

/-- Two answers to a call are the same, except that orphans may come in any order and that events
may have other numbers in the same order. -/
def Alike : (c : StoreCall) → c.Reply → c.Reply → Prop
  | .requeueOrphaned _, .ok (a : List Job), .ok (b : List Job) => a.Perm b
  | .listEvents _ _, .ok a, .ok b => SameEvents a b
  | _, a, b => a = b

/-- The server answers the call as the store does, and its tables mirror the store afterwards. -/
def Tracks (leeway : Leeway) (db : Database) (s : Store) (m : Moment) (c : StoreCall) : Prop :=
  ∃ x db', (resting db).perform leeway m c = (x, resting db') ∧ Alike c x (s.perform m c).1 ∧
    Mirrors db' (s.perform m c).2

variable {leeway : Leeway} {now : Time} {db w w' : Database} {s : Store} {m : Moment}
  {id : JobId} {j : Job} {guard : Statement}

/-! ## Starting -/

theorem mem_rows_putJob (s : Store) (j : Job) : j ∈ (s.putJob j).jobs.rows :=
  Table.mem_rows.2 ⟨j.id, by simp⟩

section Start

variable {worker : WorkerId}

theorem start_missing (hanswer : db.answer leeway now (.startJob id) = (.rows [], db)) :
    (start id worker).run (answer leeway now) (resting db) = (.ok none, resting db) := by
  refine run_abandon (w := db) ?_
  rw [run_bind, query_within hanswer rfl]
  rfl

theorem start_found {r : JobRow}
    (hanswer : db.answer leeway now (.startJob id) = (.rows [r.wire], w))
    (hopen : w.answer leeway now (.openAttempt id r.job.attempt) = (.affected 1, w')) :
    (start id worker).run (answer leeway now) (resting db) = (.ok (some r.job),
      resting (w'.logged leeway now .started id (some worker) Store.startedNote)) := by
  refine run_commit ?_
  rw [run_bind, query_within hanswer rfl]
  refine run_toCommit ?_
  rw [run_reading r.job_wire, run_andThen (execute_within hopen rfl),
    run_andThen (appendEvent_within _ _ _ _)]
  rfl

end Start

theorem start_tracks (mirror : Mirrors db s) (use : s.InUse) (id : JobId) (worker : WorkerId) :
    Tracks leeway db s m (.start id worker) := by
  have hselected : ∀ r : JobRow, r.isAmong id [.queued] =
      (decide (r.job.id = id) && decide (r.job.status = .queued)) :=
    isAmong_eq (fun status => decide_eq_decide.2 List.mem_singleton) id
  cases hfound : s.jobIf? id (·.status = .queued) with
  | none =>
    have hanswer : db.answer leeway m.now (.startJob id) = (.rows [], db) :=
      (mirror.putJob_none leeway use.orderly.filed hselected hfound _).1
    have hstart : s.perform m (.start id worker) = (.ok none, s) := by
      simp [Store.perform, Store.start, hfound]
    rw [Tracks, hstart]
    exact ⟨.ok none, db, run_reported (start_missing hanswer), rfl, mirror⟩
  | some j =>
    obtain ⟨stored, -⟩ := Store.jobIf?_eq_some.1 hfound
    obtain ⟨r, w, hjob, hreturning, -, hset⟩ := mirror.putJob_some leeway (·.begun m.now)
      use.orderly.filed hselected (JobRow.job_started m.now) hfound rfl
    have hanswer : db.answer leeway m.now (.startJob id) = (.rows [r.wire], w) := hreturning
    have hattempt : r.job.attempt = j.attempt + 1 := congrArg Job.attempt hjob
    have hstart : s.perform m (.start id worker) = (.ok (some (j.begun m.now)),
        ((s.putJob (j.begun m.now)).putAttempt (.opened id (j.attempt + 1) m.now)).log .started id
          (some worker) Store.startedNote m.now) := by
      simp only [Store.perform, Store.start, hfound]
      rfl
    -- the table of attempts asks for a positive number
    have hcounted := (use.ledger.booked id j stored).counted
    cases use.orderly.filed id j stored
    obtain ⟨w', hopen, hopened⟩ : ∃ w', w.answer leeway m.now (.openAttempt j.id (j.attempt + 1)) =
          (.affected 1, w') ∧ Mirrors w' ((s.putJob (j.begun m.now)).putAttempt
            (.opened j.id (j.attempt + 1) m.now)) :=
      hset.openAttempt leeway m.now (named_of_orderly use.orderly : Named s)
        (mem_rows_putJob s (j.begun m.now)) rfl (by omega)
    rw [Tracks, hstart]
    exact ⟨.ok (some r.job), _, run_reported (start_found hanswer (hattempt ▸ hopen)),
      congrArg (fun j => Except.ok (some j)) hjob,
      hopened.log_logged leeway m.now .started j.id (some worker) Store.startedNote⟩

/-! ## Ending an attempt -/

section Settle

variable {n : Int} {worker : WorkerId} {ending : Ending} {kind : EventKind} {note : String}

theorem settle_missing (hanswer : db.answer leeway now guard = (.affected 0, db))
    (data : guard.isControl = false) :
    (settle guard id n worker ending kind note).run (answer leeway now) (resting db) =
      (.error (.store (Store.notRunning id n)), resting db) := by
  refine run_absent (w := db) (run_toCommit_error ?_)
  rw [run_andThen (execute_within hanswer data)]
  rfl

theorem settle_found {w w' : Database} (hanswer : db.answer leeway now guard = (.affected 1, w))
    (data : guard.isControl = false)
    (hended : w.updateAttempts (·.isOpenOf id n) (·.ended now ending) = (.affected 1, w')) :
    (settle guard id n worker ending kind note).run (answer leeway now) (resting db) =
      (.ok (), resting (w'.logged leeway now kind id (some worker) note)) := by
  refine run_commit (run_toCommit ?_)
  rw [run_andThen (execute_within hanswer data)]
  change (andThen (finalize id n ending) _).run _ _ = _
  rw [run_andThen (finalize_within hended), appendEvent_within]

/-- The outcome of an operation that ends the running attempt of a job. -/
def ended (s : Store) (id : JobId) (n : Int) (worker : WorkerId) (ending : Ending)
    (kind : EventKind) (note : String) (step : Job → Job) (now : Time) : Store.Outcome Unit :=
  match s.running? id n with
  | none => .error (Store.notRunning id n)
  | some j => .ok ((), ((s.putJob (step j)).putAttempt
      ((verdict ending).close now (s.attemptRow id n now))).log kind id (some worker) note now)

/-- A job that runs the attempt is settled, and so is its attempt. -/
theorem settle_tracks (mirror : Mirrors db s) (use : s.InUse) (leeway : Leeway)
    {set : JobRow → JobRow} {step : Job → Job} (hset : ∀ r, (set r).job = step r.job)
    (keeps : ∀ j, (step j).id = j.id)
    (hguard : db.answer leeway now guard = db.updateJobs (·.isRunning id n) set)
    (data : guard.isControl = false) :
    ∃ x db', (reported (settle guard id n worker ending kind note)).run (answer leeway now)
        (resting db) = (x, resting db') ∧
      x = (s.settle (ended s id n worker ending kind note step now)).1 ∧
      Mirrors db' (s.settle (ended s id n worker ending kind note step now)).2 := by
  have hselected := isRunning_eq id n
  unfold ended
  cases hfound : s.running? id n with
  | none =>
    have hanswer := hguard.trans
      (mirror.putJob_none leeway use.orderly.filed hselected hfound set).2
    exact ⟨_, db, run_reported_error (settle_missing hanswer data), rfl, mirror⟩
  | some j =>
    obtain ⟨r, w, -, -, hupdate, hput⟩ := mirror.putJob_some leeway step use.orderly.filed
      hselected hset hfound (keeps j)
    obtain ⟨stored, running, rfl⟩ := Store.running?_eq_some.1 hfound
    cases use.orderly.filed id j stored
    obtain ⟨w', hended, hput'⟩ := hput.endAttempt use rfl stored running now ending
    exact ⟨_, _, run_reported (settle_found (hguard.trans hupdate) data hended), rfl,
      hput'.log_logged leeway now kind j.id (some worker) note⟩

end Settle

theorem succeed_tracks (mirror : Mirrors db s) (use : s.InUse) (id : JobId) (n : Int)
    (worker : WorkerId) (usage : Usage) : Tracks leeway db s m (.succeed id n worker usage) :=
  settle_tracks mirror use leeway (JobRow.job_succeeded m.now) (fun _ => rfl) rfl rfl

theorem fail_tracks (mirror : Mirrors db s) (use : s.InUse) (id : JobId) (n : Int)
    (worker : WorkerId) (code : FailureCode) (message : String) :
    Tracks leeway db s m (.fail id n worker code message) :=
  settle_tracks mirror use leeway (fun r => r.job_failed m.now code message) (fun _ => rfl) rfl rfl

/-! ## Operators' changes -/

section Change

variable {r : JobRow} {state : String} {rest : Job → Attempted Unit}

theorem change_missing (hanswer : db.answer leeway now guard = (.rows [], db))
    (data : guard.isControl = false) :
    (change guard id state rest).run (answer leeway now) (resting db) =
      (.error (.store (Store.notInState id state)), resting db) := by
  refine run_absent (w := db) (run_toCommit_error ?_)
  rw [run_andThen (query_within hanswer data)]
  rfl

theorem change_found (hanswer : db.answer leeway now guard = (.rows [r.wire], w))
    (data : guard.isControl = false)
    (hrest : (rest r.job).run (answer leeway now) (within db w) = (.ok (), within db w')) :
    (change guard id state rest).run (answer leeway now) (resting db) =
      (.ok r.job, resting w') := by
  refine run_commit (run_toCommit ?_)
  rw [run_andThen (query_within hanswer data), run_reading r.job_wire, run_andThen hrest]
  rfl

end Change

theorem cancel_tracks (mirror : Mirrors db s) (use : s.InUse) (id : JobId) (reason : String) :
    Tracks leeway db s m (.cancel id reason) := by
  have hselected : ∀ r : JobRow, r.isAmong id [.queued, .running, .retryScheduled] =
      (decide (r.job.id = id) && r.job.status.isCancellable) :=
    isAmong_eq (fun status => by cases status <;> rfl) id
  cases hfound : s.jobIf? id (·.status.isCancellable) with
  | none =>
    have hanswer : db.answer leeway m.now (.cancelJob id reason) = (.rows [], db) :=
      (mirror.putJob_none leeway use.orderly.filed hselected hfound _).1
    have hcancel : s.perform m (.cancel id reason) =
        (.error (Store.notInState id "cancellable"), s) := by
      simp [Store.perform, Store.cancel, hfound, Store.settle]
    rw [Tracks, hcancel]
    exact ⟨_, db, run_reported_error (change_missing hanswer rfl), rfl, mirror⟩
  | some j =>
    obtain ⟨stored, -⟩ := Store.jobIf?_eq_some.1 hfound
    obtain ⟨r, w, hjob, hreturning, -, hput⟩ := mirror.putJob_some leeway (·.withdrawn reason m.now)
      use.orderly.filed hselected (fun r => r.job_cancelled m.now reason) hfound rfl
    have hanswer : db.answer leeway m.now (.cancelJob id reason) = (.rows [r.wire], w) := hreturning
    have hattempt : r.job.attempt = j.attempt := (congrArg Job.attempt hjob).trans rfl
    cases use.orderly.filed id j stored
    obtain ⟨count, w', hclose, hclosed⟩ := hput.cancelAttempt use rfl stored m.now reason
    have hcancel : s.perform m (.cancel j.id reason) = (.ok (j.withdrawn reason m.now),
        (if j.status = .running then (s.putJob (j.withdrawn reason m.now)).closeAttempt j.id
          j.attempt .cancelled reason m.now else s.putJob (j.withdrawn reason m.now)).log
            .cancelled j.id none reason m.now) := by
      simp only [Store.perform, Store.cancel, hfound, Store.settle]
    rw [Tracks, hcancel]
    refine ⟨.ok r.job, _, run_reported (change_found hanswer rfl ?_), congrArg Except.ok hjob,
      hclosed.log_logged leeway m.now .cancelled j.id none reason⟩
    have hanswer' : w.answer leeway m.now (.cancelAttempt j.id r.job.attempt reason) =
        (.affected count, w') := hattempt ▸ hclose
    rw [run_andThen (execute_within hanswer' rfl), appendEvent_within]

theorem retry_tracks (mirror : Mirrors db s) (use : s.InUse) (id : JobId) :
    Tracks leeway db s m (.retry id) := by
  have hselected : ∀ r : JobRow, r.isAmong id [.failed, .retryScheduled, .dlq, .cancelled] =
      (decide (r.job.id = id) && r.job.status.isRetryable) :=
    isAmong_eq (fun status => by cases status <;> rfl) id
  cases hfound : s.jobIf? id (·.status.isRetryable) with
  | none =>
    have hanswer : db.answer leeway m.now (.retryJob id) = (.rows [], db) :=
      (mirror.putJob_none leeway use.orderly.filed hselected hfound _).1
    have hretry : s.perform m (.retry id) = (.error (Store.notInState id "retryable"), s) := by
      simp [Store.perform, Store.retry, hfound, Store.settle]
    rw [Tracks, hretry]
    exact ⟨_, db, run_reported_error (change_missing hanswer rfl), rfl, mirror⟩
  | some j =>
    obtain ⟨r, w, hjob, hreturning, -, hput⟩ := mirror.putJob_some leeway Job.renewed
      use.orderly.filed hselected JobRow.job_retried hfound rfl
    have hanswer : db.answer leeway m.now (.retryJob id) = (.rows [r.wire], w) := hreturning
    have hretry : s.perform m (.retry id) = (.ok j.renewed,
        (s.putJob j.renewed).log .retryScheduled id none Store.retriedNote m.now) := by
      simp only [Store.perform, Store.retry, hfound, Store.settle]
    rw [Tracks, hretry]
    exact ⟨.ok r.job, _, run_reported (change_found hanswer rfl (appendEvent_within _ _ _ _)),
      congrArg Except.ok hjob,
      hput.log_logged leeway m.now .retryScheduled id none Store.retriedNote⟩

/-! ## Reports -/

theorem beat_tracks (mirror : Mirrors db s) (use : s.InUse) (worker : WorkerId)
    (state : WorkerState) (running : Option JobId) (concurrency : Int) :
    Tracks leeway db s m (.beat worker state running concurrency) := by
  obtain ⟨w, hanswer, hset⟩ :=
    mirror.upsertWorker leeway m.now use.reported worker state running concurrency
  have hrun : (beat worker state running concurrency).run (answer leeway m.now) (resting db) =
      (.ok (), resting w) := by
    rw [beat, run_andThen (run_execute (answer_resting hanswer rfl))]
    rfl
  exact ⟨.ok (), w, run_reported hrun, rfl, hset⟩

end Dispatch.Postgres
