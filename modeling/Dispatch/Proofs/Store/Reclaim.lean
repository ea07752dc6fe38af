import Dispatch.Proofs.Store.Effect
import Dispatch.Proofs.Store.InUse
import Dispatch.Proofs.Store.Orphans
import Dispatch.Proofs.Store.Run

/-!
# Who is sent back to waiting, and what that changes

A running job is abandoned if it started no later than a cutoff and no worker has reported after the
cutoff that it runs the job (`Abandoned`).  Returning the orphans sends back just the abandoned
jobs, ends their attempts, enters one event for each of them in the log, and leaves everything else
as it was (`Reclaims`).

The longer the grace, the earlier the cutoff (`staleCutoff_antitone`), and the earlier the cutoff,
the fewer the abandoned jobs (`Abandoned.later`).  A grace that reaches back past the first instant
of the calendar spares every job that was started on a clock past that instant (`StartsAfter`).
-/

namespace Dispatch.Store

variable {s s' : Store} {now cutoff cutoff' floor : Time} {staleAfter : Span} {j : Job}
  {found : List Job} {calls : List (Moment × StoreCall)}

/-! ## Abandoned jobs -/

/-- The job has been running since the cutoff or longer, and no worker has reported after the cutoff
that it runs the job. -/
structure Abandoned (s : Store) (cutoff : Time) (j : Job) : Prop where
  stored : s.jobs.get? j.id = some j
  running : j.status = .running
  started : ∃ t, j.startedAt = some t ∧ t ≤ (cutoff : Timestamp)
  unvouched : ∀ worker h, s.workers.get? worker = some h → h.running = some j.id →
    ¬ (cutoff : Timestamp) < h.seenAt

theorem isOrphan_iff :
    s.isOrphan cutoff j = true ↔ j.status = .running ∧
      (∃ t, j.startedAt = some t ∧ t ≤ (cutoff : Timestamp)) ∧
      ∀ worker h, s.workers.get? worker = some h → h.running = some j.id →
        ¬ (cutoff : Timestamp) < h.seenAt := by
  have hvouched : (!s.isVouchedFor cutoff j.id) = true ↔
      ∀ worker h, s.workers.get? worker = some h → h.running = some j.id →
        ¬ (cutoff : Timestamp) < h.seenAt := by
    simp only [isVouchedFor, Bool.not_eq_true', List.any_eq_false, Table.mem_rows,
      Bool.and_eq_true, decide_eq_true_eq, not_and]
    constructor
    · exact fun h worker row hrow hruns hyoung => h row ⟨worker, hrow⟩ hyoung hruns
    · rintro h row ⟨worker, hrow⟩ hyoung hruns
      exact h worker row hrow hruns hyoung
  rw [isOrphan, Bool.and_eq_true, Bool.and_eq_true, hvouched, decide_eq_true_eq, and_assoc]
  refine and_congr_right fun _ => and_congr_left fun _ => ?_
  cases j.startedAt <;> simp

/-- The orphans are the abandoned jobs. -/
theorem mem_orphans_iff (h : s.Orderly) : j ∈ s.orphans cutoff ↔ s.Abandoned cutoff j := by
  rw [mem_orphans, isOrphan_iff]
  constructor
  · rintro ⟨hrow, running, started, unvouched⟩
    exact ⟨h.get?_of_mem hrow, running, started, unvouched⟩
  · rintro ⟨stored, running, started, unvouched⟩
    exact ⟨Table.mem_rows.2 ⟨_, stored⟩, running, started, unvouched⟩

/-- Who is abandoned at a cutoff is abandoned at every later one. -/
theorem Abandoned.later (h : s.Abandoned cutoff j) (le : cutoff ≤ cutoff') :
    s.Abandoned cutoff' j := by
  have hle : (cutoff : Timestamp) ≤ (cutoff' : Timestamp) := Timestamp.ofTime_le_ofTime.2 le
  refine ⟨h.stored, h.running, ?_, fun worker row hrow hruns hyoung => ?_⟩
  · obtain ⟨t, ht, hold⟩ := h.started
    exact ⟨t, ht, Timestamp.le_trans hold hle⟩
  · exact h.unvouched worker row hrow hruns (Timestamp.lt_of_le_of_lt hle hyoung)

/-- A longer grace has an earlier cutoff. -/
theorem staleCutoff_antitone (now : Time) {short long : Span} (le : short ≤ long) :
    staleCutoff now long ≤ staleCutoff now short := by
  have hle : short.nanos ≤ long.nanos := le
  show max Time.earliest.nanos (now.nanos - long.nanos) ≤
    max Time.earliest.nanos (now.nanos - short.nanos)
  omega

/-! ## Jobs that started late enough -/

/-- No job has started at the instant or before it. -/
def StartsAfter (floor : Time) (s : Store) : Prop :=
  ∀ id j t, s.jobs.get? id = some j → j.startedAt = some t → (floor : Timestamp) < t

theorem StartsAfter.turn {d : Deed} {after : Job} (h : s.StartsAfter floor)
    (turn : Turn now s d after s') (since : floor < now) : s'.StartsAfter floor := by
  intro id j t hj hstart
  rw [turn.get?_jobs] at hj
  split at hj
  · cases hj
    cases hbefore : s.jobs.get? after.id with
    | none =>
      -- a job that was not there is created, and a job that is created has not started
      cases turn with
      | created valid unclaimed unknown => cases hstart
      | started worker stored | succeeded worker usage stored | failed worker code message stored
      | dropped reason stored | stopped reason stored | retried stored | requeued stored =>
        cases stored.symm.trans hbefore
    | some before =>
      rcases turn.startedAt_eq hbefore with hsame | hnow
      · exact h _ before t hbefore (hsame ▸ hstart)
      · rw [hnow] at hstart
        cases hstart
        exact Timestamp.ofTime_lt_ofTime.2 since
  · exact h id j t hj hstart

/-- On a clock past an instant every job starts after that instant. -/
theorem StartsAfter.afterAll (h : s.Orderly) (start : s.StartsAfter floor)
    (clock : ∀ call ∈ calls, floor < call.1.now) : (s.afterAll calls).StartsAfter floor := by
  induction calls generalizing s with
  | nil => exact start
  | cons call rest ih =>
    obtain ⟨m, c⟩ := call
    have since : floor < m.now := clock (m, c) List.mem_cons_self
    have hnext := kept_by_perform (P := StartsAfter floor) h m c (fun {a b} _ change hstart => by
      cases change with
      | report workers => exact hstart
      | turn turn => exact hstart.turn turn since) start
    exact ih hnext.1 hnext.2 fun call hcall => clock call (List.mem_cons_of_mem _ hcall)

/-- Where every job has started after the cutoff nobody is abandoned. -/
theorem StartsAfter.not_abandoned (h : s.StartsAfter cutoff) : ¬ s.Abandoned cutoff j := by
  intro habandoned
  obtain ⟨t, ht, hold⟩ := habandoned.started
  exact hold (h j.id j t habandoned.stored ht)

/-! ## What is left -/

theorem keys_requeue (found : List Job) : (found.foldl (requeueOne now) s).keys = s.keys := by
  induction found generalizing s with
  | nil => rfl
  | cons j rest ih => exact ih

/-- The entry of a job that goes back to waiting. -/
def requeuedEntry (now : Time) (j : Job) (n : Nat) : Event :=
  { id := n, tag := EventKind.requeued.tag, job := some j.id, worker := none
    details := workerLostNote, createdAt := now }

/-- The log gets one entry for each job, in their order, and the numbers go on. -/
theorem events_requeue (found : List Job) :
    (found.foldl (requeueOne now) s).events = s.events ++
      (found.zipIdx (s.events.length + 1)).map fun (j, n) => requeuedEntry now j n := by
  induction found generalizing s with
  | nil => simp
  | cons j rest ih =>
    have hfirst : (requeueOne now s j).events =
        s.events ++ [requeuedEntry now j (s.events.length + 1)] := rfl
    rw [List.foldl_cons, ih, hfirst]
    simp

/-- What one return of orphans has made of a store. -/
structure Reclaims (staleAfter : Span) (now : Time) (s : Store) (jobs : List Job) (s' : Store) :
    Prop where
  inOrder : jobs.Pairwise fun a b => a.id < b.id
  /-- The abandoned jobs are returned and no others. -/
  selected : ∀ id, id ∈ jobs.map (·.id) ↔
    ∃ j, j.id = id ∧ s.Abandoned (staleCutoff now staleAfter) j
  /-- They wait again, and apart from what says so their rows are the old ones. -/
  waiting : ∀ j ∈ jobs, s'.jobs.get? j.id = some j ∧
    ∃ before, s.jobs.get? j.id = some before ∧
      j = { before with
        status := .queued, finishedAt := none, errorCode := some .workerLost
        errorMessage := some workerLostNote }
  /-- Their attempts were open and have failed now. -/
  ended : ∀ j ∈ jobs, ∃ row, s.attempts.get? (j.id, j.attempt) = some row ∧
    row.isOpen = true ∧ s'.attempts.get? (j.id, j.attempt) = some { row with
      finishedAt := some (now : Timestamp), success := some false, errorCode := some .workerLost
      errorMessage := some workerLostNote }
  /-- Each of them has one entry at the end of the log, and the log before it is the old one. -/
  logged : s'.events = s.events ++
    (jobs.zipIdx (s.events.length + 1)).map fun (j, n) => requeuedEntry now j n
  otherJobs : ∀ id, id ∉ jobs.map (·.id) → s'.jobs.get? id = s.jobs.get? id
  otherAttempts : ∀ key, key ∉ jobs.map (fun j => (j.id, j.attempt)) →
    s'.attempts.get? key = s.attempts.get? key
  workers : s'.workers = s.workers
  keys : s'.keys = s.keys
  /-- Another return at the same instant finds nobody and changes nothing. -/
  again : s'.requeueOrphaned staleAfter now = ([], s')

/-- A return of orphans does what it should, and no more. -/
theorem InUse.reclaims (use : s.InUse) (staleAfter : Span) (now : Time) :
    Reclaims staleAfter now s (s.requeueOrphaned staleAfter now).1
      (s.requeueOrphaned staleAfter now).2 := by
  have orderly := use.orderly
  have distinct := nodup_orphans orderly (staleCutoff now staleAfter)
  have stored : ∀ j ∈ s.orphans (staleCutoff now staleAfter),
      s.jobs.get? j.id = some j ∧ j.status = .running := fun j hj => orphans_stored orderly hj
  have effect : Effect now s _ none _ _ := requeue_effect orderly distinct stored
  have runs : ∀ j ∈ s.orphans (staleCutoff now staleAfter), s.Runs j.id j.attempt :=
    fun j hj => ⟨j, (stored j hj).1, (stored j hj).2, rfl⟩
  have hids : (s.requeueOrphaned staleAfter now).1.map (·.id) =
      (s.orphans (staleCutoff now staleAfter)).map (·.id) := by
    simp [requeueOrphaned, requeuedJob]
  refine ⟨?_, fun id => ?_, fun j hj => ?_, fun j hj => ?_, ?_, fun id hid => ?_,
    fun key hkey => ?_, workers_requeue _, keys_requeue _, requeueOrphaned_again orderly _ _⟩
  · exact List.pairwise_map.2 (pairwise_orphans orderly _)
  · rw [hids, List.mem_map]
    exact exists_congr fun j => by rw [mem_orphans_iff orderly, and_comm]
  · obtain ⟨before, hbefore, rfl⟩ := List.mem_map.1 hj
    exact ⟨get?_jobs_requeue (j := before) distinct hbefore, before, (stored before hbefore).1, rfl⟩
  · obtain ⟨before, hbefore, rfl⟩ := List.mem_map.1 hj
    obtain ⟨hrow, isOpen, -⟩ := use.opened (stored before hbefore).1 (stored before hbefore).2 now
    refine ⟨_, hrow, isOpen, ?_⟩
    have hclosed := effect.closed before.id before.attempt (runs before hbefore)
      (List.mem_map_of_mem hbefore) _ rfl
    rw [hrow, Option.map_some] at hclosed
    refine hclosed.trans (congrArg some ?_)
    exact if_pos isOpen
  · rw [requeueOrphaned, events_requeue, List.zipIdx_map, List.map_map]
    rfl
  · rw [hids] at hid
    exact get?_jobs_requeue_other hid
  · obtain ⟨id, n⟩ := key
    refine effect.kept id n (by simp) fun hruns => hkey ?_
    -- a job runs one attempt, so the attempt that ended is the current one
    obtain ⟨⟨k, hk, -, hn⟩, hended⟩ := hruns
    obtain ⟨before, hbefore, rfl⟩ := List.mem_map.1 hended
    cases (stored before hbefore).1.symm.trans hk
    exact List.mem_map.2 ⟨_, List.mem_map_of_mem hbefore, by rw [← hn]; rfl⟩

/-- Whatever has happened to a store, a return of orphans sends back the abandoned jobs and touches
nothing else, at every time and for every grace.  A longer grace sends back some of the jobs that a
shorter one does, and one that reaches back to the first instant of the calendar none at all, given
that the clock has always been past that instant. -/
theorem reclaims_afterAll (calls : List (Moment × StoreCall)) (now : Time) :
    let s := empty.afterAll calls
    (∀ staleAfter, Reclaims staleAfter now s (s.requeueOrphaned staleAfter now).1
      (s.requeueOrphaned staleAfter now).2) ∧
    (∀ short long : Span, short ≤ long →
      ∀ j ∈ (s.requeueOrphaned long now).1, j ∈ (s.requeueOrphaned short now).1) ∧
    ∀ staleAfter : Span, now.nanos - staleAfter.nanos ≤ Time.earliest.nanos →
      (∀ call ∈ calls, Time.earliest < call.1.now) →
        s.requeueOrphaned staleAfter now = ([], s) := by
  intro s
  have use : s.InUse := .afterAll calls
  refine ⟨fun staleAfter => use.reclaims staleAfter now, fun short long le j hj => ?_,
    fun staleAfter reach clock => ?_⟩
  · obtain ⟨before, hbefore, rfl⟩ := List.mem_map.1 hj
    rw [mem_orphans_iff use.orderly] at hbefore
    exact List.mem_map_of_mem
      ((mem_orphans_iff use.orderly).2 (hbefore.later (staleCutoff_antitone now le)))
  · have hcutoff : staleCutoff now staleAfter = Time.earliest :=
      congrArg Time.mk (Int.max_eq_left reach)
    have hstarts : s.StartsAfter Time.earliest :=
      .afterAll .empty (fun id j t hj => by cases hj) clock
    have hnone : s.orphans (staleCutoff now staleAfter) = [] := by
      refine List.eq_nil_iff_forall_not_mem.2 fun j hj => ?_
      rw [hcutoff, mem_orphans_iff use.orderly] at hj
      exact hstarts.not_abandoned hj
    rw [requeueOrphaned, hnone]
    rfl

/-- Three jobs are started.  The worker of the first one is silent after that, the worker of the
second one reports once more, and the third one starts late. -/
def threeAtWork : List (Moment × StoreCall) :=
  let at_ (seconds n : Nat) : Moment := ⟨⟨seconds * 1000000000⟩, .numbered 0 n⟩
  let job (n : Nat) : JobId := (FreshIds.numbered 0 n).job
  let create : StoreCall := .create { tenant := "acme", model := "small" }
  [(at_ 1 1, create), (at_ 1 2, create), (at_ 1 3, create),
    (at_ 2 1, .start (job 1) ⟨"a"⟩), (at_ 2 1, .beat ⟨"a"⟩ .busy (some (job 1)) 1),
    (at_ 2 2, .start (job 2) ⟨"b"⟩), (at_ 2 2, .beat ⟨"b"⟩ .busy (some (job 2)) 1),
    (at_ 7 2, .beat ⟨"b"⟩ .busy (some (job 2)) 1), (at_ 8 3, .start (job 3) ⟨"c"⟩)]

/-- Five seconds is too long for the first job alone, and no job has run since before the first
instant of the calendar. -/
theorem reclaims_threeAtWork :
    let s := empty.afterAll threeAtWork
    let now : Time := ⟨11000000000⟩
    (s.requeueOrphaned (.ofSeconds 5) now).1.map (·.id) = [(FreshIds.numbered 0 1).job] ∧
      Reclaims (.ofSeconds 5) now s (s.requeueOrphaned (.ofSeconds 5) now).1
        (s.requeueOrphaned (.ofSeconds 5) now).2 ∧
      s.requeueOrphaned (.ofSeconds 10000000000000) now = ([], s) := by
  obtain ⟨hreclaims, -, hbeyond⟩ := reclaims_afterAll threeAtWork ⟨11000000000⟩
  exact ⟨by decide +kernel, hreclaims _, hbeyond _ (by decide) (by decide)⟩

end Dispatch.Store
