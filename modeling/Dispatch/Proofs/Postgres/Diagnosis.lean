import Dispatch.Proofs.Job.Draft
import Dispatch.Proofs.Postgres.Causes
import Dispatch.Proofs.Worker.Commit

/-!
# What an error of the store says about its cause

Callers act on the kind of an error: a conflict, bad input and a missing job are final, and the
storage's fault is worth another try.  `classified_scripted` says for every operation and whatever
the database replies which replies lead to which kind, in both directions, what it takes for a row
to be read, and when a runner tries a commit again.  Rows that an operation does not look at make no
error; `answers_past_strangeRow` shows what that means.
-/

namespace Dispatch.Postgres

namespace Exchange

variable {α : Type} {past : List Sending} {s : Statement} {P : Prop}

/-! ## Parts of operations -/

namespace Explained

theorem mono {e : Attempted α} {mid post : List Sending → α → Prop} (h : Explained past e mid)
    (hmid : ∀ past' a, mid past' a → post past' a) : Explained past e post :=
  fun _ _ run => ⟨fun a ha => hmid _ a ((h run).1 a ha), (h run).2⟩

/-- A statement that need not hit anything and brings no rows to read. -/
theorem plain (hs : s.role ≠ .rollback) (free : (s.isKeyless || s.isDecisive) = false)
    (unread : ∀ row, s.Holds row) (standing : Standing P past) :
    Explained past (Exchange.execute s) fun past' _ => Standing P past' := by
  refine mono (.execute hs standing) fun past' n answered => ?_
  obtain ⟨r, yes, rfl, -⟩ := answered
  exact standing.plain yes free unread

theorem appendEvent {kind : EventKind} {id : JobId} {worker : Option WorkerId} {details : String}
    (standing : Standing P past) :
    Explained past (appendEvent kind id worker details) fun past' _ => Standing P past' :=
  .andThen (.plain nofun rfl (fun _ => trivial) standing) fun _ _ standing => .done standing

theorem finalize {id : JobId} {attempt : Int} {ending : Ending} (standing : Standing P past) :
    Explained past (finalize id attempt ending) fun past' _ => Standing P past' := by
  refine .andThen (.plain nofun rfl (fun _ => trivial) standing) fun past' updated standing => ?_
  split
  · exact .andThen (.plain nofun rfl (fun _ => trivial) standing) fun _ _ standing => .done standing
  · exact .done standing

/-- What a statement brought is read. -/
theorem read {r : Reply} {x : Reading α} (standing : Standing True past)
    (yes : r.succeeded = true) (met : (s.isKeyless || s.isDecisive) = true → s.hits r ≠ 0)
    (reads : s.Legible r ↔ ∃ a, x = .ok a) :
    Explained (past ++ [(s, r)]) (Postgres.reading x) Clean := by
  have unread := (standing.concat yes met).congr ((and_iff_right trivial).trans reads)
  exact mono (.reading unread fun h => h) fun past' a ⟨ha, h⟩ => h.congr (iff_true_intro ⟨a, ha⟩)

/-- The first row that a statement brought is read. -/
theorem first {r : Reply} {row : Row} {rows : List Row} {x : Reading α}
    (standing : Standing True past) (yes : r.succeeded = true) (found : r.returned = row :: rows)
    (first : ∀ rows, s.wanted rows = rows.take 1) (holds : s.Holds row ↔ ∃ a, x = .ok a) :
    Explained (past ++ [(s, r)]) (Postgres.reading x) Clean :=
  .read standing yes (fun _ => Statement.hits_of_returned found)
    ((Statement.legible_first first found).trans holds)

/-- The first row that a statement brought is read, if there is one. -/
theorem firstRow {r : Reply} {read : Row → Reading α} (standing : Standing True past)
    (yes : r.succeeded = true) (free : (s.isKeyless || s.isDecisive) = false)
    (firstOnly : ∀ rows, s.wanted rows = rows.take 1)
    (holds : ∀ row, s.Holds row ↔ ∃ a, read row = .ok a) :
    Explained (past ++ [(s, r)]) (Postgres.firstRow read r.returned) Clean := by
  cases found : r.returned with
  | nil => exact .done (standing.empty yes free found)
  | cons row rows => exact .first standing yes found firstOnly ((holds row).trans map_isOk.symm)

/-- All rows that a statement brought are read. -/
theorem all {r : Reply} {read : Row → Reading α} (standing : Standing True past)
    (yes : r.succeeded = true) (free : (s.isKeyless || s.isDecisive) = false)
    (all : ∀ rows, s.wanted rows = rows) (holds : ∀ row, s.Holds row ↔ ∃ a, read row = .ok a) :
    Explained (past ++ [(s, r)]) (Postgres.reading (r.returned.mapM read)) Clean :=
  .read standing yes (fun must => absurd must (by simp [free]))
    (by simp only [Statement.Legible, all, holds, mapM_isOk])

end Explained

/-! ## Operations -/

theorem findByKey_explained (tenant key : String) (standing : Standing True past) :
    Explained past (findByKey tenant key) Clean := by
  refine .andThen (.query nofun standing) fun past' rows answered => ?_
  obtain ⟨r, yes, rfl, rfl⟩ := answered
  cases found : r.returned with
  | nil => exact .error (.absent standing rfl ⟨yes, congrArg List.length found⟩)
  | cons row rows => exact .first standing yes found (fun _ => rfl) row.shows_job

/-- An insertion ends with a job, or its last statement inserted nothing. -/
theorem insert_explained (draft : Draft) (ids : FreshIds) :
    Explained [] (insert draft ids) fun past job =>
      match job with
      | some _ => Standing True past
      | none => ∃ past' r, past = past' ++ [(.insertJob draft ids, r)] ∧ Standing True past' ∧
          r.succeeded = true ∧ r.returned = [] := by
  refine .transaction .nil fun past begun => .query nofun begun (fun _ => rfl) fun r yes => ?_
  cases found : r.returned with
  | nil => exact .abandon ⟨past, r, rfl, begun, yes, found⟩
  | cons row rows =>
    have made : Explained (past ++ [(.insertJob draft ids, r)])
        (Exchange.andThen (reading row.job) fun job =>
          Exchange.andThen (appendEvent .created job.id none Store.createdNote) fun _ =>
            done (.ok (some job)))
        fun past' (job : Option Job) => Standing True past' ∧ job.isSome = true :=
      .andThen (.first begun yes found (fun _ => rfl) row.shows_job) fun _ job standing =>
        .andThen (.appendEvent standing) fun _ _ standing => .done ⟨standing, rfl⟩
    refine .toCommit made ?_
    rintro past' (_ | job) ⟨standing, hjob⟩
    · cases hjob
    · exact ⟨standing, fun _ standing => standing⟩

theorem create_explained (draft : Draft) (ids : FreshIds) (complete : draft.isComplete = true) :
    Explained [] (create draft ids) Clean := by
  unfold create
  rw [Draft.validate_of_complete complete]
  refine .andThen (insert_explained draft.normalized ids) fun past job inserted => ?_
  cases job with
  | some job => exact .done inserted
  | none =>
    obtain ⟨past, r, rfl, begun, yes, nothing⟩ := inserted
    have missed : (Statement.insertJob draft.normalized ids).Missed r :=
      ⟨yes, congrArg List.length nothing⟩
    cases hkey : draft.normalized.idempotencyKey with
    | none => exact .error (.keyless begun (by simp [Statement.isKeyless, hkey]) missed)
    | some key =>
      -- with a key it is no failure that nothing was inserted, and the look-up goes on from there
      have standing := begun.empty (s := .insertJob draft.normalized ids) yes
        (by simp [Statement.isKeyless, Statement.isDecisive, hkey]) nothing
      exact .andThen (findByKey_explained _ _ standing) fun _ _ standing => .done standing

theorem get_explained (id : JobId) : Explained [] (get id) Clean := by
  refine .andThen (.query nofun .nil) fun past rows answered => ?_
  obtain ⟨r, yes, rfl, rfl⟩ := answered
  cases found : r.returned with
  | nil => exact .error (.absent .nil rfl ⟨yes, congrArg List.length found⟩)
  | cons row rows =>
    refine .andThen (.first .nil yes found (fun _ => rfl) row.shows_job)
      fun past job standing => ?_
    refine .andThen (.query nofun standing) fun past rows answered => ?_
    obtain ⟨r', yes', rfl, rfl⟩ := answered
    exact .andThen (.firstRow standing yes' rfl (fun _ => rfl) Row.shows_attempt)
      fun _ _ standing => .done standing

theorem list_explained (filter : Filter) (asked : filter.limit ≠ 0) :
    Explained [] (list filter) Clean := by
  unfold list
  rw [if_neg asked]
  refine .andThen (.query nofun .nil) fun past rows answered => ?_
  obtain ⟨r, yes, rfl, rfl⟩ := answered
  exact .all .nil yes rfl (fun _ => rfl) Row.shows_job

theorem listEvents_explained (id : JobId) (limit : Nat) (asked : limit ≠ 0) :
    Explained [] (listEvents id limit) Clean := by
  unfold listEvents
  rw [if_neg asked]
  refine .andThen (.query nofun .nil) fun past rows answered => ?_
  obtain ⟨r, yes, rfl, rfl⟩ := answered
  exact .all .nil yes rfl (fun _ => rfl) Row.shows_event

theorem listWorkers_explained : Explained [] listWorkers Clean := by
  refine .andThen (.query nofun .nil) fun past rows answered => ?_
  obtain ⟨r, yes, rfl, rfl⟩ := answered
  exact .all .nil yes rfl (fun _ => rfl) Row.shows_worker

theorem tally_explained : Explained [] tally Clean := by
  refine .andThen (.query nofun .nil) fun past rows answered => ?_
  obtain ⟨r, yes, rfl, rfl⟩ := answered
  refine .read .nil yes nofun ?_
  rw [map_isOk, mapM_isOk]
  exact forall₂_congr fun row _ => row.shows_count

theorem start_explained (id : JobId) (worker : WorkerId) :
    Explained [] (start id worker) Clean := by
  refine .transaction .nil fun past begun => .query nofun begun (fun _ => rfl) fun r yes => ?_
  cases found : r.returned with
  | nil => exact .abandon (begun.empty yes rfl found)
  | cons row rows =>
    exact .toCommit_clean <| .andThen (.first begun yes found (fun _ => rfl) row.shows_job)
      fun _ job standing => .andThen (.plain nofun rfl (fun _ => trivial) standing)
        fun _ _ standing => .andThen (.appendEvent standing) fun _ _ standing => .done standing

/-- The end of a running attempt, whichever of the two it is. -/
theorem settle_explained {guard : Statement} {id : JobId} {attempt : Int} {worker : WorkerId}
    {ending : Ending} {kind : EventKind} {note : String} (hs : guard.role ≠ .rollback)
    (decisive : guard.isDecisive = true) (counts : ∀ r, guard.hits r = r.count)
    (unread : ∀ row, guard.Holds row) :
    Explained [] (settle guard id attempt worker ending kind note) Clean := by
  refine .transaction .nil fun past begun => .toCommit_clean ?_
  refine .andThen (.execute hs begun) fun past' matched answered => ?_
  obtain ⟨r, yes, rfl, rfl⟩ := answered
  split
  · rename_i none
    exact .error (.absent begun decisive ⟨yes, (counts r).trans none⟩)
  · rename_i found
    have standing := (begun.concat (s := guard) yes fun _ => counts r ▸ found).congr
      (and_iff_left fun row _ => unread row)
    exact .andThen (.finalize standing) fun _ _ standing => .appendEvent standing

/-- The change of a job that must be in a given state, if what follows it is clean. -/
theorem change_explained {guard : Statement} {id : JobId} {state : String}
    {rest : Job → Attempted Unit} (hs : guard.role ≠ .rollback)
    (decisive : guard.isDecisive = true) (returns : ∀ r, guard.hits r = r.returned.length)
    (first : ∀ rows, guard.wanted rows = rows.take 1)
    (holds : ∀ row, guard.Holds row ↔ ∃ j, row.job = .ok j)
    (follows : ∀ {past} job, Standing True past → Explained past (rest job) Clean) :
    Explained [] (change guard id state rest) Clean := by
  refine .transaction .nil fun past begun => .toCommit_clean ?_
  refine .andThen (.query hs begun) fun past' rows answered => ?_
  obtain ⟨r, yes, rfl, rfl⟩ := answered
  cases found : r.returned with
  | nil =>
    exact .error (.absent begun decisive ⟨yes, (returns r).trans (congrArg List.length found)⟩)
  | cons row rows =>
    exact .andThen (.first begun yes found first (holds row)) fun _ job standing =>
      .andThen (follows job standing) fun _ _ standing => .done standing

theorem succeed_explained (id : JobId) (attempt : Int) (worker : WorkerId) (usage : Usage) :
    Explained [] (succeed id attempt worker usage) Clean :=
  settle_explained nofun rfl (fun _ => rfl) fun _ => trivial

theorem fail_explained (id : JobId) (attempt : Int) (worker : WorkerId) (code : FailureCode)
    (message : String) : Explained [] (fail id attempt worker code message) Clean :=
  settle_explained nofun rfl (fun _ => rfl) fun _ => trivial

theorem cancel_explained (id : JobId) (reason : String) :
    Explained [] (cancel id reason) Clean :=
  change_explained nofun rfl (fun _ => rfl) (fun _ => rfl) Row.shows_job fun _ standing =>
    .andThen (.plain nofun rfl (fun _ => trivial) standing) fun _ _ standing =>
      .appendEvent standing

theorem retry_explained (id : JobId) : Explained [] (retry id) Clean :=
  change_explained nofun rfl (fun _ => rfl) (fun _ => rfl) Row.shows_job fun _ standing =>
    .appendEvent standing

/-- The orphans are read one after the other, so those that are left may hold no jobs. -/
theorem requeueRows_explained (rows : List Row)
    (standing : Standing (∀ row ∈ rows, ∃ j, row.job = .ok j) past) :
    Explained past (requeueRows rows) Clean := by
  induction rows generalizing past with
  | nil => exact .done (standing.congr (by simp))
  | cons row rest ih =>
    refine .andThen (.reading standing fun read => read row List.mem_cons_self)
      fun past' job ⟨read, standing⟩ => ?_
    -- this row is read, so what there is to read is the rest
    have left := standing.congr (Q := ∀ row ∈ rest, ∃ j, row.job = .ok j) (by simp [read])
    exact .andThen (.finalize left) fun _ _ left => .andThen (.appendEvent left) fun _ _ left =>
      .andThen (ih left) fun _ jobs standing => .done standing

theorem requeueOrphaned_explained (staleAfter : Span) :
    Explained [] (requeueOrphaned staleAfter) Clean := by
  refine .transaction .nil fun past begun => .toCommit_clean ?_
  refine .andThen (.query nofun begun) fun past' rows answered => ?_
  obtain ⟨r, yes, rfl, rfl⟩ := answered
  -- any number of rows will do, so the search itself cannot miss
  have unread := begun.concat (s := .requeueOrphaned staleAfter Store.workerLostNote) yes
    fun must => absurd must Bool.false_ne_true
  exact requeueRows_explained _ (unread.congr
    ((and_iff_right trivial).trans (forall₂_congr fun row _ => row.shows_job)))

theorem beat_explained (worker : WorkerId) (state : WorkerState) (running : Option JobId)
    (concurrency : Int) : Explained [] (beat worker state running concurrency) Clean :=
  .andThen (.plain nofun rfl (fun _ => trivial) .nil) fun _ _ standing => .done standing

/-- A statement of which nothing is wanted but that it succeeds. -/
theorem sent_explained (hs : s.role ≠ .rollback) (free : (s.isKeyless || s.isDecisive) = false)
    (unread : ∀ row, s.Holds row) :
    Explained [] (andThen (ask s) fun _ => done (.ok ())) Clean := by
  refine .andThen (.ask hs .nil) fun past r answered => ?_
  obtain ⟨r, yes, rfl, -⟩ := answered
  exact .done (Standing.plain .nil yes free unread)

theorem ping_explained : Explained [] ping Clean :=
  sent_explained nofun rfl fun _ => trivial

theorem migrate_explained : Explained [] migrate Clean :=
  sent_explained nofun rfl fun _ => trivial

/-- What is explained is reported as it should be. -/
theorem Explained.classified {e : Attempted α} (h : Explained [] e Clean) {t : List Sending}
    {reply : Except StoreError α} (run : Runs (reported e) t reply) : Classified False t reply := by
  obtain ⟨x, hx, rfl⟩ := runs_reported run
  cases x with
  | ok a =>
    have clean : Standing True (heard t) := (h hx).1 a rfl
    exact .of_steady clean.steady nofun (iff_of_false nofun (not_not.2 (clean.legible.2 trivial)))
  | error f => exact .of_explains ((h hx).2 f rfl)

end Exchange

open Exchange

/-- Input that is rejected is not sent on, and is reported as bad. -/
theorem Classified.of_rejected {α : Type} {t : List Sending} {reply : Except StoreError α}
    {detail : String} (run : Runs (reported (absent (.validation detail))) t reply) :
    Classified True t reply := by
  obtain ⟨x, hx, rfl⟩ := runs_reported run
  obtain ⟨rfl, rfl⟩ := runs_done.1 hx
  exact ⟨by simp [AllSucceeded], fun _ => rfl, by simp [Except.mapError, Failure.toStore],
    by simp [Except.mapError, Failure.toStore], by simp [Except.mapError, Failure.toStore],
    by simp [Except.mapError, Failure.toStore]⟩

theorem Classified.congr {α : Type} {P Q : Prop} {t : List Sending} {reply : Except StoreError α}
    (h : Classified P t reply) (hPQ : P ↔ Q) : Classified Q t reply :=
  propext hPQ ▸ h

/-- Every error of an operation is of the kind that its cause asks for. -/
theorem classified_runs {ids : FreshIds} {c : StoreCall} {t : List Sending} {reply : c.Reply}
    (run : Runs (exchange ids c) t reply) : Classified (Rejected c) t reply := by
  cases c with
  | create draft =>
    by_cases complete : draft.isComplete = true
    · exact ((create_explained draft ids complete).classified run).congr
        (by simp [Rejected, complete])
    · rw [Bool.not_eq_true] at complete
      rw [exchange, create, Draft.validate_of_incomplete complete] at run
      exact (Classified.of_rejected run).congr (by simp [Rejected, complete])
  | list filter =>
    by_cases none : filter.limit = 0
    · rw [exchange, list, if_pos none] at run
      exact (Classified.of_rejected run).congr (by simp [Rejected, none])
    · exact ((list_explained filter none).classified run).congr (by simp [Rejected, none])
  | listEvents id limit =>
    by_cases none : limit = 0
    · rw [exchange, listEvents, if_pos none] at run
      exact (Classified.of_rejected run).congr (by simp [Rejected, none])
    · exact ((listEvents_explained id limit none).classified run).congr (by simp [Rejected, none])
  | get id => exact (get_explained id).classified run
  | start id worker => exact (start_explained id worker).classified run
  | succeed id attempt worker usage =>
    exact (succeed_explained id attempt worker usage).classified run
  | fail id attempt worker code message =>
    exact (fail_explained id attempt worker code message).classified run
  | cancel id reason => exact (cancel_explained id reason).classified run
  | retry id => exact (retry_explained id).classified run
  | beat worker state running concurrency =>
    exact (beat_explained worker state running concurrency).classified run
  | listWorkers => exact listWorkers_explained.classified run
  | tally => exact tally_explained.classified run
  | requeueOrphaned staleAfter => exact (requeueOrphaned_explained staleAfter).classified run
  | ping => exact ping_explained.classified run

/-! ## The runner -/

/-- A commit is tried again if and only if tries are left and the failure is not a final one. -/
theorem pausing_iff (config : WorkerConfig) (job : Job) (result : Except ProviderError Usage)
    (round : Nat) (answer : Except StoreError Unit) :
    Poll.afterCommit config job result round answer = .pausing job result round ↔
      round < config.commitTries ∧ ∃ e, answer = .error e ∧ (∀ detail, e ≠ .conflict detail) ∧
        (∀ detail, e ≠ .validation detail) ∧ ∀ detail, e ≠ .notFound detail := by
  have outage : IsOutage answer ↔ ∃ e, answer = .error e ∧ (∀ detail, e ≠ .conflict detail) ∧
      (∀ detail, e ≠ .validation detail) ∧ ∀ detail, e ≠ .notFound detail := by
    rcases answer with (_ | _ | _ | _) | _ <;> simp [IsOutage]
  rw [← outage]
  rcases Poll.afterCommit_eq config job result round answer with ⟨out, again, h⟩ | ⟨final, h⟩
  · simp [h, out, again]
  · rw [h]
    refine iff_of_false nofun fun ⟨again, out⟩ => ?_
    rcases final with last | reached
    · omega
    · exact reached out

/-- Whatever the database replies, each kind of error has the cause it stands for, a row is read if
and only if it shows a row of its table, and then as what that row holds, and a commit is tried
again if and only if tries are left and its failure is not a final one. -/
theorem classified_scripted (ids : FreshIds) (replies : Nat → Reply) :
    (∀ c : StoreCall, Classified (Rejected c) ((exchange ids c).run (scripted replies) []).2
      ((exchange ids c).run (scripted replies) []).1) ∧
    Classified False ((reported migrate).run (scripted replies) []).2
      ((reported migrate).run (scripted replies) []).1 ∧
    (∀ row : Row, row.Understood) ∧
    ∀ (config : WorkerConfig) (job : Job) (result : Except ProviderError Usage) (round : Nat),
      let call := Poll.commitCall config.worker job result
      let answer := Poll.commitReply config.worker job result
        ((exchange ids call).run (scripted replies) []).1
      Poll.afterCommit config job result round answer = .pausing job result round ↔
        round < config.commitTries ∧ ∃ e, answer = .error e ∧ (∀ detail, e ≠ .conflict detail) ∧
          (∀ detail, e ≠ .validation detail) ∧ ∀ detail, e ≠ .notFound detail :=
  ⟨fun _ => classified_runs (runs_scripted replies _),
    migrate_explained.classified (runs_scripted replies _), Row.understood,
    fun config job result round => pausing_iff config job result round _⟩

/-! ## What nobody looks at -/

/-- A row with a status that is not known. -/
def strangeRow : Row :=
  startedRow.wire.map fun (name, cell) =>
    if name = "status" then (name, ⟨.text, some (.text "lost")⟩) else (name, cell)

/-- The job is returned with a second row, and it has no attempt. -/
def strangely : Nat → Reply
  | 0 => .rows [startedRow.wire, strangeRow]
  | _ => .rows []

/-- A look-up does not see a second row that cannot be read, and a search for orphans that matches
none is no failure. -/
theorem answers_past_strangeRow :
    (∃ x ∈ heard ((exchange default (.get startedRow.id)).run (scripted strangely) []).2,
      ∃ row ∈ x.2.returned, ¬ x.1.Holds row) ∧
    ((exchange default (.get startedRow.id)).run (scripted strangely) []).1 =
      .ok (startedRow.job, none) ∧
    ((exchange default (.requeueOrphaned .zero)).run (scripted fun _ => .rows []) []).1 =
      .ok [] := by
  have hheard : heard ((exchange default (.get startedRow.id)).run (scripted strangely) []).2 =
      [(.selectJob startedRow.id, .rows [startedRow.wire, strangeRow]),
        (.selectLatestAttempt startedRow.id, .rows [])] := rfl
  have hstrange : strangeRow.job = .error (.unknownStatus "lost") := rfl
  refine ⟨⟨_, hheard ▸ List.mem_cons_self, strangeRow, by simp [Reply.returned], ?_⟩, rfl, rfl⟩
  intro holds
  obtain ⟨j, hj⟩ := strangeRow.shows_job.1 holds
  cases hstrange.symm.trans hj

end Dispatch.Postgres
