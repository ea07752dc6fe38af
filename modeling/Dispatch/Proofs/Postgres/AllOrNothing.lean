import Dispatch.Proofs.Postgres.Rows
import Dispatch.Proofs.Postgres.Transcript

/-!
# A write lands completely or not at all

A write of the store is a transaction: one statement that is guarded by the state the job must be
in, and what follows from it.  `allOrNothing_scripted` says, for every write and whatever the
database replies, when `COMMIT` is sent, what has been sent before it, and that the write reports
its transition exactly when `COMMIT` succeeded.  A statement that is to return one row is read for
its first row only; `commits_past_second_row` shows what that means.
-/

namespace Dispatch.Postgres

/-! ## The parts of a write -/

/-- What a statement is for within a write. -/
inductive Role where
  | opening
  | guard
  | followUp
  | commit
  | rollback
  | other
deriving DecidableEq, Repr

/-- The part that a statement has in writes. -/
def Statement.role : Statement → Role
  | begin_ => .opening
  | commit => .commit
  | rollback => .rollback
  | insertJob _ _ | startJob _ | succeedJob _ _ | failJob _ _ _ _ | cancelJob _ _ | retryJob _
  | requeueOrphaned _ _ => .guard
  | openAttempt _ _ | finalizeAttempt _ _ _ | insertMissingAttempt _ _ _ | cancelAttempt _ _ _
  | insertEvent _ _ _ _ => .followUp
  | createSchema | ping | findByKey _ _ | selectJob _ | selectLatestAttempt _ | listJobs _
  | upsertWorker _ _ _ _ | listWorkers | listEvents _ _ | countJobs => .other

/-- The guarded statement of a write. -/
def guard? (ids : FreshIds) : StoreCall → Option Statement
  | .create draft => some (.insertJob draft.normalized ids)
  | .start id _ => some (.startJob id)
  | .succeed id attempt _ _ => some (.succeedJob id attempt)
  | .fail id attempt _ code message => some (.failJob id attempt code message)
  | .cancel id reason => some (.cancelJob id reason)
  | .retry id => some (.retryJob id)
  | .requeueOrphaned staleAfter => some (.requeueOrphaned staleAfter Store.workerLostNote)
  | _ => none

theorem role_guard? {ids : FreshIds} {c : StoreCall} {guard : Statement}
    (h : guard? ids c = some guard) : guard.role = .guard := by
  cases c <;> cases h <;> rfl

/-- The guard let something through: a row came back, a row changed, and for orphans any number of
rows will do. -/
def Matched : StoreCall → Reply → Prop
  | .requeueOrphaned _, _ => True
  | .succeed _ _ _ _, g | .fail _ _ _ _ _, g => g.count ≠ 0
  | _, g => g.returned ≠ []

/-- The rows that a write reads of what its guarded statement returned. -/
def rowsRead : StoreCall → Reply → List Row
  | .requeueOrphaned _, g => g.returned
  | .succeed _ _ _ _, _ | .fail _ _ _ _ _, _ => []
  | _, g => g.returned.take 1

/-- Each of the rows holds a job. -/
def Readable (rows : List Row) : Prop := ∀ row ∈ rows, ∃ job, row.job = .ok job

/-- The transition that the answer to a write reports, if it reports one: a job that was created
and not found, or one that was started, or any success. -/
def moved? : (c : StoreCall) → c.Reply → Option c.Value
  | .create _, .ok (job, replayed) => if replayed then none else some (job, replayed)
  | .start _ _, .ok job => job.map some
  | _, .ok value => some value
  | _, .error _ => none

/-! ## Complete writes -/

/-- What is sent to finalize an attempt: the update, and the insertion if and only if the update
hit no row. -/
inductive Finalized (id : JobId) (attempt : Int) (ending : Ending) : List Sending → Prop
  | updated {r : Reply} (hit : r.count ≠ 0) :
    Finalized id attempt ending [(.finalizeAttempt id attempt ending, r)]
  | inserted {r r' : Reply} (missed : r.count = 0) :
    Finalized id attempt ending
      [(.finalizeAttempt id attempt ending, r), (.insertMissingAttempt id attempt ending, r')]

/-- What is sent about orphans: for each row the attempt's end and one event. -/
inductive Requeued : List Row → List Sending → List Job → Prop
  | nil : Requeued [] [] []
  | cons {row : Row} {rows : List Row} {job : Job} {jobs : List Job}
      {closing later : List Sending} {r : Reply} (read : row.job = .ok job)
      (closed : Finalized job.id job.attempt (.failed .workerLost Store.workerLostNote) closing)
      (rest : Requeued rows later jobs) :
    Requeued (row :: rows)
      (closing ++ (.insertEvent .requeued job.id none Store.workerLostNote, r) :: later)
      (job :: jobs)

/-- What is sent between `BEGIN` and `COMMIT`, and the value it makes. -/
inductive Whole (ids : FreshIds) : (c : StoreCall) → List Sending → c.Value → Prop
  | created {draft : Draft} {g r : Reply} {row : Row} {others : List Row} {job : Job}
      (found : g.returned = row :: others) (read : row.job = .ok job) :
    Whole ids (.create draft)
      [(.insertJob draft.normalized ids, g),
        (.insertEvent .created job.id none Store.createdNote, r)] (job, false)
  | started {id : JobId} {worker : WorkerId} {g r r' : Reply} {row : Row} {others : List Row}
      {job : Job} (found : g.returned = row :: others) (read : row.job = .ok job) :
    Whole ids (.start id worker)
      [(.startJob id, g), (.openAttempt id job.attempt, r),
        (.insertEvent .started id (some worker) Store.startedNote, r')]
      (some job)
  | succeeded {id : JobId} {attempt : Int} {worker : WorkerId} {usage : Usage} {g r : Reply}
      {closing : List Sending} (matched : g.count ≠ 0)
      (closed : Finalized id attempt (.succeeded usage) closing) :
    Whole ids (.succeed id attempt worker usage)
      ((.succeedJob id attempt, g) ::
        (closing ++ [(.insertEvent .succeeded id (some worker) Store.succeededNote, r)]))
      ()
  | failed {id : JobId} {attempt : Int} {worker : WorkerId} {code : FailureCode}
      {message : String} {g r : Reply} {closing : List Sending} (matched : g.count ≠ 0)
      (closed : Finalized id attempt (.failed code message) closing) :
    Whole ids (.fail id attempt worker code message)
      ((.failJob id attempt code message, g) ::
        (closing ++ [(.insertEvent .failed id (some worker) (Store.failedNote code), r)]))
      ()
  | cancelled {id : JobId} {reason : String} {g r r' : Reply} {row : Row} {others : List Row}
      {job : Job} (found : g.returned = row :: others) (read : row.job = .ok job) :
    Whole ids (.cancel id reason)
      [(.cancelJob id reason, g), (.cancelAttempt id job.attempt reason, r),
        (.insertEvent .cancelled id none reason, r')]
      job
  | retried {id : JobId} {g r : Reply} {row : Row} {others : List Row} {job : Job}
      (found : g.returned = row :: others) (read : row.job = .ok job) :
    Whole ids (.retry id)
      [(.retryJob id, g), (.insertEvent .retryScheduled id none Store.retriedNote, r)]
      job
  | requeued {staleAfter : Span} {g : Reply} {groups : List Sending} {jobs : List Job}
      (each : Requeued g.returned groups jobs) :
    Whole ids (.requeueOrphaned staleAfter)
      ((.requeueOrphaned staleAfter Store.workerLostNote, g) :: groups) jobs

/-- Nothing went wrong in a write: it was begun, its guard succeeded and let something through,
the rows that count can be read, and what followed succeeded. -/
structure Sound (c : StoreCall) (guard : Statement) (rows : Reply → List Row)
    (sent : List Sending) : Prop where
  begun : ∃ b, (.begin_, b) ∈ sent ∧ b.succeeded = true
  guarded : ∃ g, (guard, g) ∈ sent ∧ g.succeeded = true ∧ Matched c g ∧ Readable (rows g)
  followed : ∀ x ∈ sent, x.1.role = .followUp → x.2.succeeded = true

/-- What is true of everything that a write sent and of its answer. -/
structure AllOrNothing (ids : FreshIds) (c : StoreCall) (guard : Statement)
    (sent : List Sending) (reply : c.Reply) : Prop where
  /-- `COMMIT` is sent exactly when nothing went wrong. -/
  committed : (∃ r, (.commit, r) ∈ sent) ↔ Sound c guard (rowsRead c) sent
  /-- Before `COMMIT` everything was sent that belongs to the write, and nothing else. -/
  between : ∀ r, (.commit, r) ∈ sent → ∃ b body left value,
    sent = (.begin_, b) :: (body ++ (.commit, r) :: left) ∧ Whole ids c body value ∧
      (r.succeeded = true → moved? c reply = some value)
  /-- The transition is reported exactly when `COMMIT` succeeded. -/
  reported : (moved? c reply).isSome = true ↔ ∃ r, (.commit, r) ∈ sent ∧ r.succeeded = true
  /-- What was begun and not committed is rolled back, unless the connection is gone. -/
  undone : ∀ b, (.begin_, b) ∈ sent → b.succeeded = true →
    (∃ r, (.commit, r) ∈ sent ∧ r.succeeded = true) ∨ (∃ r, (.rollback, r) ∈ sent) ∨ Lost sent

namespace Exchange

variable {α β : Type}

/-! ## What follows the guard -/

/-- A record of what follows a guard: it writes attempts and events, it succeeded exactly when
`P` holds and everything succeeded, and a failure is final only if the connection was lost. -/
structure Follows (P : Prop) (t : List Sending) (x : Except Failure α) : Prop where
  writes : ∀ y ∈ t, y.1.role = .followUp
  succeeds : (∃ a, x = .ok a) ↔ P ∧ AllSucceeded t
  lost : ∀ f, x = .error f → f.isFinal = true → Lost t

/-- An exchange that only follows a guard. -/
def FollowUp (e : Attempted α) (P : Prop) : Prop := ∀ ⦃t x⦄, Runs e t x → Follows P t x

theorem FollowUp.done (a : α) : FollowUp (done (.ok a)) True := by
  intro t x h
  obtain ⟨rfl, rfl⟩ := runs_done.1 h
  exact ⟨by simp, by simp [AllSucceeded], by simp⟩

theorem FollowUp.reading (r : Reading α) : FollowUp (reading r) (∃ a, r = .ok a) := by
  intro t x h
  obtain ⟨rfl, rfl⟩ := runs_done.1 h
  cases r with
  | error fault =>
    have hmap : (Except.error fault : Reading α).mapError Failure.row = .error (.row fault) := rfl
    refine ⟨by simp, by simp [hmap], fun f hf final => ?_⟩
    cases hf
    cases final
  | ok a =>
    have hmap : (Except.ok a : Reading α).mapError Failure.row = .ok a := rfl
    exact ⟨by simp, by simp [hmap, AllSucceeded], by simp [hmap]⟩

theorem FollowUp.execute {s : Statement} (h : s.role = .followUp) :
    FollowUp (execute s) True := by
  intro t x hrun
  obtain ⟨r, rfl, ⟨yes, rfl⟩ | ⟨f, no, rfl, final⟩⟩ := runs_execute hrun
  · exact ⟨by simpa using h, by simpa [AllSucceeded] using yes, by simp⟩
  · refine ⟨by simpa using h, by simp [AllSucceeded, no], fun g hg hfinal => ?_⟩
    cases hg
    exact ⟨_, List.mem_singleton_self _, final ▸ hfinal⟩

theorem FollowUp.andThen {e : Attempted α} {k : α → Attempted β} {P Q : Prop}
    (he : FollowUp e P) (hk : ∀ a, FollowUp (k a) Q) : FollowUp (andThen e k) (P ∧ Q) := by
  intro t x h
  rcases runs_andThen.1 h with ⟨t₁, a, t₂, rfl, h₁, h₂⟩ | ⟨f, h₁, rfl⟩
  · have first := he h₁
    have second := hk a h₂
    obtain ⟨hP, hall⟩ := first.succeeds.1 ⟨a, rfl⟩
    refine ⟨List.forall_mem_append.2 ⟨first.writes, second.writes⟩, ?_, fun f hf final => ?_⟩
    · rw [second.succeeds, allSucceeded_append]
      simp [hP, hall]
    · exact (second.lost f hf final).append_right t₁
  · have first := he h₁
    refine ⟨first.writes, ⟨by simp, ?_⟩, fun g hg final => ?_⟩
    · rintro ⟨⟨hP, -⟩, hall⟩
      obtain ⟨a, ha⟩ := first.succeeds.2 ⟨hP, hall⟩
      cases ha
    · cases hg
      exact first.lost f rfl final

theorem FollowUp.congr {e : Attempted α} {P Q : Prop} (h : FollowUp e P) (hPQ : P ↔ Q) :
    FollowUp e Q := propext hPQ ▸ h

theorem FollowUp.appendEvent (kind : EventKind) (id : JobId) (worker : Option WorkerId)
    (details : String) : FollowUp (appendEvent kind id worker details) True :=
  .congr (.andThen (.execute rfl) fun _ => .done ()) and_self_iff

theorem FollowUp.finalize (id : JobId) (attempt : Int) (ending : Ending) :
    FollowUp (finalize id attempt ending) True := by
  refine .congr (.andThen (.execute rfl) fun updated => ?_) and_self_iff
  split
  · exact .congr (.andThen (.execute rfl) fun _ => .done ()) and_self_iff
  · exact .done ()

theorem FollowUp.requeueRows (rows : List Row) : FollowUp (requeueRows rows) (Readable rows) := by
  induction rows with
  | nil => exact .congr (.done []) (by simp [Readable])
  | cons row rest ih =>
    refine .congr (.andThen (.reading row.job) fun job => .andThen (.finalize _ _ _) fun _ =>
      .andThen (.appendEvent _ _ _ _) fun _ => .andThen ih fun jobs => .done _) ?_
    simp [Readable]

/-! ## Successful parts -/

theorem runs_reading_ok {r : Reading α} {k : α → Attempted β} {t : List Sending} {b : β}
    (h : Runs (andThen (reading r) k) t (.ok b)) : ∃ a, r = .ok a ∧ Runs (k a) t (.ok b) := by
  obtain ⟨_, a, t, rfl, hread, hrest⟩ := runs_andThen_ok.1 h
  obtain ⟨rfl, hr⟩ := runs_done.1 hread
  cases r with
  | error fault => cases hr
  | ok a' =>
    cases hr
    exact ⟨a, rfl, hrest⟩

theorem runs_execute_ok {s : Statement} {k : Nat → Attempted β} {t : List Sending} {b : β}
    (h : Runs (andThen (execute s) k) t (.ok b)) :
    ∃ r t', t = (s, r) :: t' ∧ Runs (k r.count) t' (.ok b) := by
  obtain ⟨_, n, t', rfl, hexecute, hrest⟩ := runs_andThen_ok.1 h
  obtain ⟨r, rfl, ⟨-, hn⟩ | ⟨f, -, hn, -⟩⟩ := runs_execute hexecute
  · cases hn
    exact ⟨r, t', rfl, hrest⟩
  · cases hn

theorem runs_appendEvent_ok {kind : EventKind} {id : JobId} {worker : Option WorkerId}
    {details : String} {k : Unit → Attempted β} {t : List Sending} {b : β}
    (h : Runs (andThen (appendEvent kind id worker details) k) t (.ok b)) :
    ∃ r t', t = (.insertEvent kind id worker details, r) :: t' ∧ Runs (k ()) t' (.ok b) := by
  obtain ⟨_, _, t', rfl, hevent, hrest⟩ := runs_andThen_ok.1 h
  obtain ⟨r, _, rfl, hdone⟩ := runs_execute_ok hevent
  obtain ⟨rfl, -⟩ := runs_done.1 hdone
  exact ⟨r, t', rfl, hrest⟩

theorem runs_finalize_ok {id : JobId} {attempt : Int} {ending : Ending} {k : Unit → Attempted β}
    {t : List Sending} {b : β} (h : Runs (andThen (finalize id attempt ending) k) t (.ok b)) :
    ∃ closing t', t = closing ++ t' ∧ Finalized id attempt ending closing ∧
      Runs (k ()) t' (.ok b) := by
  obtain ⟨_, _, t', rfl, hfinalize, hrest⟩ := runs_andThen_ok.1 h
  refine ⟨_, t', rfl, ?_, hrest⟩
  obtain ⟨r, _, rfl, hthen⟩ := runs_execute_ok hfinalize
  split at hthen
  · rename_i missed
    obtain ⟨r', _, rfl, hdone⟩ := runs_execute_ok hthen
    obtain ⟨rfl, -⟩ := runs_done.1 hdone
    exact .inserted missed
  · rename_i hit
    obtain ⟨rfl, -⟩ := runs_done.1 hthen
    exact .updated hit

theorem requeued_of_runs {rows : List Row} {t : List Sending} {jobs : List Job}
    (h : Runs (requeueRows rows) t (.ok jobs)) : Requeued rows t jobs := by
  induction rows generalizing t jobs with
  | nil =>
    obtain ⟨rfl, hjobs⟩ := runs_done.1 h
    cases hjobs
    exact .nil
  | cons row rest ih =>
    obtain ⟨job, read, hgroup⟩ := runs_reading_ok h
    obtain ⟨closing, _, rfl, closed, hevent⟩ := runs_finalize_ok hgroup
    obtain ⟨r, _, rfl, htail⟩ := runs_appendEvent_ok hevent
    obtain ⟨later, more, _, rfl, hlater, hdone⟩ := runs_andThen_ok.1 htail
    obtain ⟨rfl, hjobs⟩ := runs_done.1 hdone
    cases hjobs
    rw [List.append_nil]
    exact .cons read closed (ih hlater)

/-! ## The body of a write -/

/-- A record of a write's body: the guarded statement failed, or it let nothing through, or the
rest followed from what it returned.  `value` is the transition in the result. -/
inductive Led (ids : FreshIds) (c : StoreCall) (guard : Statement) (value : α → Option c.Value) :
    List Sending → Verdict α → Prop
  | refused {g : Reply} {f : Failure} (no : g.succeeded = false)
      (final : f.isFinal = g.isLost) : Led ids c guard value [(guard, g)] (.fail f)
  | idle {g : Reply} {a : α} (idle : ¬ Matched c g) (none : value a = none) :
    Led ids c guard value [(guard, g)] (.abandon a)
  | barred {g : Reply} {e : StoreError} (idle : ¬ Matched c g) :
    Led ids c guard value [(guard, g)] (.fail (.store e))
  | matched {g : Reply} {e : Attempted α} {t : List Sending} {v : Verdict α}
      (yes : g.succeeded = true) (matched : Matched c g)
      (follows : FollowUp e (Readable (rowsRead c g)))
      (whole : ∀ u a, Runs e u (.ok a) → ∃ made, value a = some made ∧
        Whole ids c ((guard, g) :: u) made)
      (ran : Runs (toCommit e) t v) : Led ids c guard value ((guard, g) :: t) v

/-- What a record of a write's body is like. -/
structure Body (ids : FreshIds) (c : StoreCall) (guard : Statement) (value : α → Option c.Value)
    (g : Reply) (follow : List Sending) (v : Verdict α) : Prop where
  writes : ∀ y ∈ follow, y.1.role = .followUp
  commits : (∃ a, v = .commit a) ↔
    g.succeeded = true ∧ Matched c g ∧ Readable (rowsRead c g) ∧ AllSucceeded follow
  whole : ∀ a, v = .commit a → ∃ made, value a = some made ∧
    Whole ids c ((guard, g) :: follow) made
  abandons : ∀ a, v = .abandon a → value a = none
  lost : ∀ f, v = .fail f → f.isFinal = true → Lost ((guard, g) :: follow)

section Bodies

variable {ids : FreshIds} {c : StoreCall} {guard : Statement} {value : α → Option c.Value}

theorem Led.body {t : List Sending} {v : Verdict α} (led : Led ids c guard value t v) :
    ∃ g follow, t = (guard, g) :: follow ∧ Body ids c guard value g follow v := by
  cases led with
  | @refused g f no final =>
    refine ⟨_, [], rfl, by simp, by simp [no], by simp, by simp, fun f' hf hfinal => ?_⟩
    cases hf
    exact ⟨_, List.mem_cons_self, final ▸ hfinal⟩
  | idle idle none =>
    refine ⟨_, [], rfl, by simp, by simp [idle], by simp, fun a ha => ?_, by simp⟩
    cases ha
    exact none
  | barred idle =>
    refine ⟨_, [], rfl, by simp, by simp [idle], by simp, by simp, fun f hf hfinal => ?_⟩
    cases hf
    cases hfinal
  | matched yes matched follows whole ran =>
    refine ⟨_, _, rfl, ?_⟩
    rcases runs_toCommit ran with ⟨a, hrun, rfl⟩ | ⟨f, hrun, rfl⟩
    · have record := follows hrun
      obtain ⟨readable, all⟩ := record.succeeds.1 ⟨a, rfl⟩
      refine ⟨record.writes, by simp [yes, matched, readable, all], fun a' ha => ?_, by simp,
        by simp⟩
      cases ha
      exact whole _ a hrun
    · have record := follows hrun
      refine ⟨record.writes, ?_, by simp, by simp, fun f' hf final => ?_⟩
      · have hnot := record.succeeds
        simp only [reduceCtorEq, exists_false, false_iff] at hnot
        simpa [yes, matched] using hnot
      · cases hf
        exact (record.lost f rfl final).append_right [(guard, _)]

/-! ## The record of a write -/

variable {b g : Reply} {follow tail : List Sending}

/-- The statements after the body of a write. -/
def IsTail (tail : List Sending) : Prop :=
  ∀ y ∈ tail, y.1.role = .commit ∨ y.1.role = .rollback ∨ y.1.role = .other

theorem opening_mem (hguard : guard.role = .guard) (writes : ∀ y ∈ follow, y.1.role = .followUp)
    (htail : IsTail tail) {b' : Reply} :
    (.begin_, b') ∈ (.begin_, b) :: ((guard, g) :: follow ++ tail) ↔ b' = b := by
  have hne : Statement.begin_ ≠ guard := fun he => by cases he ▸ hguard
  have hfollow : (Statement.begin_, b') ∉ follow := fun hm => by cases writes _ hm
  have hafter : (Statement.begin_, b') ∉ tail := fun hm => by
    rcases htail _ hm with h | h | h <;> cases h
  simp [hne, hfollow, hafter]

theorem commit_mem (hguard : guard.role = .guard) (writes : ∀ y ∈ follow, y.1.role = .followUp)
    {r : Reply} :
    (.commit, r) ∈ (.begin_, b) :: ((guard, g) :: follow ++ tail) ↔ (.commit, r) ∈ tail := by
  have hne : Statement.commit ≠ guard := fun he => by cases he ▸ hguard
  have hfollow : (Statement.commit, r) ∉ follow := fun hm => by cases writes _ hm
  simp [hne, hfollow]

theorem guard_mem (hguard : guard.role = .guard) (writes : ∀ y ∈ follow, y.1.role = .followUp)
    (htail : IsTail tail) {g' : Reply} :
    (guard, g') ∈ (.begin_, b) :: ((guard, g) :: follow ++ tail) ↔ g' = g := by
  have hne : guard ≠ Statement.begin_ := fun he => by cases he ▸ hguard
  have hfollow : (guard, g') ∉ follow := fun hm => by cases hguard.symm.trans (writes _ hm)
  have hafter : (guard, g') ∉ tail := fun hm => by
    rcases htail _ hm with h | h | h <;> cases hguard.symm.trans h
  simp [hne, hfollow, hafter]

theorem followUp_mem (hguard : guard.role = .guard) (htail : IsTail tail) {y : Sending}
    (hy : y.1.role = .followUp) :
    y ∈ (.begin_, b) :: ((guard, g) :: follow ++ tail) ↔ y ∈ follow := by
  have hne : y ≠ (Statement.begin_, b) := fun he => by cases he ▸ hy
  have hne' : y ≠ (guard, g) := fun he => by cases hguard.symm.trans (he ▸ hy)
  have hafter : y ∉ tail := fun hm => by rcases htail _ hm with h | h | h <;> cases hy.symm.trans h
  simp [hne, hne', hafter]

theorem sound_iff (hguard : guard.role = .guard) (writes : ∀ y ∈ follow, y.1.role = .followUp)
    (htail : IsTail tail) {rows : Reply → List Row} :
    Sound c guard rows ((.begin_, b) :: ((guard, g) :: follow ++ tail)) ↔
      b.succeeded = true ∧ g.succeeded = true ∧ Matched c g ∧ Readable (rows g) ∧
        AllSucceeded follow := by
  constructor
  · rintro ⟨⟨b', hb, begun⟩, ⟨g', hg, yes, matched, readable⟩, followed⟩
    cases (opening_mem hguard writes htail).1 hb
    cases (guard_mem hguard writes htail).1 hg
    exact ⟨begun, yes, matched, readable, fun y hy =>
      followed y ((followUp_mem hguard htail (writes y hy)).2 hy) (writes y hy)⟩
  · rintro ⟨begun, yes, matched, readable, all⟩
    exact ⟨⟨b, (opening_mem hguard writes htail).2 rfl, begun⟩,
      ⟨g, (guard_mem hguard writes htail).2 rfl, yes, matched, readable⟩,
      fun y hy role => all y ((followUp_mem hguard htail role).1 hy)⟩

/-- A write whose body wants to commit sends `COMMIT`, and then it depends on that. -/
theorem allOrNothing_held (hguard : guard.role = .guard) (begun : b.succeeded = true) {a : α}
    (body : Body ids c guard value g follow (.commit a)) {r : Reply} {rest : List Sending}
    (hrest : ∀ y ∈ rest, y.1.role = .rollback ∨ y.1.role = .other) {reply : c.Reply}
    (hreply : moved? c reply = if r.succeeded then value a else none)
    (leaving : r.succeeded = true ∨ (∃ r', (.rollback, r') ∈ rest) ∨ r.isLost = true) :
    AllOrNothing ids c guard ((.begin_, b) :: ((guard, g) :: follow ++ (.commit, r) :: rest))
      reply := by
  have htail : IsTail ((.commit, r) :: rest) :=
    List.forall_mem_cons.2 ⟨.inl rfl, fun y hy => .inr (hrest y hy)⟩
  have hcommit : ∀ {r'}, (.commit, r') ∈ (Statement.commit, r) :: rest ↔ r' = r := by
    intro r'
    have : (Statement.commit, r') ∉ rest := fun hm => by rcases hrest _ hm with h | h <;> cases h
    simp [this]
  obtain ⟨made, hmade, hwhole⟩ := body.whole a rfl
  refine ⟨?_, fun r' hr => ?_, ?_, fun b' hb _ => ?_⟩
  · simp only [commit_mem hguard body.writes, hcommit, exists_eq, true_iff]
    exact (sound_iff hguard body.writes htail).2 ⟨begun, body.commits.1 ⟨a, rfl⟩⟩
  · rw [commit_mem hguard body.writes, hcommit] at hr
    subst hr
    exact ⟨b, _, rest, made, rfl, hwhole, fun yes => by simp [hreply, yes, hmade]⟩
  · simp only [commit_mem hguard body.writes, hcommit, exists_eq_left, hreply]
    cases r.succeeded <;> simp [hmade]
  · rcases leaving with yes | ⟨r', hr'⟩ | lost
    · exact .inl ⟨r, (commit_mem hguard body.writes).2 (hcommit.2 rfl), yes⟩
    · exact .inr (.inl ⟨r', by simp [hr']⟩)
    · exact .inr (.inr ⟨(.commit, r), by simp, lost⟩)

/-- A write whose body does not want to commit sends no `COMMIT` and reports no transition. -/
theorem allOrNothing_dropped (hguard : guard.role = .guard) {v : Verdict α}
    (body : Body ids c guard value g follow v) (dropped : ∀ a, v ≠ .commit a)
    {rest : List Sending} (hrest : ∀ y ∈ rest, y.1.role = .rollback ∨ y.1.role = .other)
    {reply : c.Reply} (hreply : moved? c reply = none)
    (leaving : (∃ r, (.rollback, r) ∈ rest) ∨ Lost ((guard, g) :: follow)) :
    AllOrNothing ids c guard ((.begin_, b) :: ((guard, g) :: follow ++ rest)) reply := by
  have htail : IsTail rest := fun y hy => .inr (hrest y hy)
  have hcommit : ∀ {r}, (Statement.commit, r) ∉ rest := fun hm => by
    rcases hrest _ hm with h | h <;> cases h
  refine ⟨?_, fun r hr => ?_, ?_, fun b' _ _ => ?_⟩
  · simp only [commit_mem hguard body.writes, hcommit, exists_false, false_iff]
    intro sound
    obtain ⟨a, ha⟩ := body.commits.2 ((sound_iff hguard body.writes htail).1 sound).2
    exact dropped a ha
  · exact absurd ((commit_mem hguard body.writes).1 hr) hcommit
  · simp only [hreply, commit_mem hguard body.writes, hcommit]
    simp
  · rcases leaving with ⟨r, hr⟩ | lost
    · exact .inr (.inl ⟨r, by simp [hr]⟩)
    · exact .inr (.inr ((lost.append_left rest).append_right [(.begin_, b)]))

theorem Left.rollback_or_other {gone : Bool} {left : List Sending} (h : Left gone left) :
    ∀ y ∈ left, y.1.role = .rollback ∨ y.1.role = .other := by
  rcases h with ⟨-, rfl⟩ | ⟨-, r, rfl⟩ <;> simp [Statement.role]

/-- Whichever way the transaction of a write goes, it is all or nothing.  Statements that have
nothing to do with it may come later. -/
theorem Course.allOrNothing (hguard : guard? ids c = some guard) {body : Exchange (Verdict α)}
    (led : ∀ {t v}, Runs body t v → Led ids c guard value t v) {t : List Sending}
    {x : Except Failure α} (course : Course body t x) {later : List Sending}
    (others : ∀ y ∈ later, y.1.role = .other) {reply : c.Reply}
    (hreply : moved? c reply = x.toOption.bind value) :
    AllOrNothing ids c guard (t ++ later) reply := by
  have hrole := role_guard? hguard
  have hlater : ∀ {gone left}, Left gone left →
      ∀ y ∈ left ++ later, y.1.role = .rollback ∨ y.1.role = .other := fun leaving y hy =>
    (List.mem_append.1 hy).elim (leaving.rollback_or_other y) fun h => .inr (others y h)
  cases course with
  | @unbegun b f no =>
    have hno : ∀ s r, s.role ≠ .other → (s, r) ∈ [(Statement.begin_, b)] ++ later →
        s = .begin_ ∧ r = b := by
      intro s r hs hm
      rcases List.mem_append.1 hm with h | h
      · simpa using h
      · exact absurd (others _ h) hs
    have hcommit : ∀ {r}, (Statement.commit, r) ∉ [(Statement.begin_, b)] ++ later := fun hm => by
      cases (hno _ _ (by decide) hm).1
    refine ⟨?_, fun r hr => absurd hr hcommit, ?_, fun b' hb yes => ?_⟩
    · simp only [hcommit, exists_false, false_iff]
      rintro ⟨⟨b', hb, yes⟩, -, -⟩
      cases (hno _ _ (by decide) hb).2
      cases no.symm.trans yes
    · simp only [hreply, hcommit]
      simp [Except.toOption]
    · cases (hno _ _ (by decide) hb).2
      cases no.symm.trans yes
  | committed begun ran yes =>
    obtain ⟨g, follow, rfl, hbody⟩ := (led ran).body
    have := allOrNothing_held hrole begun hbody (fun y hy => .inr (others y hy))
      (hreply.trans (by simp [yes, Except.toOption])) (.inl yes)
    simpa using this
  | @uncommitted b r _ left a f begun ran no leaving =>
    obtain ⟨g, follow, rfl, hbody⟩ := (led ran).body
    have := allOrNothing_held (r := r) hrole begun hbody (hlater leaving)
      (hreply.trans (by simp [no, Except.toOption])) (by
        rcases leaving with ⟨lost, -⟩ | ⟨-, r', rfl⟩
        · exact .inr (.inr lost)
        · exact .inr (.inl ⟨r', by simp⟩))
    simpa using this
  | @failed b _ left f begun ran leaving =>
    obtain ⟨g, follow, rfl, hbody⟩ := (led ran).body
    have := allOrNothing_dropped (b := b) hrole hbody (by simp) (hlater leaving) hreply (by
        rcases leaving with ⟨final, -⟩ | ⟨-, r', rfl⟩
        · exact .inr (hbody.lost _ rfl final)
        · exact .inl ⟨r', by simp⟩)
    simpa using this
  | @abandoned b _ left a begun ran leaving =>
    obtain ⟨g, follow, rfl, hbody⟩ := (led ran).body
    have := allOrNothing_dropped (b := b) hrole hbody (by simp) (hlater leaving)
      (hreply.trans (by simp [hbody.abandons _ rfl, Except.toOption])) (by
        rcases leaving with ⟨gone, -⟩ | ⟨-, r', rfl⟩
        · cases gone
        · exact .inl ⟨r', by simp⟩)
    simpa using this

/-! ## The bodies -/

/-- The rows of a guarded statement are read by their first. -/
def ReadsFirst (c : StoreCall) : Prop :=
  ∀ g, (Matched c g ↔ g.returned ≠ []) ∧ rowsRead c g = g.returned.take 1

theorem ReadsFirst.readable (first : ReadsFirst c) {row : Row} {others : List Row}
    (found : g.returned = row :: others) :
    (∃ job, row.job = .ok job) ↔ Readable (rowsRead c g) := by
  simp [(first g).2, found, Readable]

/-- A body that sends the guarded statement and goes on with what it is found to bring. -/
theorem led_asked {γ : Type} {asked : Attempted γ} {found : Reply → γ}
    (hasked : ∀ {t x}, Runs asked t x → ∃ r, t = [(guard, r)] ∧
      ((r.succeeded = true ∧ x = .ok (found r)) ∨
        ∃ f, r.succeeded = false ∧ x = .error f ∧ f.isFinal = r.isLost))
    {k : Except Failure γ → Exchange (Verdict α)} (hfail : ∀ f, k (.error f) = done (.fail f))
    (hgo : ∀ {g u v}, g.succeeded = true → Runs (k (.ok (found g))) u v →
      Led ids c guard value ((guard, g) :: u) v)
    {t : List Sending} {v : Verdict α} (h : Runs (asked.bind k) t v) :
    Led ids c guard value t v := by
  obtain ⟨_, _, u, rfl, hfirst, hrest⟩ := runs_bind.1 h
  obtain ⟨g, rfl, ⟨yes, rfl⟩ | ⟨f, no, rfl, final⟩⟩ := hasked hfirst
  · exact hgo yes hrest
  · rw [hfail] at hrest
    obtain ⟨rfl, rfl⟩ := runs_done.1 hrest
    exact .refused no final

/-- A body that reads the first row, if there is one. -/
theorem led_optional (first : ReadsFirst c) {rest : Row → Attempted α} {nothing : α}
    (hnothing : value nothing = none)
    (follows : ∀ row, FollowUp (rest row) (∃ job, row.job = .ok job))
    (whole : ∀ {g row others u a}, g.returned = row :: others → Runs (rest row) u (.ok a) →
      ∃ made, value a = some made ∧ Whole ids c ((guard, g) :: u) made)
    {t : List Sending} {v : Verdict α}
    (h : Runs ((query guard).bind fun
      | .error f => done (.fail f)
      | .ok [] => done (.abandon nothing)
      | .ok (row :: _) => toCommit (rest row)) t v) : Led ids c guard value t v := by
  refine led_asked runs_query (fun _ => rfl) (fun {g u v} yes ran => ?_) h
  cases hrows : g.returned with
  | nil =>
    rw [hrows] at ran
    obtain ⟨rfl, rfl⟩ := runs_done.1 ran
    exact .idle (by simp [(first g).1, hrows]) hnothing
  | cons row others =>
    rw [hrows] at ran
    exact .matched yes (by simp [(first g).1, hrows])
      ((follows row).congr (first.readable hrows)) (fun u a => whole hrows) ran

/-- A body that needs a first row. -/
theorem led_required (first : ReadsFirst c) {rest : Row → Attempted α} {e : StoreError}
    (follows : ∀ row, FollowUp (rest row) (∃ job, row.job = .ok job))
    (whole : ∀ {g row others u a}, g.returned = row :: others → Runs (rest row) u (.ok a) →
      ∃ made, value a = some made ∧ Whole ids c ((guard, g) :: u) made)
    {t : List Sending} {v : Verdict α}
    (h : Runs (toCommit (andThen (query guard) fun
      | [] => absent e
      | row :: _ => rest row)) t v) : Led ids c guard value t v := by
  rw [toCommit_andThen] at h
  refine led_asked runs_query (fun _ => rfl) (fun {g u v} yes ran => ?_) h
  cases hrows : g.returned with
  | nil =>
    rw [hrows] at ran
    obtain ⟨rfl, rfl⟩ := runs_done.1 ran
    exact .barred (by simp [(first g).1, hrows])
  | cons row others =>
    rw [hrows] at ran
    exact .matched yes (by simp [(first g).1, hrows])
      ((follows row).congr (first.readable hrows)) (fun u a => whole hrows) ran

/-- A body that needs its statement to change a row. -/
theorem led_counted (counts : ∀ g, (Matched c g ↔ g.count ≠ 0) ∧ rowsRead c g = [])
    {rest : Attempted α} {e : StoreError} (follows : FollowUp rest True)
    (whole : ∀ {g u a}, g.count ≠ 0 → Runs rest u (.ok a) →
      ∃ made, value a = some made ∧ Whole ids c ((guard, g) :: u) made)
    {t : List Sending} {v : Verdict α}
    (h : Runs (toCommit (andThen (execute guard) fun matched =>
      if matched = 0 then absent e else rest)) t v) : Led ids c guard value t v := by
  rw [toCommit_andThen] at h
  refine led_asked runs_execute (fun _ => rfl) (fun {g u v} yes ran => ?_) h
  by_cases hcount : g.count = 0
  · simp only [hcount, if_true] at ran
    obtain ⟨rfl, rfl⟩ := runs_done.1 ran
    exact .barred (by simp [(counts g).1, hcount])
  · simp only [hcount, if_false] at ran
    exact .matched yes ((counts g).1.2 hcount)
      (follows.congr (by simp [(counts g).2, Readable])) (fun u a => whole hcount) ran

/-- A body that takes any number of rows. -/
theorem led_each (each : ∀ g, Matched c g ∧ rowsRead c g = g.returned)
    {rest : List Row → Attempted α} (follows : ∀ rows, FollowUp (rest rows) (Readable rows))
    (whole : ∀ {g u a}, Runs (rest g.returned) u (.ok a) →
      ∃ made, value a = some made ∧ Whole ids c ((guard, g) :: u) made)
    {t : List Sending} {v : Verdict α}
    (h : Runs (toCommit (andThen (query guard) rest)) t v) : Led ids c guard value t v := by
  rw [toCommit_andThen] at h
  refine led_asked runs_query (fun _ => rfl) (fun {g u v} yes ran => ?_) h
  exact .matched yes (each g).1 ((follows _).congr (by rw [(each g).2])) (fun u a => whole) ran

end Bodies

/-! ## The writes -/

section Writes

variable {ids : FreshIds} {t : List Sending}

/-- A write that is one transaction is all or nothing if its body is led by its guard. -/
theorem transaction_allOrNothing {c : StoreCall} {guard : Statement} (value : α → Option c.Value)
    (hguard : guard? ids c = some guard) {body : Exchange (Verdict α)}
    {x : Except Failure α} (h : Runs (transaction body) t x)
    (led : ∀ {u v}, Runs body u v → Led ids c guard value u v) {reply : c.Reply}
    (hreply : moved? c reply = x.toOption.bind value) : AllOrNothing ids c guard t reply := by
  simpa using (transaction_course h).allOrNothing hguard led
    (List.forall_mem_nil fun y : Sending => y.1.role = .other) hreply

/-- A draft that is refused is never sent, so nothing happens. -/
theorem allOrNothing_unsent {c : StoreCall} {guard : Statement} {reply : c.Reply}
    (hreply : moved? c reply = none) : AllOrNothing ids c guard [] reply := by
  refine ⟨⟨by simp, fun sound => ?_⟩, by simp, by simp [hreply], by simp⟩
  obtain ⟨b, hb, -⟩ := sound.begun
  cases hb

/-- The end of a job's attempt: its guard must change a row. -/
theorem settle_allOrNothing {c : StoreCall} {guard : Statement} (hguard : guard? ids c = some guard)
    (counts : ∀ g, (Matched c g ↔ g.count ≠ 0) ∧ rowsRead c g = []) {id : JobId} {attempt : Int}
    {worker : WorkerId} {ending : Ending} {kind : EventKind} {note : String} {made : c.Value}
    (whole : ∀ {g r closing}, g.count ≠ 0 → Finalized id attempt ending closing →
      Whole ids c ((guard, g) :: (closing ++ [(.insertEvent kind id (some worker) note, r)])) made)
    {x : Except Failure Unit} (h : Runs (settle guard id attempt worker ending kind note) t x)
    {reply : c.Reply} (hreply : moved? c reply = x.toOption.bind fun _ => some made) :
    AllOrNothing ids c guard t reply := by
  refine transaction_allOrNothing _ hguard h (fun ran => ?_) hreply
  refine led_counted counts ?_ (fun matched ran => ?_) ran
  · exact .congr (.andThen (.finalize _ _ _) fun _ => .appendEvent _ _ _ _) and_self_iff
  · obtain ⟨closing, _, rfl, closed, hevent⟩ := runs_finalize_ok ran
    obtain ⟨r, _, rfl, hdone⟩ := runs_execute_ok hevent
    obtain ⟨rfl, -⟩ := runs_done.1 hdone
    exact ⟨made, rfl, whole matched closed⟩

/-- Inserting a job is all or nothing, whatever else is sent when it moved nothing. -/
theorem insert_allOrNothing {draft : Draft} {x : Except Failure (Option Job)}
    (h : Runs (insert draft.normalized ids) t x) {later : List Sending}
    (others : ∀ y ∈ later, y.1.role = .other) {reply : (StoreCall.create draft).Reply}
    (hreply : moved? (.create draft) reply =
      x.toOption.bind fun o => o.map fun job => (job, false)) :
    AllOrNothing ids (.create draft) (.insertJob draft.normalized ids) (t ++ later) reply := by
  refine (transaction_course h).allOrNothing rfl (fun ran => ?_) others hreply
  refine led_optional (fun _ => ⟨.rfl, rfl⟩) rfl (fun row => ?_) (fun found ran => ?_) ran
  · exact .congr (.andThen (.reading _) fun _ => .andThen (.appendEvent _ _ _ _) fun _ =>
      .done _) (by simp)
  · obtain ⟨job, read, hevent⟩ := runs_reading_ok ran
    obtain ⟨r, _, rfl, hdone⟩ := runs_appendEvent_ok hevent
    obtain ⟨rfl, hjob⟩ := runs_done.1 hdone
    cases hjob
    exact ⟨_, rfl, .created found read⟩

/-- Looking for a job by its key sends one statement, which is no part of a transaction. -/
theorem runs_findByKey {tenant key : String} {x : Except Failure Job}
    (h : Runs (findByKey tenant key) t x) : ∀ y ∈ t, y.1.role = .other := by
  rcases runs_andThen.1 h with ⟨_, rows, _, rfl, hquery, hread⟩ | ⟨f, hquery, rfl⟩
  · obtain ⟨r, rfl, -⟩ := runs_query hquery
    cases rows with
    | nil =>
      obtain ⟨rfl, -⟩ := runs_done.1 hread
      simp [Statement.role]
    | cons row others =>
      obtain ⟨rfl, -⟩ := runs_done.1 hread
      simp [Statement.role]
  · obtain ⟨r, rfl, -⟩ := runs_query hquery
    simp [Statement.role]

theorem create_allOrNothing {draft : Draft} {x : Except Failure (Job × Bool)}
    (h : Runs (create draft ids) t x) :
    AllOrNothing ids (.create draft) (.insertJob draft.normalized ids) t
      (x.mapError Failure.toStore) := by
  unfold create at h
  split at h
  · obtain ⟨rfl, rfl⟩ := runs_done.1 h
    exact allOrNothing_unsent rfl
  · rcases runs_andThen.1 h with ⟨_, o, later, rfl, hinsert, hlater⟩ | ⟨f, hinsert, rfl⟩
    · cases o with
      | some job =>
        obtain ⟨rfl, rfl⟩ := runs_done.1 hlater
        exact insert_allOrNothing hinsert (by simp) rfl
      | none =>
        -- the key is taken: the job under it is looked for after the transaction
        dsimp only at hlater
        split at hlater
        · obtain ⟨rfl, rfl⟩ := runs_done.1 hlater
          exact insert_allOrNothing hinsert (by simp) rfl
        · rcases runs_andThen.1 hlater with ⟨_, job, _, rfl, hfind, hdone⟩ | ⟨f, hfind, rfl⟩
          · obtain ⟨rfl, rfl⟩ := runs_done.1 hdone
            rw [List.append_nil]
            exact insert_allOrNothing hinsert (runs_findByKey hfind) rfl
          · exact insert_allOrNothing hinsert (runs_findByKey hfind) rfl
    · rw [← List.append_nil t]
      exact insert_allOrNothing hinsert (by simp) rfl

theorem start_allOrNothing {id : JobId} {worker : WorkerId} {x : Except Failure (Option Job)}
    (h : Runs (start id worker) t x) :
    AllOrNothing ids (.start id worker) (.startJob id) t (x.mapError Failure.toStore) := by
  refine transaction_allOrNothing (fun o => o.map some) rfl h (fun ran => ?_)
    (by cases x <;> rfl)
  refine led_optional (fun _ => ⟨.rfl, rfl⟩) rfl (fun row => ?_) (fun found ran => ?_) ran
  · exact .congr (.andThen (.reading _) fun _ => .andThen (.execute rfl) fun _ =>
      .andThen (.appendEvent _ _ _ _) fun _ => .done _) (by simp)
  · obtain ⟨job, read, hopen⟩ := runs_reading_ok ran
    obtain ⟨r, _, rfl, hevent⟩ := runs_execute_ok hopen
    obtain ⟨r', _, rfl, hdone⟩ := runs_appendEvent_ok hevent
    obtain ⟨rfl, hjob⟩ := runs_done.1 hdone
    cases hjob
    exact ⟨_, rfl, .started found read⟩

theorem succeed_allOrNothing {id : JobId} {attempt : Int} {worker : WorkerId} {usage : Usage}
    {x : Except Failure Unit} (h : Runs (succeed id attempt worker usage) t x) :
    AllOrNothing ids (.succeed id attempt worker usage) (.succeedJob id attempt) t
      (x.mapError Failure.toStore) :=
  settle_allOrNothing rfl (fun _ => ⟨.rfl, rfl⟩) .succeeded h (by cases x <;> rfl)

theorem fail_allOrNothing {id : JobId} {attempt : Int} {worker : WorkerId} {code : FailureCode}
    {message : String} {x : Except Failure Unit}
    (h : Runs (fail id attempt worker code message) t x) :
    AllOrNothing ids (.fail id attempt worker code message) (.failJob id attempt code message) t
      (x.mapError Failure.toStore) :=
  settle_allOrNothing rfl (fun _ => ⟨.rfl, rfl⟩) .failed h (by cases x <;> rfl)

theorem cancel_allOrNothing {id : JobId} {reason : String} {x : Except Failure Job}
    (h : Runs (cancel id reason) t x) :
    AllOrNothing ids (.cancel id reason) (.cancelJob id reason) t
      (x.mapError Failure.toStore) := by
  unfold cancel change at h
  refine transaction_allOrNothing some rfl h (fun ran => ?_) (by cases x <;> rfl)
  refine led_required (fun _ => ⟨.rfl, rfl⟩) (fun row => ?_) (fun found ran => ?_) ran
  · exact .congr (.andThen (.reading _) fun _ => .andThen
      (.andThen (.execute rfl) fun _ => .appendEvent _ _ _ _) fun _ => .done _) (by simp)
  · obtain ⟨job, read, hrest⟩ := runs_reading_ok ran
    obtain ⟨_, _, _, rfl, hclose, hdone⟩ := runs_andThen_ok.1 hrest
    obtain ⟨r, _, rfl, hevent⟩ := runs_execute_ok hclose
    obtain ⟨r', _, rfl, hsent⟩ := runs_execute_ok hevent
    obtain ⟨rfl, -⟩ := runs_done.1 hsent
    obtain ⟨rfl, hjob⟩ := runs_done.1 hdone
    cases hjob
    exact ⟨_, rfl, .cancelled found read⟩

theorem retry_allOrNothing {id : JobId} {x : Except Failure Job} (h : Runs (retry id) t x) :
    AllOrNothing ids (.retry id) (.retryJob id) t (x.mapError Failure.toStore) := by
  unfold retry change at h
  refine transaction_allOrNothing some rfl h (fun ran => ?_) (by cases x <;> rfl)
  refine led_required (fun _ => ⟨.rfl, rfl⟩) (fun row => ?_) (fun found ran => ?_) ran
  · exact .congr (.andThen (.reading _) fun _ => .andThen (.appendEvent _ _ _ _) fun _ => .done _)
      (by simp)
  · obtain ⟨job, read, hrest⟩ := runs_reading_ok ran
    obtain ⟨r, _, rfl, hdone⟩ := runs_appendEvent_ok hrest
    obtain ⟨rfl, hjob⟩ := runs_done.1 hdone
    cases hjob
    exact ⟨_, rfl, .retried found read⟩

theorem requeueOrphaned_allOrNothing {staleAfter : Span} {x : Except Failure (List Job)}
    (h : Runs (requeueOrphaned staleAfter) t x) :
    AllOrNothing ids (.requeueOrphaned staleAfter)
      (.requeueOrphaned staleAfter Store.workerLostNote) t (x.mapError Failure.toStore) := by
  unfold requeueOrphaned at h
  refine transaction_allOrNothing some rfl h (fun ran => ?_) (by cases x <;> rfl)
  exact led_each (c := .requeueOrphaned staleAfter) (fun _ => ⟨trivial, rfl⟩) .requeueRows
    (fun ran => ⟨_, rfl, .requeued (requeued_of_runs ran)⟩) ran

end Writes

end Exchange

open Exchange

theorem runs_reported {α : Type} {e : Attempted α} {t : List Sending} {x : Except StoreError α}
    (h : Runs (reported e) t x) : ∃ y, Runs e t y ∧ x = y.mapError Failure.toStore := by
  obtain ⟨y, hy, rfl⟩ := runs_map.1 h
  exact ⟨y, hy, by cases y <;> rfl⟩

/-- Every write is all or nothing, whatever the database replies. -/
theorem allOrNothing_scripted (ids : FreshIds) (c : StoreCall) (guard : Statement)
    (write : guard? ids c = some guard) (replies : Nat → Reply) :
    AllOrNothing ids c guard ((exchange ids c).run (scripted replies) []).2
      ((exchange ids c).run (scripted replies) []).1 := by
  have ran := runs_scripted replies (exchange ids c)
  generalize (exchange ids c).run (scripted replies) [] = result at ran
  obtain ⟨reply, sent⟩ := result
  cases c <;> cases write <;> obtain ⟨x, hx, rfl⟩ := runs_reported ran
  case create => exact create_allOrNothing hx
  case start => exact start_allOrNothing hx
  case succeed => exact succeed_allOrNothing hx
  case fail => exact fail_allOrNothing hx
  case cancel => exact cancel_allOrNothing hx
  case retry => exact retry_allOrNothing hx
  case requeueOrphaned => exact requeueOrphaned_allOrNothing hx

/-! ## A second row -/

/-- A job that has just been started. -/
def startedRow : JobRow :=
  { id := ⟨.nil⟩, tenant := "acme", status := .running, priority := 3, model := "small"
    payload := Json.empty, key := none, attempt := 1, maxAttempts := 3, createdAt := timeOrigin
    startedAt := some timeOrigin, finishedAt := none, errorCode := none, errorMessage := none
    trace := ⟨.nil⟩ }

/-- A row without anything in it. -/
def blankRow : Row := Statement.jobColumns.map fun c => (c.name, ⟨c.type, none⟩)

/-- The guarded statement returns a job and a row that holds none, and all else succeeds. -/
def doubled : Nat → Reply
  | 1 => .rows [startedRow.wire, blankRow]
  | _ => .affected 1

theorem allOrNothing_doubled :
    guard? default (.requeueOrphaned .zero) = some (.requeueOrphaned .zero Store.workerLostNote) ∧
      AllOrNothing default (.requeueOrphaned .zero) (.requeueOrphaned .zero Store.workerLostNote)
        ((exchange default (.requeueOrphaned .zero)).run (scripted doubled) []).2
        ((exchange default (.requeueOrphaned .zero)).run (scripted doubled) []).1 :=
  ⟨rfl, allOrNothing_scripted default (.requeueOrphaned .zero) _ rfl doubled⟩

/-- What a start sends if its guarded statement returns a second row. -/
def startDoubled : List Sending :=
  ((exchange default (.start startedRow.id ⟨"w"⟩)).run (scripted doubled) []).2

/-- A second row is never read: `COMMIT` is sent although not every returned row holds a job. -/
theorem commits_past_second_row :
    ¬((∃ r, (.commit, r) ∈ startDoubled) ↔ Sound (.start startedRow.id ⟨"w"⟩)
      (.startJob startedRow.id) Reply.returned startDoubled) := by
  have hsent : startDoubled = [(.begin_, .affected 1),
      (.startJob startedRow.id, .rows [startedRow.wire, blankRow]),
      (.openAttempt startedRow.id 1, .affected 1),
      (.insertEvent .started startedRow.id (some ⟨"w"⟩) Store.startedNote, .affected 1),
      (.commit, .affected 1)] := rfl
  have hblank : blankRow.job = .error (.malformed "job") := rfl
  intro h
  obtain ⟨-, ⟨g, hg, -, -, readable⟩, -⟩ := h.1 ⟨.affected 1, by simp [hsent]⟩
  simp only [hsent, List.mem_cons, Prod.mk.injEq, reduceCtorEq, false_and, true_and, false_or,
    List.not_mem_nil, or_false] at hg
  obtain ⟨job, hjob⟩ := readable blankRow (by simp [hg, Reply.returned])
  cases hblank.symm.trans hjob

end Dispatch.Postgres
