import Dispatch.Proofs.Postgres.Creation
import Dispatch.Proofs.Postgres.Reads
import Dispatch.Proofs.Postgres.Requeue
import Dispatch.Proofs.Service.Creation

/-!
# The store in memory and the store in the database

A run is the same calls made on both, at the same moments and with the same identities for new
jobs.  Every call is tracked (`Mirrors.tracks`), so by induction over the run the tables mirror the
store throughout, and every call is answered alike (`InStep`).

Where the two differ in what they do, nobody can tell, because of what holds of every store in use:
the attempt of a running job has an open row and no other attempt does.  So closing whatever is open
is closing the attempt of the job that ran, the attempt that is finalized is always there, and what
it is finalized with are all values that a fresh row does not have yet.

One thing tells them apart.  The database is told of a span in seconds, as a binary64 number, and
answers for the span that this number makes.  So the two stay in step as long as every call about
orphans asks with a span that is told (`Span.Told`), and no longer (`exists_apart`).
-/

namespace Dispatch.Postgres

open Exchange Server Mirrors

variable {db : Database} {s : Store}

/-- The instant from which on a call asks for reports is one that the calendar has. -/
def reaches (m : Moment) : StoreCall → Bool
  | .requeueOrphaned staleAfter => Time.earliest.nanos ≤ m.now.nanos - staleAfter.nanos
  | _ => true

/-- The span that a call asks with is what its number of seconds tells. -/
def isTold : StoreCall → Bool
  | .requeueOrphaned staleAfter => staleAfter.Told
  | _ => true

/-- Every call is answered alike, and leaves tables that mirror the store. -/
theorem Mirrors.tracks (mirror : Mirrors db s) (use : s.InUse) (leeway : Leeway) (m : Moment)
    (c : StoreCall) (fresh : Dealing.isFresh ⟨s, m, c⟩ = true) (since : reaches m c = true)
    (told : isTold c = true) :
    Tracks leeway db s m c := by
  cases c with
  | create draft => exact create_tracks mirror use draft (Option.isNone_iff_eq_none.1 fresh)
  | get id => exact get_tracks mirror use id
  | list filter => exact list_tracks mirror filter
  | start id worker => exact start_tracks mirror use id worker
  | succeed id n worker usage => exact succeed_tracks mirror use id n worker usage
  | fail id n worker code message => exact fail_tracks mirror use id n worker code message
  | cancel id reason => exact cancel_tracks mirror use id reason
  | retry id => exact retry_tracks mirror use id
  | beat worker state running concurrency =>
    exact beat_tracks mirror use worker state running concurrency
  | listWorkers => exact listWorkers_tracks mirror
  | listEvents id limit => exact listEvents_tracks mirror use id limit
  | tally => exact tally_tracks mirror
  | requeueOrphaned staleAfter =>
    exact requeueOrphaned_tracks mirror use (of_decide_eq_true since) (of_decide_eq_true told)
  | ping => exact ping_tracks mirror

/-! ## Runs -/

/-- A server and a store go through calls in step: between calls no transaction is open and the
tables mirror the store, and every call is answered alike. -/
inductive InStep (leeway : Leeway) : Server → Store → List (Moment × StoreCall) → Prop
  | done {db : Database} {s : Store} (mirror : Mirrors db s) : InStep leeway (resting db) s []
  | call {db : Database} {s : Store} {m : Moment} {c : StoreCall}
      {rest : List (Moment × StoreCall)} (mirror : Mirrors db s)
      (alike : Alike c ((resting db).perform leeway m c).1 (s.perform m c).1)
      (later : InStep leeway ((resting db).perform leeway m c).2 (s.perform m c).2 rest) :
      InStep leeway (resting db) s ((m, c) :: rest)

theorem Mirrors.inStep (mirror : Mirrors db s) (use : s.InUse) (leeway : Leeway)
    {calls : List (Moment × StoreCall)} (fresh : ∀ d ∈ s.dealings calls, d.isFresh = true)
    (since : ∀ call ∈ calls, reaches call.1 call.2 = true)
    (told : ∀ call ∈ calls, isTold call.2 = true) :
    InStep leeway (resting db) s calls := by
  induction calls generalizing db s with
  | nil => exact .done mirror
  | cons call rest ih =>
    obtain ⟨m, c⟩ := call
    obtain ⟨x, w, hrun, halike, hnext⟩ := mirror.tracks use leeway m c
      (fresh _ List.mem_cons_self) (since _ List.mem_cons_self) (told _ List.mem_cons_self)
    have hlater := ih hnext (use.perform m c) (fun d hd => fresh d (List.mem_cons_of_mem _ hd))
      (fun call hcall => since call (List.mem_cons_of_mem _ hcall))
      fun call hcall => told call (List.mem_cons_of_mem _ hcall)
    refine .call mirror ?_ ?_
    · rw [hrun]
      exact halike
    · rw [hrun]
      exact hlater

/-- Whatever calls are made on empty stores at whatever moments, and whatever the database makes of
its leeway, the store in the database and the store in memory answer them alike and hold the same
rows: new jobs need new identities, and orphans an instant to be orphaned since and a span that is
told in seconds. -/
theorem inStep_empty (leeway : Leeway) (calls : List (Moment × StoreCall))
    (fresh : ∀ d ∈ Store.empty.dealings calls, d.isFresh = true)
    (since : ∀ call ∈ calls, reaches call.1 call.2 = true)
    (told : ∀ call ∈ calls, isTold call.2 = true) :
    InStep leeway (resting {}) .empty calls :=
  Mirrors.empty.inStep .empty leeway fresh since told

/-- Rows come back in reverse, and the numbers of events have gaps. -/
def contrary : Leeway where
  order := List.reverse
  order_perm := List.reverse_perm
  serial := List.foldr (fun e next => max (e.id + 10) next) 1
  serial_gt events e he := by
    induction events with
    | nil => cases he
    | cons f rest ih =>
      rw [List.foldr_cons]
      rcases List.mem_cons.1 he with rfl | he
      · omega
      · have hrest := ih he
        omega

/-- The start of a second, with fresh identities. -/
def secondOf (n : Nat) : Moment := ⟨⟨n * 1000000000⟩, .numbered n n⟩

/-- Two jobs are lost by their workers and sent back to waiting, the one is cancelled after its
next start and the other ends well, and whoever asks is told. -/
def eventful : List (Moment × StoreCall) :=
  let draft : Draft := { tenant := "acme", model := "small", idempotencyKey := some "order-1" }
  let first := (secondOf 1).fresh.job
  let second := (secondOf 2).fresh.job
  [(secondOf 1, .create draft), (secondOf 2, .create { draft with idempotencyKey := none }),
    (secondOf 3, .create draft), (secondOf 4, .start first ⟨"worker-1"⟩),
    (secondOf 5, .start second ⟨"worker-2"⟩),
    (secondOf 6, .beat ⟨"worker-2"⟩ .busy (some second) 1),
    (secondOf 9, .requeueOrphaned (.ofMillis 2500)),
    (secondOf 10, .start first ⟨"worker-1"⟩), (secondOf 11, .cancel first "no longer needed"),
    (secondOf 12, .start second ⟨"worker-2"⟩),
    (secondOf 13, .succeed second 2 ⟨"worker-2"⟩ {}), (secondOf 14, .get second),
    (secondOf 15, .list {}), (secondOf 16, .listEvents first 3)]

theorem inStep_eventful :
    (∀ d ∈ Store.empty.dealings eventful, d.isFresh = true) ∧
      (∀ call ∈ eventful, reaches call.1 call.2 = true) ∧
        (∀ call ∈ eventful, isTold call.2 = true) ∧ InStep contrary (resting {}) .empty eventful :=
  ⟨by decide, by decide, by decide +kernel,
    inStep_empty contrary eventful (by decide) (by decide) (by decide +kernel)⟩

/-! ## Spans that are not told -/

section Untold

variable {leeway : Leeway} {started asked : Time} {staleAfter : Span}

theorem InStep.head {server : Server} {m : Moment} {c : StoreCall}
    {rest : List (Moment × StoreCall)} (h : InStep leeway server s ((m, c) :: rest)) :
    (∃ db, server = resting db ∧ Mirrors db s) ∧
      Alike c (server.perform leeway m c).1 (s.perform m c).1 ∧
        InStep leeway (server.perform leeway m c).2 (s.perform m c).2 rest := by
  cases h with
  | call mirror alike later => exact ⟨⟨_, rfl, mirror⟩, alike, later⟩

/-- A job is created and started. -/
def oneStarted (started : Time) : List (Moment × StoreCall) :=
  [(⟨started, .numbered 1 1⟩, .create { tenant := "acme", model := "small" }),
    (⟨started, .numbered 2 2⟩, .start (FreshIds.numbered 1 1).job ⟨"worker-1"⟩)]

/-- A job is created and started, and later orphans are asked for. -/
def oneLost (started asked : Time) (staleAfter : Span) : List (Moment × StoreCall) :=
  oneStarted started ++ [(⟨asked, .numbered 3 3⟩, .requeueOrphaned staleAfter)]

theorem fresh_oneLost (started asked : Time) (staleAfter : Span) :
    ∀ d ∈ Store.empty.dealings (oneLost started asked staleAfter), d.isFresh = true :=
  List.all_eq_true.1 rfl

/-- The job that was started is an orphan since then. -/
theorem length_orphans_oneStarted (started cutoff : Time) :
    ((Store.empty.afterAll (oneStarted started)).orphans cutoff).length =
      if started ≤ cutoff then 1 else 0 := by
  obtain ⟨j, hrows, hrunning, hstarted⟩ : ∃ j : Job,
      (Store.empty.afterAll (oneStarted started)).jobs.rows = [j] ∧ j.status = .running ∧
        j.startedAt = some (.ofTime started) := ⟨_, rfl, rfl, rfl⟩
  have horphan : (Store.empty.afterAll (oneStarted started)).isOrphan cutoff j =
      decide (started ≤ cutoff) := by
    have hvouched : (Store.empty.afterAll (oneStarted started)).isVouchedFor cutoff j.id = false :=
      rfl
    rw [Store.isOrphan, hrunning, hstarted, hvouched, Bool.not_false, Bool.and_true,
      decide_eq_true rfl, Bool.true_and]
    exact decide_eq_decide.2 Timestamp.ofTime_le_ofTime
  rw [Store.orphans, List.length_mergeSort, hrows, List.filter_singleton, horphan]
  by_cases h : started ≤ cutoff
  · simp [h]
  · simp [h]

/-- Whoever answers a call about orphans as the store does returns as many as the store has. -/
theorem Alike.length_requeued {m : Moment} {x : Except StoreError (List Job)}
    (h : Alike (.requeueOrphaned staleAfter) x (s.perform m (.requeueOrphaned staleAfter)).1) :
    x.map List.length = .ok (s.orphans (Store.staleCutoff m.now staleAfter)).length := by
  cases x with
  | error e => cases h
  | ok jobs =>
    have hperm : jobs.Perm ((s.orphans (Store.staleCutoff m.now staleAfter)).map
      Store.requeuedJob) := h
    exact congrArg Except.ok (hperm.length_eq.trans (List.length_map _))

/-- If the span is not told, the database looks for orphans since another instant than the store
does; they are in step only if the job was started before both or before neither. -/
theorem InStep.oneLost (h : InStep leeway (resting {}) .empty (oneLost started asked staleAfter))
    (since : Time.earliest.nanos ≤ (asked.secondsBack staleAfter.seconds).nanos) :
    started ≤ asked.backBy (.atLeast staleAfter.seconds) ↔ started ≤ asked.backBy staleAfter := by
  obtain ⟨-, -, h₁⟩ := h.head
  obtain ⟨-, -, h₂⟩ := h₁.head
  obtain ⟨⟨db, hdb, mirror⟩, alike, -⟩ := h₂.head
  rw [hdb] at alike
  obtain ⟨x, w, hperform, alike', -⟩ := requeueOrphaned_atLeast mirror
    (.afterAll (oneStarted started)) leeway ⟨asked, .numbered 3 3⟩ rfl since
  rw [hperform] at alike
  have hlength := Except.ok.inj (alike'.length_requeued.symm.trans alike.length_requeued)
  have hcount : (if started ≤ asked.backBy (.atLeast staleAfter.seconds) then 1 else 0) =
      if started ≤ asked.backBy staleAfter then 1 else 0 :=
    (length_orphans_oneStarted started _).symm.trans
      (hlength.trans (length_orphans_oneStarted started _))
  constructor
  · intro htold
    by_contra hasked
    rw [if_pos htold, if_neg hasked] at hcount
    cases hcount
  · intro hasked
    by_contra htold
    rw [if_neg htold, if_pos hasked] at hcount
    cases hcount

/-- A span that is not told takes the two apart: a job that was started the shorter one of the span
and what is told of it before is an orphan to the one and not to the other. -/
theorem exists_apart (leeway : Leeway) (untold : ¬staleAfter.Told) :
    ∃ started asked, reaches ⟨asked, .numbered 3 3⟩ (.requeueOrphaned staleAfter) = true ∧
      ¬InStep leeway (resting {}) .empty (oneLost started asked staleAfter) := by
  obtain ⟨told, htold⟩ : ∃ told, told = Span.atLeast staleAfter.seconds := ⟨_, rfl⟩
  have hne : told.nanos ≠ staleAfter.nanos := fun h =>
    untold (htold.symm.trans (congrArg Span.mk h))
  have hearliest : Time.earliest.nanos ≤ 0 := by decide
  obtain ⟨short, hshort⟩ : ∃ n : ℤ, n = min (told.nanos : ℤ) staleAfter.nanos := ⟨_, rfl⟩
  obtain ⟨long, hlong⟩ : ∃ n : ℤ, n = max (told.nanos : ℤ) staleAfter.nanos := ⟨_, rfl⟩
  refine ⟨⟨long - short⟩, ⟨long⟩, decide_eq_true ?_, fun h => ?_⟩
  · show Time.earliest.nanos ≤ long - staleAfter.nanos
    omega
  · have since : Time.earliest.nanos ≤ long - told.nanos := by omega
    have hiff : long - short ≤ max Time.earliest.nanos (long - told.nanos) ↔
        long - short ≤ max Time.earliest.nanos (long - staleAfter.nanos) := by
      rw [htold] at since ⊢
      exact h.oneLost since
    omega

/-- A span of 100000000 seconds and a millisecond, of which two nanoseconds more are told. -/
theorem not_inStep_untold :
    (∀ d ∈ Store.empty.dealings (oneLost ⟨0⟩ ⟨100000000001000000⟩ (.ofMillis 100000000001)),
      d.isFresh = true) ∧
    (∀ call ∈ oneLost ⟨0⟩ ⟨100000000001000000⟩ (.ofMillis 100000000001),
      reaches call.1 call.2 = true) ∧
    ¬InStep contrary (resting {}) .empty
      (oneLost ⟨0⟩ ⟨100000000001000000⟩ (.ofMillis 100000000001)) := by
  refine ⟨fresh_oneLost _ _ _, by decide, fun h => ?_⟩
  have hiff := h.oneLost (by decide +kernel)
  exact absurd (hiff.2 (by decide)) (by decide +kernel)

end Untold

end Dispatch.Postgres
