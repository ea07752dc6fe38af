import Dispatch.Proofs.Store.Turn
import Dispatch.Store.Call
import Mathlib.Logic.Relation

/-!
# What a call does to the store

A `Change` is a turn of a job or a worker's report.  `perform_changes` says that nothing else
happens: a call is a series of changes at its moment, one or none unless it returns orphans, which
is one turn for each of them.  A call that is no report brings turns of one kind, the call's own
(`perform_turns`).  What every change keeps, every call keeps (`kept_by_perform`).
-/

namespace Dispatch

namespace StoreCall

/-- The worker under whose name the call reports. -/
def reporter : StoreCall → Option WorkerId
  | beat worker _ _ _ => some worker
  | _ => none

/-- The kind of event that the call is in the log if it does something to a job. -/
def kind? : StoreCall → Option EventKind
  | create _ => some .created
  | start _ _ => some .started
  | succeed _ _ _ _ => some .succeeded
  | fail _ _ _ _ _ => some .failed
  | cancel _ _ => some .cancelled
  | retry _ => some .retryScheduled
  | requeueOrphaned _ => some .requeued
  | _ => none

end StoreCall

namespace Store

variable {s s' : Store} {now : Time}

/-! ## Changes -/

/-- A change of the store at an instant. -/
inductive Change (now : Time) (s : Store) : Store → Prop
  | turn {d : Deed} {after : Job} {s' : Store} (t : Turn now s d after s') : Change now s s'
  /-- A worker reports. -/
  | report (workers : Table WorkerId Heartbeat) : Change now s { s with workers }

/-- Some changes, one after the other, all at one instant. -/
abbrev Changes (now : Time) : Store → Store → Prop := Relation.ReflTransGen (Change now)

/-- Some turns of one kind, one after the other, all at one instant. -/
abbrev Turns (now : Time) (kind : Option EventKind) : Store → Store → Prop :=
  Relation.ReflTransGen fun a b => ∃ d after, some (Deed.kind d) = kind ∧ Turn now a d after b

/-- A change keeps the order among the rows. -/
theorem Orderly.change {s s' : Store} (h : s.Orderly) (c : Change now s s') : s'.Orderly := by
  cases c with
  | turn t => exact t.orderly h
  | report workers => exact ⟨h.filed, h.named, h.lively, h.rowed⟩

/-! ## Calls -/

theorem jobIf?_eq_some {id : JobId} {allowed : Job → Bool} {j : Job} :
    s.jobIf? id allowed = some j ↔ s.jobs.get? id = some j ∧ allowed j = true := by
  simp [jobIf?, Option.filter_eq_some_iff]

theorem running?_eq_some {id : JobId} {n : Int} {j : Job} :
    s.running? id n = some j ↔ s.jobs.get? id = some j ∧ j.status = .running ∧ j.attempt = n := by
  simp [running?, jobIf?_eq_some]

/-- What can be cancelled and does not run waits: no job is ever in `retryScheduled`. -/
theorem Orderly.waits_of_cancellable (h : s.Orderly) {id : JobId} {j : Job}
    (stored : s.jobs.get? id = some j) (allowed : j.status.isCancellable = true)
    (idle : j.status ≠ .running) : j.status = .queued := by
  have hlively := h.lively id j stored
  revert allowed idle hlively
  cases j.status <;> simp [JobStatus.isCancellable, Life.Lively]

/-- What can be retried has failed or was cancelled: no job is ever in `dlq`. -/
theorem Orderly.ended_of_retryable (h : s.Orderly) {id : JobId} {j : Job}
    (stored : s.jobs.get? id = some j) (allowed : j.status.isRetryable = true) :
    j.status = .failed ∨ j.status = .cancelled := by
  have hlively := h.lively id j stored
  revert allowed hlively
  cases j.status <;> simp [JobStatus.isRetryable, Life.Lively]

/-- A draft that is accepted makes a job, unless its key leads to one that is there. -/
theorem create_turn {draft : Draft} {ids : FreshIds} {j : Job} {found : Bool} {t : Store}
    (hs : s.create draft ids now = .ok ((j, found), t)) :
    (found = true ∧ t = s) ∨ (found = false ∧ Turn now s .created j t) := by
  unfold create at hs
  split at hs
  · cases hs
  · rename_i valid
    dsimp only at hs
    split at hs
    · cases hs
      exact .inl ⟨rfl, rfl⟩
    · rename_i unclaimed
      split at hs
      · cases hs
      · rename_i unknown
        cases hs
        exact .inr ⟨rfl, .created valid unclaimed (Option.not_isSome_iff_eq_none.1 unknown)⟩

/-- A start hands out a job that waited, or it does nothing because the job does not wait. -/
theorem start_turn (h : s.Orderly) (id : JobId) (worker : WorkerId) (now : Time) :
    (s.start id worker now = (none, s) ∧ ∀ j, s.jobs.get? id = some j → j.status ≠ .queued) ∨
      ∃ j t, s.start id worker now = (some j, t) ∧ j.id = id ∧
        Turn now s (.started worker) j t := by
  unfold start
  split
  · rename_i idle
    refine .inl ⟨rfl, fun j hj waiting => ?_⟩
    simp [jobIf?, hj, waiting] at idle
  · rename_i j hj
    obtain ⟨stored, waiting⟩ := jobIf?_eq_some.1 hj
    cases h.filed id j stored
    exact .inr ⟨_, _, rfl, rfl, .started worker stored (by simpa using waiting)⟩

theorem succeed_turn (h : s.Orderly) {id : JobId} {n : Int} {worker : WorkerId} {usage : Usage}
    {t : Store} (hs : s.succeed id n worker usage now = .ok ((), t)) :
    ∃ after, Turn now s (.succeeded worker usage) after t ∧ after.id = id ∧ after.attempt = n := by
  unfold succeed at hs
  split at hs
  · cases hs
  · rename_i j hj
    obtain ⟨stored, running, rfl⟩ := running?_eq_some.1 hj
    cases h.filed id j stored
    cases hs
    exact ⟨_, .succeeded worker usage stored running, rfl, rfl⟩

theorem fail_turn (h : s.Orderly) {id : JobId} {n : Int} {worker : WorkerId} {code : FailureCode}
    {message : String} {t : Store} (hs : s.fail id n worker code message now = .ok ((), t)) :
    ∃ after, Turn now s (.failed worker code message) after t ∧ after.id = id ∧
      after.attempt = n := by
  unfold fail at hs
  split at hs
  · cases hs
  · rename_i j hj
    obtain ⟨stored, running, rfl⟩ := running?_eq_some.1 hj
    cases h.filed id j stored
    cases hs
    exact ⟨_, .failed worker code message stored running, rfl, rfl⟩

theorem cancel_turn (h : s.Orderly) {id : JobId} {reason : String} {after : Job} {t : Store}
    (hs : s.cancel id reason now = .ok (after, t)) :
    after.id = id ∧ ∃ d, (d = .dropped reason ∨ d = .stopped reason) ∧ Turn now s d after t := by
  unfold cancel at hs
  split at hs
  · cases hs
  · rename_i j hj
    obtain ⟨stored, allowed⟩ := jobIf?_eq_some.1 hj
    cases h.filed id j stored
    cases hs
    refine ⟨rfl, ?_⟩
    by_cases running : j.status = .running
    · simp only [running, if_true]
      exact ⟨_, .inr rfl, .stopped reason stored running⟩
    · simp only [running, if_false]
      exact ⟨_, .inl rfl, .dropped reason stored (h.waits_of_cancellable stored allowed running)⟩

theorem retry_turn (h : s.Orderly) {id : JobId} {after : Job} {t : Store}
    (hs : s.retry id now = .ok (after, t)) : after.id = id ∧ Turn now s .retried after t := by
  unfold retry at hs
  split at hs
  · cases hs
  · rename_i j hj
    obtain ⟨stored, allowed⟩ := jobIf?_eq_some.1 hj
    cases h.filed id j stored
    cases hs
    exact ⟨rfl, .retried stored (h.ended_of_retryable stored allowed)⟩

theorem mem_orphans {cutoff : Time} {j : Job} :
    j ∈ s.orphans cutoff ↔ j ∈ s.jobs.rows ∧ s.isOrphan cutoff j = true := by
  simp [orphans]

theorem orphans_stored (h : s.Orderly) {cutoff : Time} {j : Job} (hj : j ∈ s.orphans cutoff) :
    s.jobs.get? j.id = some j ∧ j.status = .running := by
  obtain ⟨hmem, horphan⟩ := mem_orphans.1 hj
  refine ⟨h.get?_of_mem hmem, ?_⟩
  simp only [isOrphan, Bool.and_eq_true, decide_eq_true_eq] at horphan
  exact horphan.1.1

theorem nodup_orphans (h : s.Orderly) (cutoff : Time) :
    ((s.orphans cutoff).map (·.id)).Nodup := by
  have hperm := (List.mergeSort_perm (s.jobs.rows.filter (s.isOrphan cutoff))
    fun a b => a.id ≤ b.id).map (·.id)
  exact hperm.nodup_iff.2 (h.nodup_ids.sublist (List.filter_sublist.map _))

/-- When the first of some running jobs goes back to waiting, the others run on. -/
theorem requeue_running {j : Job} {rest : List Job} (distinct : ((j :: rest).map (·.id)).Nodup)
    (running : ∀ k ∈ j :: rest, s.jobs.get? k.id = some k ∧ k.status = .running) :
    ∀ k ∈ rest, (requeueOne now s j).jobs.get? k.id = some k ∧ k.status = .running := by
  intro k hk
  obtain ⟨stored, runs⟩ := running k (List.mem_cons_of_mem j hk)
  have hne : j.id ≠ k.id := fun he =>
    (List.nodup_cons.1 distinct).1 (List.mem_map.2 ⟨k, hk, he.symm⟩)
  refine ⟨?_, runs⟩
  simpa [requeueOne, requeuedJob, hne] using stored

/-- Jobs that all run go back to waiting one by one; none of them is in the way of another. -/
theorem requeue_turns {found : List Job} (distinct : (found.map (·.id)).Nodup)
    (running : ∀ j ∈ found, s.jobs.get? j.id = some j ∧ j.status = .running) :
    Turns now (some .requeued) s (found.foldl (requeueOne now) s) := by
  induction found generalizing s with
  | nil => exact .refl
  | cons j rest ih =>
    obtain ⟨stored, runs⟩ := running j List.mem_cons_self
    exact .head ⟨_, _, rfl, .requeued stored runs⟩
      (ih (List.nodup_cons.1 distinct).2 (requeue_running distinct running))

/-- An operation that fails leaves the store; one that succeeds changes it as it says. -/
theorem settle_turns {α : Type} {o : Outcome α} {kind : Option EventKind}
    (h : ∀ a t, o = .ok (a, t) → Turns now kind s t) : Turns now kind s (s.settle o).2 := by
  cases o with
  | error e => exact .refl
  | ok r => exact h r.1 r.2 rfl

/-- A call that is no report is a series of turns of its kind at its moment. -/
theorem perform_turns (h : s.Orderly) (m : Moment) {c : StoreCall} (quiet : c.reporter = none) :
    Turns m.now c.kind? s (s.perform m c).2 := by
  cases c with
  | create draft =>
    apply settle_turns
    intro _ t hs
    rcases create_turn hs with ⟨-, rfl⟩ | ⟨-, turn⟩
    · exact .refl
    · exact .single ⟨_, _, rfl, turn⟩
  | start id worker =>
    change Turns m.now _ s (s.start id worker m.now).2
    rcases start_turn h id worker m.now with ⟨hs, -⟩ | ⟨j, t, hs, -, turn⟩
    · rw [hs]
    · rw [hs]
      exact .single ⟨_, _, rfl, turn⟩
  | succeed id n worker usage =>
    apply settle_turns
    intro _ t hs
    obtain ⟨after, turn, -⟩ := succeed_turn h hs
    exact .single ⟨_, _, rfl, turn⟩
  | fail id n worker code message =>
    apply settle_turns
    intro _ t hs
    obtain ⟨after, turn, -⟩ := fail_turn h hs
    exact .single ⟨_, _, rfl, turn⟩
  | cancel id reason =>
    apply settle_turns
    intro _ t hs
    obtain ⟨-, d, hd, turn⟩ := cancel_turn h hs
    have hkind : d.kind = .cancelled := by
      rcases hd with rfl | rfl <;> rfl
    exact .single ⟨d, _, congrArg some hkind, turn⟩
  | retry id =>
    apply settle_turns
    intro _ t hs
    exact .single ⟨_, _, rfl, (retry_turn h hs).2⟩
  | requeueOrphaned staleAfter =>
    exact requeue_turns (nodup_orphans h _) fun _ hj => orphans_stored h hj
  | beat worker state running concurrency => cases quiet
  | get id => exact .refl
  | list filter => exact .refl
  | listWorkers => exact .refl
  | listEvents id limit => exact .refl
  | tally => exact .refl
  | ping => exact .refl

/-- A call is a series of changes at its moment. -/
theorem perform_changes (h : s.Orderly) (m : Moment) (c : StoreCall) :
    Changes m.now s (s.perform m c).2 := by
  cases hreporter : c.reporter with
  | none =>
    have hturns := perform_turns h m hreporter
    refine hturns.lift id fun a b hturn => ?_
    obtain ⟨d, after, -, turn⟩ := hturn
    exact .turn turn
  | some worker =>
    cases c with
    | beat worker state running concurrency => exact .single (.report _)
    | _ => cases hreporter

/-- What every change at the moment of a call keeps, the call keeps. -/
theorem kept_by_perform {P : Store → Prop} (h : s.Orderly) (m : Moment) (c : StoreCall)
    (kept : ∀ {a b}, a.Orderly → Change m.now a b → P a → P b) (hP : P s) :
    (s.perform m c).2.Orderly ∧ P (s.perform m c).2 := by
  have changes := perform_changes h m c
  generalize (s.perform m c).2 = t at changes
  induction changes with
  | refl => exact ⟨h, hP⟩
  | tail _ change ih => exact ⟨ih.1.change change, kept ih.1 change ih.2⟩

/-- A call keeps the order among the rows. -/
theorem Orderly.perform (h : s.Orderly) (m : Moment) (c : StoreCall) : (s.perform m c).2.Orderly :=
  (kept_by_perform (P := fun _ => True) h m c (fun _ _ _ => trivial) trivial).1

end Store

end Dispatch
