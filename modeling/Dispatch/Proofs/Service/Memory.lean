import Dispatch.Proofs.Service.Creation
import Dispatch.Proofs.Store.Settled

/-!
# The service over a store and a queue in memory

A call that asks something and changes nothing is a question, and a script that only makes such
calls leaves everything as it is (`Script.Asks.run`).  What the service does besides asking is
creating, cancelling and retrying; over a store and a queue in memory each of them is one operation
of the store and, if that succeeds, a change of the queue that cannot fail.

`Spared` says what these changes have in common: they are about one job.
-/

namespace Dispatch

/-! ## Questions -/

/-- The call asks something of the store and changes nothing. -/
def StoreCall.isQuestion (c : StoreCall) : Bool := c.kind?.isNone && c.reporter.isNone

/-- The call asks something of the queue and changes nothing. -/
def QueueCall.isQuestion : QueueCall → Bool
  | contains _ | ping => true
  | _ => false

theorem Store.perform_question (s : Store) (m : Moment) {c : StoreCall}
    (question : c.isQuestion = true) : (s.perform m c).2 = s := by
  cases c <;> first | rfl | cases question

theorem LeaseQueue.perform_question (q : LeaseQueue) (now : Time) {c : QueueCall}
    (question : c.isQuestion = true) : (q.perform now c).2 = q := by
  cases c <;> first | rfl | cases question

namespace Script

variable {α β : Type}

/-- All calls of the script are questions. -/
inductive Asks : Script α → Prop
  | done (a : α) : Asks (.done a)
  | store {c : StoreCall} {next : c.Reply → Script α} (question : c.isQuestion = true)
      (later : ∀ r, Asks (next r)) : Asks (.store c next)
  | queue {c : QueueCall} {next : c.Reply → Script α} (question : c.isQuestion = true)
      (later : ∀ r, Asks (next r)) : Asks (.queue c next)

namespace Asks

/-- Whatever is answered, asking changes nothing. -/
theorem run {s : Script α} (h : s.Asks) (m : Moment) (w : Store × LeaseQueue) :
    (s.run (.memory m) w).2 = w := by
  induction h with
  | done a => rfl
  | @store c next question _ ih =>
    show ((next (w.1.perform m c).1).run (.memory m) ((w.1.perform m c).2, w.2)).2 = w
    rw [Store.perform_question _ _ question]
    exact ih _
  | @queue c next question _ ih =>
    show ((next (w.2.perform m.now c).1).run (.memory m) (w.1, (w.2.perform m.now c).2)).2 = w
    rw [LeaseQueue.perform_question _ _ question]
    exact ih _

theorem map {s : Script α} (h : s.Asks) (f : α → β) : (s.map f).Asks := by
  induction h with
  | done a => exact .done (f a)
  | store question _ ih => exact .store question ih
  | queue question _ ih => exact .queue question ih

theorem askStoreFor {c : StoreCall} {next : c.Value → Script (Except JobError β)}
    (question : c.isQuestion = true) (later : ∀ v, (next v).Asks) :
    (Script.askStoreFor c next).Asks := by
  refine .store question fun r => ?_
  cases r with
  | ok v => exact later v
  | error e => exact .done _

end Asks

/-- A changed result is the result changed. -/
theorem run_map {ω : Type} (b : Backend ω) (f : α → β) (s : Script α) (w : ω) :
    (s.map f).run b w = (f (s.run b w).1, (s.run b w).2) := by
  induction s generalizing w with
  | done a => rfl
  | store c next ih => exact ih _ _
  | queue c next ih => exact ih _ _

end Script

namespace Service

variable (m : Moment) (s : Store) (q : LeaseQueue)

/-- A job that was not there before is entered in the ready list. -/
theorem run_create (draft : Draft) :
    (create draft).run (.memory m) (s, q) =
      match s.create draft m.fresh m.now with
      | .error e => (.error e.toJob, s, q)
      | .ok ((j, found), t) => (.ok (j, found), t, if found then q else q.enqueue j.id) := by
  cases hcomplete : draft.isComplete with
  | false =>
    rw [create_incomplete hcomplete, Store.create_incomplete hcomplete]
    rfl
  | true =>
    cases hs : s.create draft m.fresh m.now with
    | error e =>
      have hanswer : s.perform m (.create draft) = (.error e, s) := congrArg s.settle hs
      unfold create
      rw [Draft.validate_of_complete hcomplete]
      simp only [Script.askStoreFor, Script.run, Script.Backend.memory, hanswer]
    | ok r =>
      obtain ⟨⟨j, found⟩, t⟩ := r
      have hanswer : s.perform m (.create draft) = (.ok (j, found), t) := congrArg s.settle hs
      cases found with
      | true => exact create_found hcomplete hanswer q
      | false => exact create_new hcomplete hanswer q

/-- A cancelled job has no entry and no lease any more. -/
theorem run_cancel (id : JobId) :
    (cancel id).run (.memory m) (s, q) =
      match s.cancel id cancelReason m.now with
      | .error e => (.error e.toJob, s, q)
      | .ok (j, t) => (.ok j, t, (q.remove id).2.release id) := by
  show (Script.askStoreFor (.cancel id cancelReason) _).run _ _ = _
  have hanswer : s.perform m (.cancel id cancelReason) =
      s.settle (s.cancel id cancelReason m.now) := rfl
  simp only [Script.askStoreFor, Script.run, Script.Backend.memory, hanswer]
  cases s.cancel id cancelReason m.now with
  | error e => rfl
  | ok r => rfl

/-- A job that waits again is entered in the ready list in place of all the entries it had. -/
theorem run_retry (id : JobId) :
    (retry id).run (.memory m) (s, q) =
      match s.retry id m.now with
      | .error e => (.error e.toJob, s, q)
      | .ok (j, t) => (.ok j, t, (q.remove id).2.enqueue id) := by
  show (Script.askStoreFor (.retry id) _).run _ _ = _
  have hanswer : s.perform m (.retry id) = s.settle (s.retry id m.now) := rfl
  simp only [Script.askStoreFor, Script.run, Script.Backend.memory, hanswer]
  cases s.retry id m.now with
  | error e => rfl
  | ok r => rfl

end Service

/-! ## Changes about one job -/

/-- What differs is about one job: all other jobs are untouched, with their entries in the ready
list and their leases, and so are the reports of the workers. -/
structure Spared (id : JobId) (before after : Store × LeaseQueue) : Prop where
  jobs : ∀ other, other ≠ id → before.1.Untouched other after.1
  ready : after.2.ready.filter (· ≠ id) = before.2.ready.filter (· ≠ id)
  leases : ∀ other, other ≠ id → after.2.leases.get? other = before.2.leases.get? other
  workers : after.1.workers = before.1.workers

/-- A job had another status before and has the given one now. -/
def Moves (status : JobStatus) (id : JobId) (before after : Store × LeaseQueue) : Prop :=
  ∃ j k, before.1.jobs.get? id = some j ∧ after.1.jobs.get? id = some k ∧ j.status ≠ status ∧
    k.status = status

section Turns

variable {s t : Store} {q p : LeaseQueue} {now : Time} {d : Store.Deed} {j : Job}

/-- A turn spares all other jobs, if the queue does. -/
theorem Store.Turn.spared (turn : Turn now s d j t) (h : s.Orderly)
    (ready : p.ready.filter (· ≠ j.id) = q.ready.filter (· ≠ j.id))
    (leases : ∀ other, other ≠ j.id → p.leases.get? other = q.leases.get? other) :
    Spared j.id (s, q) (t, p) where
  jobs _ hother := turn.untouched h (Ne.symm hother)
  ready := ready
  leases := leases
  workers := turn.workers_eq

/-- A cancellation moves the job. -/
theorem Store.Turn.moves_cancelled (turn : Turn now s d j t) (hd : d.kind = .cancelled) :
    Moves .cancelled j.id (s, q) (t, p) := by
  rcases turn.found with ⟨rfl, -⟩ | ⟨k, stored, step, -⟩
  · cases hd
  · refine ⟨k, j, stored, by simp [turn.get?_jobs], ?_⟩
    rw [hd] at step
    generalize k.status = old at step ⊢
    generalize j.status = new at step ⊢
    cases step <;> exact ⟨by decide, rfl⟩

/-- A retry moves the job. -/
theorem Store.Turn.moves_retried (turn : Turn now s .retried j t) :
    Moves .queued j.id (s, q) (t, p) := by
  rcases turn.found with ⟨hd, -⟩ | ⟨k, stored, step, -⟩
  · cases hd
  · refine ⟨k, j, stored, by simp [turn.get?_jobs], ?_⟩
    change Life.Step _ .retryScheduled _ at step
    generalize k.status = old at step ⊢
    generalize j.status = new at step ⊢
    cases step <;> exact ⟨by decide, rfl⟩

end Turns

namespace LeaseQueue

variable (q : LeaseQueue) (id : JobId)

end LeaseQueue

end Dispatch
