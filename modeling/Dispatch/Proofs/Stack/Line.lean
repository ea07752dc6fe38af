import Dispatch.Proofs.Stack.Basic
import Dispatch.Proofs.Store.Waiting

/-!
# The line

As long as one thing is done after the other, the ready list is the line of the jobs that wait:
each of them stands in it once, in the order in which they were called, and nobody runs or is held
(`InLine`).  A job that is called joins the line at its end (`InLine.join`), and a job that is
cancelled or served leaves it where it stood (`InLine.leave`).
-/

namespace Dispatch

namespace Store

variable {s t u : Store} {now : Time} {d : Deed} {after j : Job} {id : JobId}

/-- Apart from the row of one job the second store has the jobs of the first, and nobody was called
between them. -/
structure Apart (s t : Store) (id : JobId) (j : Job) : Prop where
  orderly : t.Orderly
  called : t.Called
  row : t.jobs.get? id = some j
  others : ∀ other, id ≠ other → t.jobs.get? other = s.jobs.get? other
  calls : ∀ other, t.calledAt other = s.calledAt other

namespace Apart

/-- A turn that calls nobody. -/
theorem of_turn (orderly : s.Orderly) (called : s.Called) (turn : Turn now s d after t)
    (quiet : d.kind.isCall = false) : Apart s t after.id after where
  orderly := turn.orderly orderly
  called := called.turn turn
  row := by rw [turn.get?_jobs, if_pos rfl]
  others other hother := by rw [turn.get?_jobs, if_neg hother]
  calls other := by rw [turn.calledAt_eq, quiet, if_neg (by simp)]

/-- Another turn of the same job. -/
theorem turn (h : Apart s t id j) (turn : Turn now t d after u) (same : after.id = id)
    (quiet : d.kind.isCall = false) : Apart s u id after := by
  subst same
  have hlast := of_turn h.orderly h.called turn quiet
  exact
    { orderly := hlast.orderly
      called := hlast.called
      row := hlast.row
      others := fun other hother => (hlast.others other hother).trans (h.others other hother)
      calls := fun other => (hlast.calls other).trans (h.calls other) }

/-- A report is not about jobs. -/
theorem beat (h : Apart s t id j) (worker : WorkerId) (state : WorkerState)
    (running : Option JobId) (concurrency : Int) (now : Time) :
    Apart s (t.beat worker state running concurrency now) id j :=
  ⟨⟨h.orderly.filed, h.orderly.named, h.orderly.lively, h.orderly.rowed⟩, h.called, h.row,
    h.others, h.calls⟩

end Apart

end Store

/-- The ready list is the line of the jobs that wait, nobody runs, and nobody is held. -/
structure InLine (s : Store) (q : LeaseQueue) : Prop where
  orderly : s.Orderly
  called : s.Called
  /-- No job runs. -/
  still : ∀ id j, s.jobs.get? id = some j → j.status ≠ .running
  /-- Who waits is on the ready list, and nobody else is. -/
  waits : ∀ id, id ∈ q.ready ↔ ∃ j, s.jobs.get? id = some j ∧ j.status = .queued
  /-- From the end at which entries leave on, jobs stand in the order in which they were called. -/
  ordered : q.ready.reverse.Pairwise s.CalledBefore
  /-- There are no leases. -/
  free : ∀ id, q.leases.get? id = none

namespace InLine

variable {s t : Store} {q q' : LeaseQueue} {now : Time} {d : Store.Deed} {after j : Job}
  {id : JobId}

theorem opened (ttl : Span) : InLine .empty { ttl } where
  orderly := .empty
  called := .empty
  still id j hj := by cases hj
  waits id := by simp [Store.empty]
  ordered := .nil
  free _ := rfl

/-- Nobody stands in line twice. -/
theorem once (h : InLine s q) : q.ready.Nodup :=
  List.nodup_reverse.1 (h.ordered.imp Store.CalledBefore.ne)

/-- A job that is called joins the line at its end. -/
theorem join (h : InLine s q) (turn : s.Turn now d after t) (calls : d.kind.isCall = true)
    (ready : q'.ready = after.id :: q.ready) (free : ∀ id, q'.leases.get? id = none) :
    InLine t q' where
  orderly := turn.orderly h.orderly
  called := h.called.turn turn
  still id j hj := by
    rw [turn.get?_jobs] at hj
    split at hj
    · cases hj
      rw [turn.status_eq, EventKind.status_of_isCall calls]
      decide
    · exact h.still id j hj
  waits id := by
    rw [ready, List.mem_cons, turn.get?_jobs, h.waits]
    by_cases hid : after.id = id
    · simp [hid, turn.status_eq, EventKind.status_of_isCall calls]
    · simp [hid, Ne.symm hid]
  ordered := by
    -- the others wait, so the job that is called is none of them, and their calls stay as they are
    have hothers : ∀ other ∈ q.ready, after.id ≠ other ∧
        ∃ k, s.jobs.get? other = some k := by
      intro other hother
      obtain ⟨k, hk, hqueued⟩ := (h.waits other).1 hother
      exact ⟨fun hid => turn.ne_queued calls (hid ▸ hk) hqueued, k, hk⟩
    have hsame : ∀ other ∈ q.ready, t.calledAt other = s.calledAt other := fun other hother => by
      rw [turn.calledAt_eq, if_neg fun hboth => (hothers other hother).1 hboth.1]
    rw [ready, List.reverse_cons, List.pairwise_append]
    refine ⟨?_, List.pairwise_singleton _ _, fun a ha b hb => ?_⟩
    · refine h.ordered.imp_of_mem fun {a b} ha hb hbefore => ?_
      exact hbefore.congr (hsame a (List.mem_reverse.1 ha)) (hsame b (List.mem_reverse.1 hb))
    · obtain rfl := List.mem_singleton.1 hb
      obtain ⟨hne, k, hk⟩ := hothers a (List.mem_reverse.1 ha)
      exact Store.Called.before turn h.called hk hne calls
  free := free

/-- A job that waits and runs no more leaves the line, and the others stand as they stood. -/
theorem leave (h : InLine s q) (apart : s.Apart t id j)
    (rests : j.status ≠ .queued ∧ j.status ≠ .running) (others : q'.ready.Sublist q.ready)
    (left : ∀ other, other ∈ q'.ready ↔ id ≠ other ∧ other ∈ q.ready)
    (free : ∀ id, q'.leases.get? id = none) : InLine t q' where
  orderly := apart.orderly
  called := apart.called
  still other k hk := by
    by_cases hid : id = other
    · subst hid
      cases apart.row.symm.trans hk
      exact rests.2
    · exact h.still other k (apart.others other hid ▸ hk)
  waits other := by
    rw [left, h.waits]
    by_cases hid : id = other
    · subst hid
      simp [apart.row, rests.1]
    · simp [hid, apart.others other hid]
  ordered := (h.ordered.sublist others.reverse).imp fun {a b} hbefore =>
    hbefore.congr (apart.calls a) (apart.calls b)
  free := free

end InLine

/-! ## Calls of the service -/

namespace Stack

variable {x y : Stack} {id : JobId}

theorem inLine_created {draft : Draft} {result : Except JobError (Job × Bool)}
    (h : InLine x.store x.queue) (runs : x.Runs (Service.create draft) y result) :
    InLine y.store y.queue := by
  unfold Service.create at runs
  split at runs
  · obtain ⟨-, hstore, hqueue⟩ := runs.done_inv
    rwa [hstore, hqueue]
  rcases runs.settled_inv (fun m => x.store.create draft m.fresh m.now) fun _ => rfl with
    ⟨hstore, hqueue⟩ | ⟨m, ⟨job, found⟩, t, hcreated, runs⟩
  · rwa [hstore, hqueue]
  rcases Store.create_turn hcreated with ⟨rfl, rfl⟩ | ⟨rfl, turn⟩
  · obtain ⟨-, hstore, hqueue⟩ := runs.done_inv
    rwa [hstore, hqueue]
  · obtain ⟨now, runs⟩ := runs.queue_inv
    obtain ⟨-, hstore, hqueue⟩ := runs.done_inv
    rw [hstore, hqueue]
    exact h.join turn rfl rfl h.free

theorem inLine_cancelled {result : Except JobError Job} (h : InLine x.store x.queue)
    (runs : x.Runs (Service.cancel id) y result) : InLine y.store y.queue := by
  rcases runs.settled_inv (fun m => x.store.cancel id Service.cancelReason m.now) fun _ => rfl with
    ⟨hstore, hqueue⟩ | ⟨m, job, t, hcancelled, runs⟩
  · rwa [hstore, hqueue]
  obtain ⟨now, runs⟩ := runs.queue_inv
  obtain ⟨later, runs⟩ := runs.queue_inv
  obtain ⟨-, hstore, hqueue⟩ := runs.done_inv
  obtain ⟨hid, d, hd, turn⟩ := Store.cancel_turn h.orderly hcancelled
  rw [hstore, hqueue, ← hid]
  have hkind : d.kind = .cancelled := by rcases hd with rfl | rfl <;> rfl
  refine h.leave (.of_turn h.orderly h.called turn (by rw [hkind]; rfl)) ?_ List.filter_sublist
    (fun other => ?_) fun other => ?_
  · rw [turn.status_eq, hkind]
    decide
  · show other ∈ x.queue.ready.filter (· ≠ job.id) ↔ _
    rw [List.mem_filter, decide_eq_true_eq, and_comm, ne_comm]
  · show (x.queue.leases.erase job.id).get? other = none
    rw [Table.get?_erase, h.free, ite_self]

theorem inLine_retried {result : Except JobError Job} (h : InLine x.store x.queue)
    (runs : x.Runs (Service.retry id) y result) : InLine y.store y.queue := by
  rcases runs.settled_inv (fun m => x.store.retry id m.now) fun _ => rfl with
    ⟨hstore, hqueue⟩ | ⟨m, job, t, hretried, runs⟩
  · rwa [hstore, hqueue]
  obtain ⟨now, runs⟩ := runs.queue_inv
  obtain ⟨later, runs⟩ := runs.queue_inv
  obtain ⟨-, hstore, hqueue⟩ := runs.done_inv
  obtain ⟨hid, turn⟩ := Store.retry_turn h.orderly hretried
  rw [hstore, hqueue, ← hid]
  have habsent : job.id ∉ x.queue.ready := by
    intro hmem
    obtain ⟨j, hj, hqueued⟩ := (h.waits job.id).1 hmem
    exact turn.ne_queued rfl hj hqueued
  -- the job is on the ready list once because it was not on it before
  refine h.join turn rfl (congrArg (job.id :: ·) (List.filter_eq_self.2 fun other hother => ?_))
    h.free
  exact decide_eq_true fun hsame => habsent (hsame ▸ hother)

end Stack

end Dispatch
