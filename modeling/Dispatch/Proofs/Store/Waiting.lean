import Dispatch.Proofs.Store.Replay

/-!
# Since when jobs wait

A job is called to the ready list when it is created and when it is retried, and the log says when
that was last.  `Store.calledAt` is the number of that entry, and `Store.CalledBefore` the order
of jobs by these numbers.  A turn calls its own job after all the others, or it calls nobody
(`Turn.calledAt_eq`).
-/

namespace Dispatch

/-- What the entry tells has called the job to the ready list. -/
def Event.isCall (e : Event) : Bool := e.is .created || e.is .retryScheduled

/-- Jobs are called by events of the kind. -/
def EventKind.isCall : EventKind → Bool
  | created | retryScheduled => true
  | _ => false

theorem Event.isCall_iff {e : Event} {kind : EventKind} (tagged : e.tag = kind.tag) :
    e.isCall = kind.isCall := by
  have his (k : EventKind) : e.is k = decide (kind = k) := by
    rw [Event.is, tagged, decide_eq_decide, EventKind.tag_inj]
  rw [isCall, his, his]
  cases kind <;> rfl

/-- The status in which events of the kind leave a job. -/
def EventKind.status : EventKind → JobStatus
  | created | retryScheduled | requeued => .queued
  | started => .running
  | succeeded => .succeeded
  | failed => .failed
  | cancelled => .cancelled

namespace Life.Step

variable {before : Option JobStatus} {kind : EventKind} {after : JobStatus}

theorem status_eq (h : Life.Step before kind after) : after = kind.status := by
  cases h <;> rfl

/-- Who is called did not wait before. -/
theorem ne_queued (h : Life.Step before kind after) (calls : kind.isCall = true) :
    before ≠ some .queued := by
  cases h <;> first | decide | cases calls

end Life.Step

theorem EventKind.status_of_isCall {kind : EventKind} (calls : kind.isCall = true) :
    kind.status = .queued := by
  cases kind <;> first | rfl | cases calls

namespace Store

variable {s s' : Store} {now : Time} {d : Deed} {after : Job} {id a b c : JobId}

namespace Turn

theorem status_eq (t : Turn now s d after s') : after.status = d.kind.status := t.step.status_eq

/-- The job that a turn calls did not wait before. -/
theorem ne_queued (t : Turn now s d after s') (calls : d.kind.isCall = true) {j : Job}
    (stored : s.jobs.get? after.id = some j) : j.status ≠ .queued := by
  intro hqueued
  refine t.step.ne_queued calls ?_
  rw [stored, Option.map_some, hqueued]

end Turn

/-- The number of the entry with which the job was last called. -/
def calledAt (s : Store) (id : JobId) : Option Int :=
  ((s.eventsOf id).filter (·.isCall)).getLast?.map (·.id)

/-- The job was last called before the other one was. -/
def CalledBefore (s : Store) (a b : JobId) : Prop :=
  ∃ m n, s.calledAt a = some m ∧ s.calledAt b = some n ∧ m < n

theorem CalledBefore.ne (h : s.CalledBefore a b) : a ≠ b := by
  rintro rfl
  obtain ⟨m, n, hm, hn, hlt⟩ := h
  rw [hm, Option.some.injEq] at hn
  omega

theorem CalledBefore.congr (ha : s'.calledAt a = s.calledAt a) (hb : s'.calledAt b = s.calledAt b)
    (h : s.CalledBefore a b) : s'.CalledBefore a b := by
  unfold CalledBefore
  rwa [ha, hb]

/-- A turn that calls its job calls it last. -/
theorem Turn.calledAt_eq (t : Turn now s d after s') (id : JobId) :
    s'.calledAt id =
      if after.id = id ∧ d.kind.isCall = true then some ((s.events.length : Int) + 1)
      else s.calledAt id := by
  have hentry : (s.entry d.kind after.id d.worker d.note now).isCall = d.kind.isCall :=
    Event.isCall_iff rfl
  unfold calledAt
  rw [Chronicle.eventsOf_turn t, List.filter_append]
  by_cases hid : after.id = id
  · subst hid
    cases hcall : d.kind.isCall with
    | true =>
      rw [hcall] at hentry
      rw [if_pos rfl, List.filter_cons_of_pos hentry, List.filter_nil, List.getLast?_concat,
        if_pos ⟨rfl, rfl⟩]
      rfl
    | false => simp [hentry, hcall]
  · simp [hid]

/-- Every job was called, and not after the end of the log. -/
def Called (s : Store) : Prop :=
  ∀ id j, s.jobs.get? id = some j → ∃ n, s.calledAt id = some n ∧ n ≤ s.events.length

namespace Called

theorem empty : Store.empty.Called := fun _ _ hj => by cases hj

theorem turn (t : Turn now s d after s') (h : s.Called) : s'.Called := by
  intro id j hj
  have hlength : s'.events.length = s.events.length + 1 := by
    rw [t.events_eq, List.length_append, List.length_singleton]
  rw [t.calledAt_eq, hlength]
  split
  · exact ⟨_, rfl, by omega⟩
  · rename_i hother
    have hold : ∃ j, s.jobs.get? id = some j := by
      rw [t.get?_jobs] at hj
      split at hj
      · rename_i hid
        rcases t.found with ⟨rfl, -⟩ | ⟨j, stored, -⟩
        · exact absurd ⟨hid, rfl⟩ hother
        · exact ⟨j, hid ▸ stored⟩
      · exact ⟨j, hj⟩
    obtain ⟨old, stored⟩ := hold
    obtain ⟨n, hn, hle⟩ := h id old stored
    exact ⟨n, hn, by omega⟩

theorem perform (h : s.Called) (orderly : s.Orderly) (m : Moment) (call : StoreCall) :
    (s.perform m call).2.Called := by
  refine (kept_by_perform (P := Called) orderly m call (fun _ change hcalled => ?_) h).2
  cases change with
  | turn t => exact hcalled.turn t
  | report workers => exact hcalled

/-- The job that a turn calls is called after all the others. -/
theorem before (t : Turn now s d after s') (h : s.Called) {other : Job}
    (stored : s.jobs.get? id = some other) (hother : after.id ≠ id)
    (calls : d.kind.isCall = true) : s'.CalledBefore id after.id := by
  obtain ⟨n, hn, hle⟩ := h id other stored
  refine ⟨n, _, ?_, by rw [t.calledAt_eq, if_pos ⟨rfl, calls⟩], by omega⟩
  rw [t.calledAt_eq, if_neg fun hboth => hother hboth.1, hn]

end Called

end Store

end Dispatch
