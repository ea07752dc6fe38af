import Dispatch.Proofs.Store.Change

/-!
# Who is not an orphan

The store takes a running job for lost if the job started before a cutoff and no worker has reported
since that it runs the job.  So there are two reasons why a job is not lost: it has just started
(`not_requeued_of_startedAt`), or a worker vouches for it by a report that is young enough
(`not_requeued_of_vouched`).

A report stands until its worker reports again, whatever else is asked of the store
(`reports_perform`); that a job has just started stays true as long as no time passes
(`startedAt_perform`).
-/

namespace Dispatch.Store

variable {s s' t : Store} {now seen due : Time} {id : JobId} {worker : WorkerId}
  {period staleAfter : Span}

/-- The worker's last report was made at an instant, and it says that the worker runs the job. -/
def Reports (s : Store) (worker : WorkerId) (id : JobId) (seen : Time) : Prop :=
  ∃ h, s.workers.get? worker = some h ∧ h.running = some id ∧ h.seenAt = (seen : Timestamp)

/-- The job started last at an instant. -/
def StartedAt (s : Store) (id : JobId) (now : Time) : Prop :=
  ∃ j, s.jobs.get? id = some j ∧ j.startedAt = some (now : Timestamp)

/-- The worker's last report vouches for the job, and the next one is due a period later. -/
def Vouched (s : Store) (worker : WorkerId) (id : JobId) (period : Span) (due : Time) : Prop :=
  ∃ seen, Time.earliest < seen ∧ s.Reports worker id seen ∧ due = seen + period

/-! ## The cutoff -/

/-- The cutoff lies before every instant that is less than the grace ago. -/
theorem staleCutoff_lt (started : Time.earliest < seen)
    (young : now.nanos - staleAfter.nanos < seen.nanos) : staleCutoff now staleAfter < seen := by
  have hstarted : Time.earliest.nanos < seen.nanos := started
  show max Time.earliest.nanos (now.nanos - staleAfter.nanos) < seen.nanos
  exact Int.max_lt.2 ⟨hstarted, young⟩

/-- A job that is no orphan is not sent back to waiting. -/
theorem not_requeued (spared : ∀ j ∈ s.jobs.rows, j.id = id →
      s.isOrphan (staleCutoff now staleAfter) j = false) :
    id ∉ (s.requeueOrphaned staleAfter now).1.map (·.id) := by
  intro hmem
  have hfound : id ∈ (s.orphans (staleCutoff now staleAfter)).map (·.id) := by
    simpa [requeueOrphaned, requeuedJob] using hmem
  obtain ⟨j, hj, hid⟩ := List.mem_map.1 hfound
  obtain ⟨hrow, horphan⟩ := mem_orphans.1 hj
  rw [spared j hrow hid] at horphan
  cases horphan

/-- A job that has just started is not lost. -/
theorem not_requeued_of_startedAt (h : s.Orderly) (started : s.StartedAt id now)
    (since : Time.earliest < now) (grace : 0 < staleAfter.nanos) :
    id ∉ (s.requeueOrphaned staleAfter now).1.map (·.id) := by
  apply not_requeued
  intro j hj hid
  obtain ⟨k, hk, hstart⟩ := started
  have hstored := h.get?_of_mem hj
  rw [hid, hk] at hstored
  cases hstored
  have hcutoff : staleCutoff now staleAfter < now := staleCutoff_lt since (by omega)
  have hlater : ¬ (now : Timestamp) ≤ (staleCutoff now staleAfter : Timestamp) := by
    rw [Timestamp.ofTime_le_ofTime]
    exact Int.not_le.2 hcutoff
  simp [isOrphan, hstart, hlater]

/-- A job that a worker vouches for is not lost before the worker's next report is overdue. -/
theorem not_requeued_of_vouched (vouched : s.Vouched worker id period due) (waits : now ≤ due)
    (grace : period < staleAfter) : id ∉ (s.requeueOrphaned staleAfter now).1.map (·.id) := by
  apply not_requeued
  intro j hj hid
  obtain ⟨seen, hsince, ⟨report, hreport, hruns, hseen⟩, rfl⟩ := vouched
  have hcutoff : staleCutoff now staleAfter < seen := by
    apply staleCutoff_lt hsince
    have hwaits : now.nanos ≤ seen.nanos + period.nanos := waits
    have hgrace : period.nanos < staleAfter.nanos := grace
    omega
  have hyoung : (staleCutoff now staleAfter : Timestamp) < report.seenAt := by
    rw [hseen]
    exact Timestamp.ofTime_lt_ofTime.2 hcutoff
  have hvouched : s.isVouchedFor (staleCutoff now staleAfter) j.id = true := by
    refine List.any_eq_true.2 ⟨report, Table.mem_rows.2 ⟨worker, hreport⟩, ?_⟩
    simp [hyoung, hruns, hid]
  simp [isOrphan, hvouched]

/-! ## What calls leave -/

/-- The report of a worker stands until the worker reports again. -/
theorem workers_perform (h : s.Orderly) (m : Moment) {c : StoreCall}
    (other : c.reporter ≠ some worker) :
    (s.perform m c).2.workers.get? worker = s.workers.get? worker := by
  cases hreporter : c.reporter with
  | none =>
    have hturns := perform_turns h m hreporter
    generalize (s.perform m c).2 = t at hturns
    induction hturns with
    | refl => rfl
    | tail _ hturn ih =>
      obtain ⟨d, after, -, turn⟩ := hturn
      rw [turn.workers_eq, ih]
  | some reporter =>
    cases c with
    | beat reporter state running concurrency =>
      show (s.workers.set reporter _).get? worker = _
      rw [Table.get?_set, if_neg]
      rintro rfl
      exact other rfl
    | _ => cases hreporter

theorem reports_perform (h : s.Orderly) (m : Moment) {c : StoreCall}
    (other : c.reporter ≠ some worker) (reports : s.Reports worker id seen) :
    (s.perform m c).2.Reports worker id seen := by
  obtain ⟨report, hreport, hsays⟩ := reports
  exact ⟨report, (workers_perform h m other).trans hreport, hsays⟩

/-- A worker that reports a job vouches for it. -/
theorem vouched_beat (m : Moment) (state : WorkerState) (concurrency : Int)
    (since : Time.earliest < m.now) (period : Span) :
    (s.perform m (.beat worker state (some id) concurrency)).2.Vouched worker id period
      (m.now + period) := by
  have hrow : (s.perform m (.beat worker state (some id) concurrency)).2.workers.get? worker =
      some { worker, seenAt := m.now, state, running := some id, concurrency } := by
    show (s.workers.set worker _).get? worker = _
    rw [Table.get?_set, if_pos rfl]
  exact ⟨m.now, since, ⟨_, hrow, rfl, rfl⟩, rfl⟩

/-- A turn leaves the start of a job, or it is a start. -/
theorem Turn.startedAt_eq {d : Deed} {after j : Job} (turn : Turn now s d after s')
    (stored : s.jobs.get? after.id = some j) :
    after.startedAt = j.startedAt ∨ after.startedAt = some (now : Timestamp) := by
  cases turn with
  | created valid unclaimed unknown => cases unknown.symm.trans stored
  | @started k worker found waiting => exact .inr rfl
  | @succeeded k worker usage found running
  | @failed k worker code message found running
  | @dropped k reason found waiting
  | @stopped k reason found running
  | @retried k found ended
  | @requeued k found running =>
    obtain rfl : k = j := Option.some.inj (found.symm.trans stored)
    exact .inl rfl

/-- As long as no time passes, a job that has just started has just started. -/
theorem startedAt_perform (h : s.Orderly) (m : Moment) (c : StoreCall)
    (started : s.StartedAt id m.now) : (s.perform m c).2.StartedAt id m.now := by
  refine (kept_by_perform (P := fun u => u.StartedAt id m.now) h m c ?_ started).2
  intro a b ha change hstarted
  cases change with
  | report workers => exact hstarted
  | turn turn =>
    obtain ⟨j, hj, hstart⟩ := hstarted
    unfold StartedAt
    simp only [turn.get?_jobs]
    split
    · rename_i hid
      subst hid
      refine ⟨_, rfl, ?_⟩
      rcases turn.startedAt_eq hj with hsame | hnow
      · rw [hsame, hstart]
      · exact hnow
    · exact ⟨j, hj, hstart⟩

/-- A job that is handed out has the identity that was asked for, and it has just started. -/
theorem started_perform (h : s.Orderly) (m : Moment) {job : Job}
    (answer : (s.perform m (.start id worker)).1 = .ok (some job)) :
    job.id = id ∧ (s.perform m (.start id worker)).2.StartedAt job.id m.now := by
  have hstart : (s.start id worker m.now).1 = some job := Except.ok.inj answer
  rcases start_turn h id worker m.now with ⟨hs, -⟩ | ⟨j, u, hs, hid, turn⟩
  · rw [hs] at hstart
    cases hstart
  · rw [hs] at hstart
    cases hstart
    refine ⟨hid, job, ?_, ?_⟩
    · show (s.start id worker m.now).2.jobs.get? job.id = some job
      rw [hs, turn.get?_jobs, if_pos rfl]
    · cases turn with
      | started worker stored waiting => rfl

end Dispatch.Store
