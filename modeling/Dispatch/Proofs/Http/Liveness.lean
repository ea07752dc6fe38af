import Dispatch.Proofs.Http.Answer
import Dispatch.Proofs.Store.Reclaim

/-!
# Who is alive

Two places ask whether a report is recent enough.  The view of a worker takes the age of its report
and compares it with the grace; a return of orphans takes the instant that lies the grace back and
compares the report with that.  Each has a rule of its own for what cannot be represented: the view
lets a hundred years stand for a grace beyond the longest one, and the cutoff is the first instant
of the calendar where there is no instant so far back.

Reports bear the time of a clock (`Store.Stamped`), and on such reports both come down to one
comparison of exact numbers (`Heartbeat.isLive_iff`, `Store.staleCutoff_lt_iff`).  So a view shows a
worker as live just where its report vouches for its job, and the jobs that are sent back to waiting
can be read off the views (`Http.agree_afterAll`).
-/

namespace Dispatch

variable {s : Store} {h : Heartbeat} {now seen : Time} {staleAfter : Span} {id : JobId}

/-! ## Ages -/

/-- A report is live while it is younger than the grace. -/
theorem Heartbeat.isLive_iff (stamp : h.seenAt = (seen : Timestamp)) {grace : Int} :
    h.isLive now grace = true ↔ now.nanos - seen.nanos < grace := by
  rw [isLive, decide_eq_true_eq, stamp, Timestamp.since_ofTime]

namespace Store

/-- An instant of the calendar is later than the cutoff if it is younger than the grace. -/
theorem staleCutoff_lt_iff (started : Time.earliest < seen) :
    staleCutoff now staleAfter < seen ↔ now.nanos - seen.nanos < staleAfter.nanos := by
  have hstarted : Time.earliest.nanos < seen.nanos := started
  show max Time.earliest.nanos (now.nanos - staleAfter.nanos) < seen.nanos ↔ _
  omega

/-! ## The clock on reports -/

/-- Reports bear the time of a clock. -/
def Stamped (s : Store) : Prop :=
  ∀ worker h, s.workers.get? worker = some h → ∃ seen : Time, h.seenAt = seen

theorem Stamped.perform (orderly : s.Orderly) (stamped : s.Stamped) (m : Moment) (c : StoreCall) :
    (s.perform m c).2.Stamped := by
  intro worker row hrow
  by_cases hreporter : c.reporter = some worker
  · cases c with
    | beat reporter state running concurrency =>
      cases hreporter
      change (s.workers.set worker _).get? worker = some row at hrow
      rw [Table.get?_set, if_pos rfl] at hrow
      cases hrow
      exact ⟨m.now, rfl⟩
    | _ => cases hreporter
  · rw [workers_perform orderly m hreporter] at hrow
    exact stamped worker row hrow

theorem Stamped.afterAll (orderly : s.Orderly) (stamped : s.Stamped)
    (calls : List (Moment × StoreCall)) : (s.afterAll calls).Stamped := by
  induction calls generalizing s with
  | nil => exact stamped
  | cons call rest ih => exact ih (orderly.perform call.1 call.2) (stamped.perform orderly _ _)

theorem mem_listWorkers : h ∈ s.listWorkers ↔ ∃ worker, s.workers.get? worker = some h := by
  rw [listWorkers, List.mem_mergeSort, Table.mem_rows]

/-! ## Vouching -/

/-- The store with one report and no others. -/
def heedingOnly (s : Store) (h : Heartbeat) : Store :=
  { s with workers := Table.empty.set h.worker h }

/-- A report vouches for the job that it names if it is later than the cutoff. -/
theorem isVouchedFor_heedingOnly (runs : h.running = some id) {cutoff : Time} :
    (s.heedingOnly h).isVouchedFor cutoff id = true ↔ (cutoff : Timestamp) < h.seenAt := by
  have hrows : (s.heedingOnly h).workers.rows = [h] := rfl
  rw [isVouchedFor, hrows]
  simp [runs]

end Store

namespace Http

/-! ## Views -/

/-- The view and the cutoff are about the same report: it is later than the first instant of the
calendar and, where the grace is beyond the longest one, less than a hundred years old. -/
def Comparable (staleAfter : Span) (now : Time) (h : Heartbeat) : Prop :=
  (Time.earliest : Timestamp) < h.seenAt ∧
    (staleAfter ≤ longestGrace ∨ (now : Timestamp).since h.seenAt < 36500 * 86400 * 1000000000)

instance : Decidable (Comparable staleAfter now h) := inferInstanceAs (Decidable (_ ∧ _))

/-- The grace of a view is the stale time as far as it matters. -/
theorem lt_graceOf_iff {age : Int}
    (short : staleAfter ≤ longestGrace ∨ age < 36500 * 86400 * 1000000000) :
    age < graceOf staleAfter ↔ age < staleAfter.nanos := by
  unfold graceOf
  split
  · exact Iff.rfl
  · rename_i hlong
    have hyoung : age < 36500 * 86400 * 1000000000 := short.resolve_left hlong
    have hbeyond : longestGrace.nanos < staleAfter.nanos := Nat.lt_of_not_le hlong
    have hlongest : longestGrace.nanos = 9223372036854775807 * 1000000 := rfl
    -- the longest grace is more than a hundred years
    omega

/-- A report that can be compared is shown as live if it is later than the cutoff. -/
theorem isLive_iff_staleCutoff_lt (stamp : h.seenAt = (seen : Timestamp))
    (comparable : Comparable staleAfter now h) :
    h.isLive now (graceOf staleAfter) = true ↔
      (Store.staleCutoff now staleAfter : Timestamp) < h.seenAt := by
  obtain ⟨hstarted, hshort⟩ := comparable
  rw [stamp, Timestamp.ofTime_lt_ofTime] at hstarted
  rw [stamp, Timestamp.since_ofTime] at hshort
  rw [Heartbeat.isLive_iff stamp, lt_graceOf_iff hshort, stamp, Timestamp.ofTime_lt_ofTime,
    Store.staleCutoff_lt_iff hstarted]

theorem mem_workerViews {v : WorkerView} {hs : List Heartbeat} :
    v ∈ workerViews staleAfter now hs ↔
      v.heartbeat ∈ hs ∧ v.live = v.heartbeat.isLive now (graceOf staleAfter) := by
  obtain ⟨heartbeat, live⟩ := v
  simp only [workerViews, List.mem_map, WorkerView.mk.injEq]
  constructor
  · rintro ⟨h, hmem, rfl, rfl⟩
    exact ⟨hmem, rfl⟩
  · rintro ⟨hmem, rfl⟩
    exact ⟨heartbeat, hmem, rfl, rfl⟩

/-- Who asks for the workers gets the views of their last reports. -/
theorem App.serve_workers {r : Request} (h : r.Asks "GET" "/v1/workers".toList)
    (u : Surroundings) (m : Moment) (s : Store) (q : LeaseQueue) :
    ((App.serve u r).run (.memory m) (s, q)).1 = App.sent u r (App.listed "workers"
      WorkerView.toJson (workerViews u.staleAfter u.now s.listWorkers)) := by
  have hresource : Resource.ofPath? "/v1/workers".toList = some .workers := by decide
  have haction : App.actionOf r = .ok .listWorkers := by
    unfold App.actionOf
    rw [h.2, hresource, h.1]
    rfl
  rw [App.serve_of_action haction]
  rfl

/-- Whatever has happened to a store, at every time and for every grace: a worker is shown as live
just where its report vouches for its job, and the jobs that are sent back to waiting are those that
have been running since the cutoff and that no worker who is shown as live says that it runs. -/
theorem agree_afterAll (calls : List (Moment × StoreCall)) (now : Time) (staleAfter : Span) :
    let s := Store.empty.afterAll calls
    let cutoff := Store.staleCutoff now staleAfter
    let views := workerViews staleAfter now s.listWorkers
    (∀ v ∈ views, Comparable staleAfter now v.heartbeat → ∀ id, v.heartbeat.running = some id →
      (v.live = true ↔ (s.heedingOnly v.heartbeat).isVouchedFor cutoff id = true)) ∧
    ∀ id, (∀ v ∈ views, v.heartbeat.running = some id → Comparable staleAfter now v.heartbeat) →
      (id ∈ (s.requeueOrphaned staleAfter now).1.map (·.id) ↔
        ∃ j, s.jobs.get? id = some j ∧ j.status = .running ∧
          (∃ t, j.startedAt = some t ∧ t ≤ (cutoff : Timestamp)) ∧
          ∀ v ∈ views, v.heartbeat.running = some id → v.live = false) := by
  intro s cutoff views
  have use : s.InUse := .afterAll calls
  have stamped : s.Stamped :=
    .afterAll .empty (fun worker h hrow => by cases hrow) calls
  have hlive : ∀ v ∈ views, Comparable staleAfter now v.heartbeat →
      (v.live = true ↔ (cutoff : Timestamp) < v.heartbeat.seenAt) := by
    intro v hv comparable
    obtain ⟨hmem, hflag⟩ := mem_workerViews.1 hv
    obtain ⟨worker, hrow⟩ := Store.mem_listWorkers.1 hmem
    obtain ⟨seen, stamp⟩ := stamped worker v.heartbeat hrow
    rw [hflag]
    exact isLive_iff_staleCutoff_lt stamp comparable
  constructor
  · intro v hv comparable id runs
    rw [hlive v hv comparable, Store.isVouchedFor_heedingOnly runs]
  · intro id comparable
    rw [(use.reclaims staleAfter now).selected]
    constructor
    · rintro ⟨j, rfl, habandoned⟩
      refine ⟨j, habandoned.stored, habandoned.running, habandoned.started, ?_⟩
      intro v hv runs
      obtain ⟨worker, hrow⟩ := Store.mem_listWorkers.1 (mem_workerViews.1 hv).1
      rw [← Bool.not_eq_true, hlive v hv (comparable v hv runs)]
      exact habandoned.unvouched worker v.heartbeat hrow runs
    · rintro ⟨j, hstored, hrunning, hstarted, hsilent⟩
      obtain rfl : j.id = id := use.orderly.filed id j hstored
      refine ⟨j, rfl, hstored, hrunning, hstarted, ?_⟩
      intro worker h hrow runs hyoung
      -- the report has a view, which is live because the report is young
      have hv : (⟨h, h.isLive now (graceOf staleAfter)⟩ : WorkerView) ∈ views :=
        mem_workerViews.2 ⟨Store.mem_listWorkers.2 ⟨worker, hrow⟩, rfl⟩
      have hdead := hsilent _ hv runs
      rw [(hlive _ hv (comparable _ hv runs)).2 hyoung] at hdead
      cases hdead

/-- Nine seconds after the report of the first worker no view says that its job is at work, and it
is sent back; the report of the second worker is younger and vouches for its job. -/
theorem agree_threeAtWork :
    let s := Store.empty.afterAll Store.threeAtWork
    let now : Time := ⟨11000000000⟩
    let cutoff := Store.staleCutoff now (.ofSeconds 9)
    let views := workerViews (.ofSeconds 9) now s.listWorkers
    let job (n : Nat) : JobId := (FreshIds.numbered 0 n).job
    (∀ v ∈ views, Comparable (.ofSeconds 9) now v.heartbeat ∧
      (v.live = true ↔ v.heartbeat.running = some (job 2))) ∧
    job 1 ∈ (s.requeueOrphaned (.ofSeconds 9) now).1.map (·.id) ∧
    ∀ v ∈ views, v.heartbeat.running = some (job 2) →
      (s.heedingOnly v.heartbeat).isVouchedFor cutoff (job 2) = true := by
  intro s now cutoff views job
  have hrows : ∀ h ∈ s.workers.rows, Comparable (.ofSeconds 9) now h ∧
      (h.isLive now (graceOf (.ofSeconds 9)) = true ↔ h.running = some (job 2)) := by
    decide +kernel
  have hviews : ∀ v ∈ views, Comparable (.ofSeconds 9) now v.heartbeat ∧
      (v.live = true ↔ v.heartbeat.running = some (job 2)) := by
    intro v hv
    obtain ⟨hmem, hflag⟩ := mem_workerViews.1 hv
    rw [hflag]
    exact hrows _ (List.mem_mergeSort.1 hmem)
  obtain ⟨hvouch, hback⟩ := agree_afterAll Store.threeAtWork now (.ofSeconds 9)
  refine ⟨hviews, ?_, ?_⟩
  · apply (hback (job 1) fun v hv _ => (hviews v hv).1).2
    have hstored : ∃ j ∈ s.jobs.get? (job 1), j.status = .running ∧
        ∃ t ∈ j.startedAt, t ≤ (cutoff : Timestamp) := by decide +kernel
    obtain ⟨j, hj, hrunning, t, ht, hold⟩ := hstored
    refine ⟨j, hj, hrunning, ⟨t, ht, hold⟩, ?_⟩
    intro v hv runs
    rw [← Bool.not_eq_true, (hviews v hv).2, runs]
    decide +kernel
  · intro v hv runs
    exact (hvouch v hv (hviews v hv).1 (job 2) runs).1 ((hviews v hv).2.2 runs)

end Http

end Dispatch
