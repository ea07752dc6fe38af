import Dispatch.Proofs.Store.Ledger

/-!
# A job and its latest attempt tell one story

Whoever looks a job up gets its row and the row of its latest attempt.  `Snapshot.Coherent` says
that the two fit the job's status and each other: which of the nullable fields are set, what they
say, and that the times are in order.

A snapshot goes through the turns of a job's life on its own, one lemma for each turn from
`Coherent.created` to `Coherent.requeued`, and a turn of the store does to the snapshot of its job
just that (`Turn.coherent`).  The order of the times rests on a clock that does not go back, so the
invariant of the store, `Told`, says in addition that nothing on record lies in the future.
-/

namespace Dispatch

/-! ## Times on record -/

/-- The attempt began before it ended. -/
def Attempt.Dated (a : Attempt) : Prop := ∀ t, a.finishedAt = some t → a.startedAt ≤ t

namespace Job

/-- The job was created before it started, and it did both before it ended. -/
structure Dated (j : Job) : Prop where
  begun : ∀ t, j.startedAt = some t → j.createdAt ≤ t
  ended : ∀ t, j.finishedAt = some t → j.createdAt ≤ t ∧ ∀ b, j.startedAt = some b → b ≤ t

/-- The job was created, and started if it was, at the instant or before. -/
structure Past (now : Time) (j : Job) : Prop where
  created : j.createdAt ≤ (now : Timestamp)
  started : ∀ t, j.startedAt = some t → t ≤ (now : Timestamp)

variable {j next : Job} {now later : Time}

theorem Past.mono (h : j.Past now) (hle : now ≤ later) : j.Past later := by
  have hlater : (now : Timestamp) ≤ (later : Timestamp) := Timestamp.ofTime_le_ofTime.2 hle
  refine ⟨Timestamp.le_trans h.created hlater, fun t ht => ?_⟩
  exact Timestamp.le_trans (h.started t ht) hlater

/-- A job that ends now ends after it started. -/
theorem Dated.ending (h : j.Dated) (past : j.Past now) (created : next.createdAt = j.createdAt)
    (started : next.startedAt = j.startedAt)
    (finished : next.finishedAt = some (now : Timestamp)) : next.Dated where
  begun := by
    rw [created, started]
    exact h.begun
  ended t ht := by
    rw [finished] at ht
    cases ht
    rw [created, started]
    exact ⟨past.created, past.started⟩

/-- A job that has not ended is in order if it started after it was created. -/
theorem Dated.going (h : j.Dated) (created : next.createdAt = j.createdAt)
    (started : next.startedAt = j.startedAt) (finished : next.finishedAt = none) :
    next.Dated where
  begun := by
    rw [created, started]
    exact h.begun
  ended t ht := by
    rw [finished] at ht
    cases ht

end Job

/-! ## Snapshots -/

namespace Snapshot

/-- The job counts its attempts, and the latest one is the one that it has counted to. -/
structure Numbered (v : Snapshot) : Prop where
  counted : 0 ≤ v.job.attempt
  absent : v.latest = none ↔ v.job.attempt = 0
  named : ∀ a, v.latest = some a → a.job = v.job.id ∧ a.number = v.job.attempt
  started : v.job.startedAt.isSome = true ↔ 1 ≤ v.job.attempt

/-- The rows of a job and of its latest attempt fit the job's status and each other. -/
structure Coherent (v : Snapshot) : Prop extends Numbered v where
  dated : v.job.Dated
  open_iff : ∀ a, v.latest = some a → (a.isOpen = true ↔ v.job.status = .running)
  queued : v.job.status = .queued → v.job.finishedAt = none ∧
    ((v.job.errorCode = none ∧ v.job.errorMessage = none) ∨
      (v.job.errorCode = some .workerLost ∧ v.job.errorMessage = some Store.workerLostNote))
  running : v.job.status = .running → v.job.finishedAt = none ∧ v.job.errorCode = none ∧
    v.job.errorMessage = none ∧
      ∃ a, v.latest = some a ∧ a.isOpen = true ∧ v.job.startedAt = some a.startedAt
  succeeded : v.job.status = .succeeded → v.job.errorCode = none ∧ v.job.errorMessage = none ∧
    ∃ a t, v.latest = some a ∧ a.success = some true ∧ a.finishedAt = some t ∧
      v.job.finishedAt = some t
  failed : v.job.status = .failed → ∃ a t code message, v.latest = some a ∧
    a.success = some false ∧ a.finishedAt = some t ∧ v.job.finishedAt = some t ∧
    a.errorCode = some code ∧ v.job.errorCode = some code ∧
    a.errorMessage = some message ∧ v.job.errorMessage = some message
  cancelled : v.job.status = .cancelled → ∃ t message, v.job.finishedAt = some t ∧
    v.job.errorCode = some .cancelled ∧ v.job.errorMessage = some message ∧
      ∀ a, v.latest = some a → a.isOpen = false

variable {j next : Job} {latest : Option Attempt} {now : Time}

namespace Numbered

/-- The numbers do not depend on anything else that a job's row says. -/
theorem same (h : Numbered ⟨j, latest⟩) (id : next.id = j.id) (attempt : next.attempt = j.attempt)
    (started : next.startedAt = j.startedAt) : Numbered ⟨next, latest⟩ := by
  obtain ⟨hcounted, habsent, hnamed, hstarted⟩ := h
  refine ⟨?_, ?_, ?_, ?_⟩
  · show 0 ≤ next.attempt
    rw [attempt]
    exact hcounted
  · show latest = none ↔ next.attempt = 0
    rw [attempt]
    exact habsent
  · show ∀ a, latest = some a → a.job = next.id ∧ a.number = next.attempt
    rw [id, attempt]
    exact hnamed
  · show next.startedAt.isSome = true ↔ 1 ≤ next.attempt
    rw [started, attempt]
    exact hstarted

/-- A row that is closed keeps its name. -/
theorem closed (h : Numbered ⟨j, latest⟩) (v : Store.Verdict) (now : Time) :
    Numbered ⟨j, latest.map (v.close now)⟩ where
  counted := h.counted
  absent := Option.map_eq_none_iff.trans h.absent
  named a ha := by
    obtain ⟨old, hold, rfl⟩ := Option.map_eq_some_iff.1 ha
    rw [v.close_job, v.close_number]
    exact h.named old hold
  started := h.started

end Numbered

namespace Coherent

/-! ## Turns of a snapshot -/

/-- A job that has just been created has no attempt. -/
theorem created (d : Draft) (ids : FreshIds) (now : Time) :
    Coherent ⟨Job.queued d ids now, none⟩ where
  counted := Int.le_refl 0
  absent := by simp [Job.queued]
  named a ha := by cases ha
  started := by simp [Job.queued]
  dated := ⟨nofun, nofun⟩
  open_iff a ha := by cases ha
  queued _ := ⟨rfl, .inl ⟨rfl, rfl⟩⟩
  running h := by cases h
  succeeded h := by cases h
  failed h := by cases h
  cancelled h := by cases h

/-- The next attempt opens. -/
theorem begun (h : Coherent ⟨j, latest⟩) (past : j.Past now) :
    Coherent ⟨j.begun now, some (.opened j.id (j.begun now).attempt now)⟩ := by
  have hcounted : 0 ≤ j.attempt := h.counted
  have hnext : (j.begun now).attempt = j.attempt + 1 := rfl
  refine
    { counted := ?_, absent := ?_, named := ?_, started := ?_, dated := ?_, open_iff := ?_,
      queued := nofun, running := ?_, succeeded := nofun, failed := nofun, cancelled := nofun }
  · show 0 ≤ (j.begun now).attempt
    omega
  · show some _ = none ↔ (j.begun now).attempt = 0
    simp only [reduceCtorEq, false_iff]
    omega
  · intro a ha
    cases ha
    exact ⟨rfl, rfl⟩
  · show true = true ↔ 1 ≤ (j.begun now).attempt
    simp only [true_iff]
    omega
  · refine ⟨fun t ht => ?_, nofun⟩
    cases ht
    exact past.created
  · intro a ha
    cases ha
    exact iff_of_true rfl rfl
  · intro _
    exact ⟨rfl, rfl, rfl, _, rfl, rfl, rfl⟩

/-- A row that a verdict was passed on is closed. -/
theorem closed_of_close (v : Store.Verdict) :
    ∀ a, latest.map (v.close now) = some a → a.isOpen = false := by
  intro a ha
  obtain ⟨old, -, rfl⟩ := Option.map_eq_some_iff.1 ha
  exact Store.Verdict.isOpen_close

/-- The latest attempt is closed and the job does not run: that fits. -/
theorem shut (closed : ∀ a, latest = some a → a.isOpen = false) (idle : j.status ≠ .running) :
    ∀ a, latest = some a → (a.isOpen = true ↔ j.status = .running) := by
  intro a ha
  simp [closed a ha, idle]

section Ending

variable (h : Coherent ⟨j, latest⟩)
include h

/-- The latest attempt of a job that does not run is closed. -/
theorem closed_of_idle (idle : j.status ≠ .running) :
    ∀ a, latest = some a → a.isOpen = false := by
  intro a ha
  by_contra hopen
  exact idle ((h.open_iff a ha).1 (by simpa using hopen))

/-- The running attempt ends well. -/
theorem completed (running : j.status = .running) (past : j.Past now) (usage : Usage) :
    Coherent ⟨j.completed now, latest.map ((Store.Verdict.done usage).close now)⟩ := by
  have hclosed : ∀ a, latest.map ((Store.Verdict.done usage).close now) = some a →
      a.isOpen = false := closed_of_close _
  obtain ⟨-, -, -, a, rfl, hopen, -⟩ := h.running running
  have hrow : a.succeed usage now = { a with
      finishedAt := some (now : Timestamp), success := some true, errorCode := none
      errorMessage := none, tokens := usage.tokens, cost := usage.cost
      providerMeta := usage.providerMeta } := if_pos hopen
  exact
    { (h.same rfl rfl rfl).closed (.done usage) now with
      dated := h.dated.ending past rfl rfl rfl
      open_iff := shut hclosed nofun
      queued := nofun
      running := nofun
      succeeded := fun _ => ⟨rfl, rfl, _, now, congrArg some hrow, rfl, rfl, rfl⟩
      failed := nofun
      cancelled := nofun }

/-- The running attempt ends badly. -/
theorem broken (running : j.status = .running) (past : j.Past now) (code : FailureCode)
    (message : String) : Coherent ⟨j.broken code message now,
      latest.map ((Store.Verdict.broken code message).close now)⟩ := by
  have hclosed : ∀ a, latest.map ((Store.Verdict.broken code message).close now) = some a →
      a.isOpen = false := closed_of_close _
  obtain ⟨-, -, -, a, rfl, hopen, -⟩ := h.running running
  have hrow : a.fail code message now = { a with
      finishedAt := some (now : Timestamp), success := some false, errorCode := some code
      errorMessage := some message } := if_pos hopen
  exact
    { (h.same rfl rfl rfl).closed (.broken code message) now with
      dated := h.dated.ending past rfl rfl rfl
      open_iff := shut hclosed nofun
      queued := nofun
      running := nofun
      succeeded := nofun
      failed := fun _ => ⟨_, now, code, message, congrArg some hrow, rfl, rfl, rfl, rfl, rfl, rfl,
        rfl⟩
      cancelled := nofun }

/-- The waiting job is given up. -/
theorem dropped (waiting : j.status = .queued) (past : j.Past now) (reason : String) :
    Coherent ⟨j.withdrawn reason now, latest⟩ := by
  have hclosed := h.closed_of_idle (by rw [waiting]; decide)
  exact
    { h.same rfl rfl rfl with
      dated := h.dated.ending past rfl rfl rfl
      open_iff := shut hclosed nofun
      queued := nofun
      running := nofun
      succeeded := nofun
      failed := nofun
      cancelled := fun _ => ⟨now, reason, rfl, rfl, rfl, hclosed⟩ }

/-- The running job is given up. -/
theorem stopped (past : j.Past now) (reason : String) : Coherent ⟨j.withdrawn reason now,
    latest.map ((Store.Verdict.broken .cancelled reason).close now)⟩ :=
  { (h.same rfl rfl rfl).closed (.broken .cancelled reason) now with
    dated := h.dated.ending past rfl rfl rfl
    open_iff := shut (closed_of_close _) nofun
    queued := nofun
    running := nofun
    succeeded := nofun
    failed := nofun
    cancelled := fun _ => ⟨now, reason, rfl, rfl, rfl, closed_of_close _⟩ }

/-- The job that ended without success waits again. -/
theorem renewed (ended : j.status = .failed ∨ j.status = .cancelled) :
    Coherent ⟨j.renewed, latest⟩ := by
  have hclosed := h.closed_of_idle (by rcases ended with he | he <;> rw [he] <;> decide)
  exact
    { h.same rfl rfl rfl with
      dated := h.dated.going rfl rfl rfl
      open_iff := shut hclosed nofun
      queued := fun _ => ⟨rfl, .inl ⟨rfl, rfl⟩⟩
      running := nofun
      succeeded := nofun
      failed := nofun
      cancelled := nofun }

/-- The job that was lost waits again. -/
theorem requeued : Coherent ⟨Store.requeuedJob j, latest.map
    ((Store.Verdict.broken .workerLost Store.workerLostNote).close now)⟩ :=
  { (h.same rfl rfl rfl).closed (.broken .workerLost Store.workerLostNote) now with
    dated := h.dated.going rfl rfl rfl
    open_iff := shut (closed_of_close _) nofun
    queued := fun _ => ⟨rfl, .inr ⟨rfl, rfl⟩⟩
    running := nofun
    succeeded := nofun
    failed := nofun
    cancelled := nofun }

end Ending

end Coherent

end Snapshot

/-! ## Snapshots in the store -/

namespace Store

variable {s s' t : Store} {now : Time} {d : Deed} {after j : Job} {id : JobId}

/-- The row of a job's attempt that it has counted to. -/
def snapshot (s : Store) (j : Job) : Snapshot := ⟨j, s.attempts.get? (j.id, j.attempt)⟩

/-- The latest attempt of a job is the one that it has counted to. -/
theorem getLast?_attemptsOf (h : s.Orderly) (ledger : s.Ledger)
    (stored : s.jobs.get? id = some j) :
    (s.attemptsOf id).getLast? = s.attempts.get? (id, j.attempt) := by
  have hnumbers := ledger.numbers_attemptsOf h stored
  have hbooked := ledger.booked id j stored
  cases hlast : (s.attemptsOf id).getLast? with
  | none =>
    -- a row of that number would be among the job's rows, and there are none
    cases hrow : s.attempts.get? (id, j.attempt) with
    | none => rfl
    | some row =>
      have hmem := (mem_numbers_attemptsOf h).2 ⟨row, hrow⟩
      rw [List.getLast?_eq_none_iff.1 hlast] at hmem
      cases hmem
  | some row =>
    have hmem : row ∈ s.attemptsOf id := List.mem_of_getLast? hlast
    have hrow := (mem_attemptsOf h).1 hmem
    have hle : 1 ≤ row.number ∧ row.number ≤ j.attempt := hbooked.numbered hrow
    have hnumber : (countedTo j.attempt.toNat).getLast? = some row.number := by
      rw [← hnumbers, List.getLast?_map, hlast]
      rfl
    obtain ⟨n, hn⟩ : ∃ n, j.attempt.toNat = n + 1 := ⟨j.attempt.toNat - 1, by omega⟩
    rw [hn, countedTo_succ, List.getLast?_concat] at hnumber
    have hlatest : row.number = j.attempt := by
      have := Option.some.inj hnumber
      omega
    rw [← hlatest]
    exact hrow.symm

/-- Who looks a job up gets its snapshot. -/
theorem get_eq_snapshot (h : s.Orderly) (ledger : s.Ledger) (stored : s.jobs.get? id = some j) :
    s.get id = .ok (j, (s.snapshot j).latest) := by
  have hid : j.id = id := h.filed id j stored
  unfold get
  rw [stored]
  simp only [snapshot, hid, getLast?_attemptsOf h ledger stored]

/-- Jobs and attempts tell one story, and nothing on record lies in the future. -/
structure Told (now : Time) (s : Store) : Prop where
  ledger : s.Ledger
  past : ∀ id j, s.jobs.get? id = some j → j.Past now
  coherent : ∀ id j, s.jobs.get? id = some j → (s.snapshot j).Coherent
  began : ∀ key row, s.attempts.get? key = some row → row.startedAt ≤ (now : Timestamp)
  dated : ∀ key row, s.attempts.get? key = some row → row.Dated

/-- What a turn leaves of a snapshot: that of its job is written to, and any other is as it was. -/
theorem Turn.snapshot_eq (turn : Turn now s d after s') (h : s.Orderly) (j : Job) :
    s'.snapshot j = if (after.id, after.attempt) = (j.id, j.attempt)
      then ⟨j, d.write now after (s.snapshot j).latest⟩ else s.snapshot j := by
  unfold snapshot
  rw [turn.get?_attempts h]
  split <;> rfl

/-- A turn does to the snapshot of its job what it says. -/
theorem Turn.coherent (turn : Turn now s d after s') (h : s.Orderly) (told : s.Told now) :
    (s'.snapshot after).Coherent := by
  rw [turn.snapshot_eq h, if_pos rfl]
  cases turn with
  | @created draft ids valid unclaimed unknown =>
    have hnone : s.attempts.get? (ids.job, 0) = none := told.ledger.unowned _ _ unknown
    show Snapshot.Coherent ⟨_, s.attempts.get? (ids.job, 0)⟩
    rw [hnone]
    exact .created draft.normalized ids now
  | @started j worker stored waiting =>
    exact (told.coherent _ _ stored).begun (told.past _ _ stored)
  | @succeeded j worker usage stored running =>
    exact (told.coherent _ _ stored).completed running (told.past _ _ stored) usage
  | @failed j worker code message stored running =>
    exact (told.coherent _ _ stored).broken running (told.past _ _ stored) code message
  | @dropped j reason stored waiting =>
    exact (told.coherent _ _ stored).dropped waiting (told.past _ _ stored) reason
  | @stopped j reason stored running =>
    exact (told.coherent _ _ stored).stopped (told.past _ _ stored) reason
  | @retried j stored ended => exact (told.coherent _ _ stored).renewed ended
  | @requeued j stored running => exact (told.coherent _ _ stored).requeued

/-- What a turn writes on the row of a job is not later than the turn. -/
theorem Turn.past (turn : Turn now s d after s') (told : s.Told now) : after.Past now := by
  cases turn with
  | created valid unclaimed unknown => exact ⟨Timestamp.le_refl _, nofun⟩
  | @started j worker stored waiting =>
    refine ⟨(told.past _ _ stored).created, fun t ht => ?_⟩
    cases ht
    exact Timestamp.le_refl _
  -- the other turns leave both times as they were
  | @succeeded j worker usage stored running
  | @failed j worker code message stored running
  | @dropped j reason stored waiting
  | @stopped j reason stored running
  | @retried j stored ended
  | @requeued j stored running =>
    have hpast := told.past _ _ stored
    exact ⟨hpast.created, hpast.started⟩

/-- A verdict leaves the start of a row, and it ends an open row now. -/
theorem Verdict.dated (v : Verdict) {row : Attempt} (dated : row.Dated)
    (began : row.startedAt ≤ (now : Timestamp)) :
    (v.close now row).startedAt = row.startedAt ∧ (v.close now row).Dated := by
  cases hopen : row.isOpen with
  | false =>
    rw [close_of_closed hopen]
    exact ⟨rfl, dated⟩
  | true =>
    cases v with
    | done usage =>
      simp only [close, Attempt.succeed, hopen, if_true]
      refine ⟨trivial, fun t ht => ?_⟩
      cases ht
      exact began
    | broken code message =>
      simp only [close, Attempt.fail, hopen, if_true]
      refine ⟨trivial, fun t ht => ?_⟩
      cases ht
      exact began

/-- A turn writes no row that begins later than the turn or ends before it begins. -/
theorem Turn.dated (turn : Turn now s d after s') (h : s.Orderly) (told : s.Told now)
    {key : JobId × Int} {row : Attempt} (hrow : s'.attempts.get? key = some row) :
    row.startedAt ≤ (now : Timestamp) ∧ row.Dated := by
  have hold : ∀ old, s.attempts.get? key = some old →
      old.startedAt ≤ (now : Timestamp) ∧ old.Dated := fun old ho =>
    ⟨told.began key old ho, told.dated key old ho⟩
  rw [turn.get?_attempts h] at hrow
  split at hrow
  · by_cases hstart : d.kind = .started
    · rw [d.write_started hstart] at hrow
      cases hrow
      refine ⟨Timestamp.le_refl _, fun t ht => ?_⟩
      cases ht
    · cases hverdict : d.verdict with
      | none =>
        rw [d.write_idle hstart hverdict] at hrow
        exact hold row hrow
      | some v =>
        rw [d.write_verdict hverdict] at hrow
        obtain ⟨old, ho, rfl⟩ := Option.map_eq_some_iff.1 hrow
        obtain ⟨hbegan, hdated⟩ := hold old ho
        obtain ⟨hstarted, hclosed⟩ := v.dated hdated hbegan
        rw [hstarted]
        exact ⟨hbegan, hclosed⟩
  · exact hold row hrow

namespace Told

theorem empty (now : Time) : Store.empty.Told now where
  ledger := .empty
  past := by simp [Store.empty]
  coherent := by simp [Store.empty]
  began := by simp [Store.empty]
  dated := by simp [Store.empty]

/-- While time passes the story stays. -/
theorem mono {later : Time} (told : s.Told now) (hle : now ≤ later) : s.Told later where
  ledger := told.ledger
  past id j hj := (told.past id j hj).mono hle
  coherent := told.coherent
  began key row hrow :=
    Timestamp.le_trans (told.began key row hrow) (Timestamp.ofTime_le_ofTime.2 hle)
  dated := told.dated

/-- A turn goes on with the story. -/
theorem turn (turn : Turn now s d after s') (h : s.Orderly) (told : s.Told now) :
    s'.Told now where
  ledger := told.ledger.turn turn h
  past id j hj := by
    rw [turn.get?_jobs] at hj
    split at hj
    · cases hj
      exact turn.past told
    · exact told.past id j hj
  coherent id j hj := by
    rw [turn.get?_jobs] at hj
    split at hj
    · cases hj
      exact turn.coherent h told
    · rename_i other
      have hid : j.id = id := h.filed id j hj
      rw [turn.snapshot_eq h, if_neg]
      · exact told.coherent id j hj
      · intro hkey
        exact other ((congrArg Prod.fst hkey).trans hid)
  began key row hrow := (turn.dated h told hrow).1
  dated key row hrow := (turn.dated h told hrow).2

theorem change (h : s.Orderly) (change : Change now s t) (told : s.Told now) : t.Told now := by
  cases change with
  | turn turn => exact Told.turn turn h told
  | report workers =>
    exact ⟨⟨told.ledger.booked, told.ledger.unowned⟩, told.past, told.coherent, told.began,
      told.dated⟩

end Told

/-- Whatever calls are made on the empty store while the clock does not go back, a job and its
latest attempt tell one story, and every attempt of the job began before it ended. -/
theorem coherent_afterAll {calls : List (Moment × StoreCall)}
    (clock : calls.Pairwise fun a b => a.1.now ≤ b.1.now) {id : JobId} {j : Job}
    (stored : (empty.afterAll calls).jobs.get? id = some j) :
    ∃ latest, (empty.afterAll calls).get id = .ok (j, latest) ∧
      (Snapshot.mk j latest).Coherent ∧
      ∀ row ∈ (empty.afterAll calls).attemptsOf id, row.Dated := by
  obtain ⟨now, reached⟩ := exists_reached calls
  obtain ⟨horderly, told⟩ := kept_in_time Told.empty (fun hle told => told.mono hle)
    (fun h c told => told.change h c) clock reached
  refine ⟨_, get_eq_snapshot horderly told.ledger stored, told.coherent id j stored, ?_⟩
  intro row hrow
  exact told.dated _ row ((mem_attemptsOf horderly).1 hrow)

/-- The worker of a job falls silent, and the next attempt fails. -/
def mishaps : List (Moment × StoreCall) :=
  let id := (FreshIds.numbered 1 1).job
  [(⟨⟨1⟩, .numbered 1 1⟩, .create { tenant := "acme", model := "small" }),
    (⟨⟨2⟩, .numbered 2 2⟩, .start id ⟨"worker-1"⟩),
    (⟨⟨9⟩, .numbered 9 9⟩, .requeueOrphaned ⟨5⟩),
    (⟨⟨9⟩, .numbered 9 9⟩, .start id ⟨"worker-2"⟩),
    (⟨⟨12⟩, .numbered 12 12⟩, .fail id 2 ⟨"worker-2"⟩ .providerError "refused")]

theorem coherent_mishaps :
    (mishaps.Pairwise fun a b => a.1.now ≤ b.1.now) ∧ ∃ j latest,
      j.status = .failed ∧ j.attempt = 2 ∧
      (empty.afterAll mishaps).get (FreshIds.numbered 1 1).job = .ok (j, latest) ∧
        (Snapshot.mk j latest).Coherent := by
  have clock : mishaps.Pairwise fun a b => a.1.now ≤ b.1.now := by decide
  have hfailed : ((empty.afterAll mishaps).jobs.get? (FreshIds.numbered 1 1).job).map
      (fun j => (j.status, j.attempt)) = some (.failed, 2) := by decide +kernel
  obtain ⟨j, stored, hj⟩ := Option.map_eq_some_iff.1 hfailed
  obtain ⟨hstatus, hattempt⟩ := Prod.mk.inj hj
  obtain ⟨latest, hget, hcoherent, -⟩ := coherent_afterAll clock stored
  exact ⟨clock, j, latest, hstatus, hattempt, hget, hcoherent⟩

end Store

end Dispatch
