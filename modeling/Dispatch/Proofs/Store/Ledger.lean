import Dispatch.Proofs.Store.Run

/-!
# The attempt ledger

Whatever is asked of the store and whenever, the rows of a job's attempts stay in step with the
job's row.  `Booked` says what that means for one job: there is one row for each attempt so far,
the earlier ones are closed, and the last one is open exactly while the job runs.  `Ledger` says it
of all jobs and that there are no other rows.

A start opens one row (`Booked.begun`), an ending closes the last one (`Booked.closed`), and no
other turn touches a row; `Ledger.turn` is the case analysis.
-/

namespace Dispatch

/-! ## One row -/

/-- A row that is open has no outcome, and a closed one has one, with an error if it is bad. -/
structure Attempt.Formed (a : Attempt) : Prop where
  blank : a.isOpen = true → a.finishedAt = none ∧ a.success = none ∧ a.errorCode = none
  filled : a.isOpen = false → a.finishedAt.isSome = true ∧ a.success.isSome = true ∧
    (a.success = some false ↔ a.errorCode.isSome = true)

theorem Attempt.formed_opened (id : JobId) (n : Int) (now : Timestamp) :
    (Attempt.opened id n now).Formed where
  blank _ := ⟨rfl, rfl, rfl⟩
  filled closed := by cases closed

namespace Store

namespace Verdict

variable {now : Time} {row : Attempt} {v : Verdict}

@[simp]
theorem isOpen_close : (v.close now row).isOpen = false := by
  cases v <;> simp [close]

theorem close_of_closed (closed : row.isOpen = false) : v.close now row = row := by
  cases v with
  | done usage => exact row.succeed_of_closed closed usage now
  | broken code message => exact row.fail_of_closed closed code message now

/-- A verdict fills in all of an open row's outcome, and none of a closed one's. -/
theorem formed_close (formed : row.Formed) : (v.close now row).Formed := by
  cases hopen : row.isOpen with
  | false => rwa [close_of_closed hopen]
  | true =>
    refine ⟨fun h => ?_, fun _ => ?_⟩
    · rw [isOpen_close] at h
      cases h
    · cases v with
      | done usage => simp [close, Attempt.succeed, hopen]
      | broken code message => simp [close, Attempt.fail, hopen]

end Verdict

/-! ## The rows of one job -/

/-- The rows of a job of which `count` attempts have started, the last of which may run. -/
structure Booked (id : JobId) (count : Int) (runs : Prop) (rows : Int → Option Attempt) :
    Prop where
  counted : 0 ≤ count
  numbers : ∀ n, (∃ row, rows n = some row) ↔ 1 ≤ n ∧ n ≤ count
  named : ∀ n row, rows n = some row → row.job = id ∧ row.number = n
  formed : ∀ n row, rows n = some row → row.Formed
  settled : ∀ n row, rows n = some row → n < count → row.isOpen = false
  current : (∃ row, rows count = some row ∧ row.isOpen = true) ↔ runs

namespace Booked

variable {id : JobId} {count : Int} {runs : Prop} {rows rows' : Int → Option Attempt}

/-- A job that never started has no rows. -/
theorem fresh (id : JobId) (none_yet : ∀ n, rows n = none) : Booked id 0 False rows where
  counted := Int.le_refl 0
  numbers n := by
    simp only [none_yet, reduceCtorEq, exists_false, false_iff]
    omega
  named n row hrow := by simp [none_yet] at hrow
  formed n row hrow := by simp [none_yet] at hrow
  settled n row hrow := by simp [none_yet] at hrow
  current := by simp [none_yet]

theorem numbered (h : Booked id count runs rows) {n : Int} {row : Attempt}
    (hrow : rows n = some row) : 1 ≤ n ∧ n ≤ count :=
  (h.numbers n).1 ⟨row, hrow⟩

/-- The rows of a job that does not run are closed, all of them. -/
theorem idle (h : Booked id count False rows) {n : Int} {row : Attempt}
    (hrow : rows n = some row) : row.isOpen = false := by
  rcases Int.lt_or_eq_of_le (h.numbered hrow).2 with hlt | rfl
  · exact h.settled n row hrow hlt
  · by_contra hopen
    exact h.current.1 ⟨row, hrow, by simpa using hopen⟩

/-- A start opens one row, after all the others. -/
theorem begun (h : Booked id count False rows) (now : Time)
    (opened : ∀ n, rows' n = if count + 1 = n then some (.opened id (count + 1) now) else rows n) :
    Booked id (count + 1) True rows' where
  counted := by
    have := h.counted
    omega
  numbers n := by
    have hcounted := h.counted
    rw [opened]
    split
    · rename_i hn
      simp only [Option.some.injEq, exists_eq', true_iff]
      omega
    · rw [h.numbers]
      omega
  named n row hrow := by
    rw [opened] at hrow
    split at hrow
    · cases hrow
      exact ⟨rfl, ‹_›⟩
    · exact h.named n row hrow
  formed n row hrow := by
    rw [opened] at hrow
    split at hrow
    · cases hrow
      exact Attempt.formed_opened id (count + 1) now
    · exact h.formed n row hrow
  settled n row hrow hlt := by
    rw [opened, if_neg (by omega)] at hrow
    exact h.idle hrow
  current := by simp [opened]

/-- An ending closes the last row. -/
theorem closed (h : Booked id count True rows) (v : Verdict) (now : Time)
    (written : ∀ n, rows' n = if count = n then (rows n).map (v.close now) else rows n) :
    Booked id count False rows' where
  counted := h.counted
  numbers n := by
    rw [← h.numbers, written]
    split <;> simp
  named n row hrow := by
    rw [written] at hrow
    split at hrow
    · obtain ⟨old, hold, rfl⟩ := Option.map_eq_some_iff.1 hrow
      simpa using h.named n old hold
    · exact h.named n row hrow
  formed n row hrow := by
    rw [written] at hrow
    split at hrow
    · obtain ⟨old, hold, rfl⟩ := Option.map_eq_some_iff.1 hrow
      exact Verdict.formed_close (h.formed n old hold)
    · exact h.formed n row hrow
  settled n row hrow hlt := by
    rw [written, if_neg (by omega)] at hrow
    exact h.settled n row hrow hlt
  current := by
    simp only [written, if_true, iff_false]
    rintro ⟨row, hrow, hopen⟩
    obtain ⟨old, -, rfl⟩ := Option.map_eq_some_iff.1 hrow
    simp at hopen

end Booked

/-! ## All rows -/

variable {s s' : Store} {now : Time}

/-- The rows of attempts are those that the jobs call for. -/
structure Ledger (s : Store) : Prop where
  booked : ∀ id j, s.jobs.get? id = some j →
    Booked id j.attempt (j.status = .running) fun n => s.attempts.get? (id, n)
  unowned : ∀ id n, s.jobs.get? id = none → s.attempts.get? (id, n) = none

namespace Ledger

theorem empty : Store.empty.Ledger where
  booked := by simp [Store.empty]
  unowned := by simp [Store.empty]

/-- What a turn leaves of the rows of its own job is what the job calls for. -/
theorem turn_booked {d : Deed} {after : Job} (t : Turn now s d after s') (h : s.Orderly)
    (ledger : s.Ledger) :
    Booked after.id after.attempt (after.status = .running)
      fun n => s'.attempts.get? (after.id, n) := by
  have hrows : ∀ n, s'.attempts.get? (after.id, n) =
      if after.attempt = n then d.write now after (s.attempts.get? (after.id, n))
      else s.attempts.get? (after.id, n) := fun n => by
    simpa using t.get?_attempts h (after.id, n)
  rw [t.running_iff]
  rcases t.found with ⟨rfl, unknown, -, hattempt⟩ | ⟨j, stored, -, hattempt, hends⟩
  · rw [hattempt]
    simp only [Deed.kind, reduceCtorEq]
    apply Booked.fresh
    intro n
    rw [hrows, ledger.unowned after.id n unknown]
    exact ite_self none
  · have hbooked := ledger.booked after.id j stored
    rw [← hends] at hbooked
    -- a start opens a row, a verdict closes the last one, and any other deed leaves them all
    by_cases hstart : d.kind = .started
    · rw [if_pos hstart] at hattempt
      simp only [d.verdict_started hstart, Option.isSome_none, Bool.false_eq_true] at hbooked
      simp only [hstart, hattempt] at hrows ⊢
      apply hbooked.begun now
      intro n
      rw [hrows, d.write_started hstart, hattempt]
    · rw [if_neg hstart, Int.add_zero] at hattempt
      simp only [hstart, hattempt] at hrows ⊢
      cases hverdict : d.verdict with
      | some v =>
        simp only [hverdict, Option.isSome_some] at hbooked
        apply hbooked.closed v now
        intro n
        rw [hrows, d.write_verdict hverdict]
      | none =>
        simp only [hverdict, Option.isSome_none, Bool.false_eq_true] at hbooked
        simpa only [hrows, d.write_idle hstart hverdict, ite_self] using hbooked

/-- A turn keeps the rows in step. -/
theorem turn {d : Deed} {after : Job} (t : Turn now s d after s') (h : s.Orderly)
    (ledger : s.Ledger) : s'.Ledger where
  booked id j hj := by
    rw [t.get?_jobs] at hj
    split at hj
    · cases hj
      rename_i hid
      exact hid ▸ turn_booked t h ledger
    · rename_i hid
      simp only [t.get?_attempts h, Prod.mk.injEq, hid, false_and, if_false]
      exact ledger.booked id j hj
  unowned id n hnone := by
    rw [t.get?_jobs] at hnone
    split at hnone
    · cases hnone
    · rename_i hid
      simp only [t.get?_attempts h, Prod.mk.injEq, hid, false_and, if_false]
      exact ledger.unowned id n hnone

/-- Every call keeps the rows in step. -/
theorem lived {past : List Dealing} (h : Lived past s) : s.Ledger := by
  refine (h.kept empty fun hs c ledger => ?_).2
  cases c with
  | turn t => exact turn t hs ledger
  | report workers => exact ⟨ledger.booked, ledger.unowned⟩

end Ledger

/-! ## The rows as a list -/

theorem mem_attemptsOf (h : s.Orderly) {id : JobId} {row : Attempt} :
    row ∈ s.attemptsOf id ↔ s.attempts.get? (id, row.number) = some row := by
  simp only [attemptsOf, List.mem_mergeSort, List.mem_filter, decide_eq_true_eq, Table.mem_rows]
  constructor
  · rintro ⟨⟨⟨owner, n⟩, hrow⟩, rfl⟩
    obtain ⟨hjob, hnumber⟩ := h.named owner n row hrow
    rw [hjob, hnumber]
    exact hrow
  · intro hrow
    exact ⟨⟨(id, row.number), hrow⟩, (h.named id row.number row hrow).1⟩

theorem nodup_attemptsOf (h : s.Orderly) (id : JobId) :
    ((s.attemptsOf id).map (·.number)).Nodup := by
  have hkeys : (s.attempts.rows.map fun row => (row.job, row.number)).Nodup :=
    s.attempts.nodup_map_rows _ fun key row hrow =>
      Prod.ext_iff.2 (h.named key.1 key.2 row hrow)
  have hperm := List.mergeSort_perm (s.attempts.rows.filter (·.job = id))
    fun a b => decide (a.number ≤ b.number)
  refine (hperm.map _).nodup_iff.2 (List.Nodup.of_map (fun n => (id, n)) ?_)
  -- the rows are all of the one job, so what is left of their names is the number
  have hsame : ((s.attempts.rows.filter (·.job = id)).map (·.number)).map (fun n => (id, n)) =
      (s.attempts.rows.filter (·.job = id)).map fun row => (row.job, row.number) := by
    rw [List.map_map]
    apply List.map_congr_left
    intro row hrow
    have hjob : row.job = id := by simpa using List.of_mem_filter hrow
    rw [Function.comp_apply, hjob]
  rw [hsame]
  exact hkeys.sublist (List.filter_sublist.map _)

/-- The rows of a job are in the order of their numbers. -/
theorem pairwise_attemptsOf (h : s.Orderly) (id : JobId) :
    ((s.attemptsOf id).map (·.number)).Pairwise (· < ·) := by
  have hsorted : (s.attemptsOf id).Pairwise fun a b => decide (a.number ≤ b.number) = true :=
    List.pairwise_mergeSort (by simp; omega) (by simp; omega) _
  have hle : ((s.attemptsOf id).map (·.number)).Pairwise (· ≤ ·) := by
    simpa [List.pairwise_map] using hsorted
  exact (hle.and (nodup_attemptsOf h id)).imp fun hab => Int.lt_iff_le_and_ne.2 hab

theorem mem_numbers_attemptsOf (h : s.Orderly) {id : JobId} {n : Int} :
    n ∈ (s.attemptsOf id).map (·.number) ↔ ∃ row, s.attempts.get? (id, n) = some row := by
  simp only [List.mem_map, mem_attemptsOf h]
  constructor
  · rintro ⟨row, hrow, rfl⟩
    exact ⟨row, hrow⟩
  · rintro ⟨row, hrow⟩
    obtain ⟨-, rfl⟩ := h.named id n row hrow
    exact ⟨row, hrow, rfl⟩

namespace Ledger

/-- The rows of a job carry the numbers from one to the number of its attempts. -/
theorem numbers_attemptsOf (ledger : s.Ledger) (h : s.Orderly) {id : JobId} {j : Job}
    (stored : s.jobs.get? id = some j) :
    (s.attemptsOf id).map (·.number) = countedTo j.attempt.toNat := by
  have hbooked := ledger.booked id j stored
  apply eq_countedTo (pairwise_attemptsOf h id)
  intro n
  rw [mem_numbers_attemptsOf h, hbooked.numbers, Int.toNat_of_nonneg hbooked.counted]

theorem attemptsOf_unowned (ledger : s.Ledger) (h : s.Orderly) {id : JobId}
    (unknown : s.jobs.get? id = none) : s.attemptsOf id = [] := by
  apply List.eq_nil_iff_forall_not_mem.2
  intro row hrow
  rw [mem_attemptsOf h, ledger.unowned id row.number unknown] at hrow
  cases hrow

end Ledger

/-- Whatever calls are made on the empty store and at whatever moments, the rows of attempts are
those that the jobs call for, and the store lists them in the order of their numbers. -/
theorem ledger_afterAll (calls : List (Moment × StoreCall)) :
    (empty.afterAll calls).Ledger ∧
      (∀ id j, (empty.afterAll calls).jobs.get? id = some j →
        ((empty.afterAll calls).attemptsOf id).map (·.number) = countedTo j.attempt.toNat) ∧
      ∀ id, (empty.afterAll calls).jobs.get? id = none →
        (empty.afterAll calls).attemptsOf id = [] := by
  have hlived := Lived.dealings calls
  have hledger := Ledger.lived hlived
  exact ⟨hledger, fun _ _ => hledger.numbers_attemptsOf hlived.orderly,
    fun _ => hledger.attemptsOf_unowned hlived.orderly⟩

end Store

end Dispatch
