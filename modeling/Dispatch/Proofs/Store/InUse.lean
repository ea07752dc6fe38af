import Dispatch.Proofs.Store.Keys
import Dispatch.Proofs.Store.Ledger
import Dispatch.Proofs.Store.Replay
import Dispatch.Proofs.Store.Vouch

/-!
# Stores in use

All that holds of a store because its calls have made it what it is, in one structure that every
turn and every call keeps.  What the rows of attempts come to for the job whose turn it is: the row
of a running attempt is open and still as it was opened (`InUse.opened`), and a job that does not
run has no open row (`InUse.closed`).
-/

namespace Dispatch.Store

variable {s s' : Store} {now : Time} {id : JobId} {j : Job}

/-- Nothing is written in an open row of an attempt yet. -/
def Blank (s : Store) : Prop :=
  ∀ key row, s.attempts.get? key = some row → row.isOpen = true →
    row = .opened row.job row.number row.startedAt

theorem Blank.turn {d : Deed} {after : Job} (t : Turn now s d after s') (h : s.Orderly)
    (blank : s.Blank) : s'.Blank := by
  intro key row hrow isOpen
  rw [t.get?_attempts h] at hrow
  split at hrow
  · -- the written row is new, closed or the old one
    unfold Deed.write at hrow
    split at hrow
    · cases hrow
      rfl
    · split at hrow
      · obtain ⟨old, -, rfl⟩ := Option.map_eq_some_iff.1 hrow
        rw [Verdict.isOpen_close] at isOpen
        cases isOpen
      · exact blank key row hrow isOpen
  · exact blank key row hrow isOpen

/-- What holds of every store in use. -/
structure InUse (s : Store) : Prop where
  orderly : s.Orderly
  ledger : s.Ledger
  indexed : s.Indexed
  chronicle : s.Chronicle
  blank : s.Blank
  reported : ∀ worker h, s.workers.get? worker = some h → h.worker = worker

namespace InUse

theorem empty : Store.empty.InUse where
  orderly := .empty
  ledger := .empty
  indexed := .empty
  chronicle := .empty
  blank := by simp [Blank, Store.empty]
  reported := by simp [Store.empty]

theorem turn {d : Deed} {after : Job} (t : Turn now s d after s') (use : s.InUse) : s'.InUse where
  orderly := t.orderly use.orderly
  ledger := .turn t use.orderly use.ledger
  indexed := .turn t use.indexed
  chronicle := .turn t use.chronicle
  blank := .turn t use.orderly use.blank
  reported := by
    rw [t.workers_eq]
    exact use.reported

theorem beat (use : s.InUse) (worker : WorkerId) (state : WorkerState) (running : Option JobId)
    (concurrency : Int) (now : Time) : (s.beat worker state running concurrency now).InUse where
  orderly := ⟨use.orderly.filed, use.orderly.named, use.orderly.lively, use.orderly.rowed⟩
  ledger := ⟨use.ledger.booked, use.ledger.unowned⟩
  indexed := ⟨use.indexed.found, use.indexed.named⟩
  chronicle := ⟨use.chronicle.numbered, use.chronicle.signed, use.chronicle.leads,
    use.chronicle.starts⟩
  blank := use.blank
  reported name h hrow := by
    change (s.workers.set worker _).get? name = some h at hrow
    rw [Table.get?_set] at hrow
    split at hrow
    · cases hrow
      assumption
    · exact use.reported name h hrow

/-- A store in use stays in use. -/
theorem perform (use : s.InUse) (m : Moment) (c : StoreCall) : (s.perform m c).2.InUse := by
  cases hreporter : c.reporter with
  | none =>
    have hturns := perform_turns use.orderly m hreporter
    generalize (s.perform m c).2 = t at hturns
    induction hturns with
    | refl => exact use
    | tail _ hturn ih =>
      obtain ⟨d, after, -, turn⟩ := hturn
      exact ih.turn turn
  | some reporter =>
    cases c with
    | beat worker state running concurrency =>
      exact use.beat worker state running concurrency m.now
    | _ => cases hreporter

/-- Whatever is asked of the empty store, it is in use. -/
theorem afterAll (calls : List (Moment × StoreCall)) : (Store.empty.afterAll calls).InUse := by
  have hkept : ∀ {s : Store}, s.InUse → (s.afterAll calls).InUse := by
    induction calls with
    | nil => exact id
    | cons call rest ih => exact fun use => ih (use.perform call.1 call.2)
  exact hkept .empty

/-- The attempt of a running job has a row, and it is as it was opened. -/
theorem opened (use : s.InUse) (stored : s.jobs.get? j.id = some j) (running : j.status = .running)
    (now : Time) :
    s.attempts.get? (j.id, j.attempt) = some (s.attemptRow j.id j.attempt now) ∧
      (s.attemptRow j.id j.attempt now).isOpen = true ∧
      s.attemptRow j.id j.attempt now =
        .opened j.id j.attempt (s.attemptRow j.id j.attempt now).startedAt := by
  obtain ⟨hrow, hjob, hnumber⟩ := use.orderly.attemptRow_running stored running now
  have isOpen : (s.attemptRow j.id j.attempt now).isOpen = true := by
    obtain ⟨row, hrow', hopen⟩ := (use.ledger.booked j.id j stored).current.2 running
    cases hrow.symm.trans hrow'
    exact hopen
  refine ⟨hrow, isOpen, ?_⟩
  have hblank := use.blank _ _ hrow isOpen
  rwa [hjob, hnumber] at hblank

/-- The attempts of a job that does not run are closed. -/
theorem closed (use : s.InUse) (stored : s.jobs.get? id = some j) (idle : j.status ≠ .running)
    {n : Int} {row : Attempt} (hrow : s.attempts.get? (id, n) = some row) : row.isOpen = false := by
  have hbooked := use.ledger.booked id j stored
  rw [eq_false idle] at hbooked
  exact hbooked.idle hrow

/-- The index leads from a key to the job that carries it. -/
theorem keyed (use : s.InUse) (hj : j ∈ s.jobs.rows) (tenant key : String) :
    j.tenant = tenant ∧ j.idempotencyKey = some key ↔ s.keys.get? (tenant, key) = some j.id := by
  have stored := use.orderly.get?_of_mem hj
  rw [use.indexed.found]
  constructor
  · exact fun h => ⟨j, stored, h⟩
  · rintro ⟨i, hi, h⟩
    cases hi.symm.trans stored
    exact h

end InUse

end Dispatch.Store
