import Dispatch.Proofs.Postgres.Database
import Dispatch.Proofs.Postgres.Transcript

/-!
# Exchanges with the database in memory

What an exchange comes to when the server answers it, step by step: each lemma takes one step of an
exchange whose next answer is known.  A transaction leaves what its body made of the copy of the
tables, or the tables as they were.
-/

namespace Dispatch.Postgres

namespace Exchange

variable {σ α β : Type} {answer : Statement → σ → Reply × σ} {st st' : σ}

theorem run_bind (e : Exchange α) (k : α → Exchange β) :
    (e.bind k).run answer st = (k (e.run answer st).1).run answer (e.run answer st).2 := by
  induction e generalizing st with
  | done a => rfl
  | send s next ih => exact ih _

theorem run_map (e : Exchange α) (f : α → β) :
    (e.map f).run answer st = (f (e.run answer st).1, (e.run answer st).2) :=
  run_bind e fun a => done (f a)

theorem run_andThen {e : Attempted α} {k : α → Attempted β} {a : α}
    (h : e.run answer st = (.ok a, st')) : (andThen e k).run answer st = (k a).run answer st' := by
  rw [andThen, run_bind, h]

theorem run_query {s : Statement} {rows : List Row} (h : answer s st = (.rows rows, st')) :
    (query s).run answer st = (.ok rows, st') := by
  simp [query, ask, andThen, bind, run, h, understood]

theorem run_execute {s : Statement} {n : Nat} (h : answer s st = (.affected n, st')) :
    (execute s).run answer st = (.ok n, st') := by
  simp [execute, ask, andThen, bind, run, h, understood]

theorem run_reading {r : Reading α} {a : α} (h : r = .ok a) (k : α → Attempted β) :
    (andThen (reading r) k).run answer st = (k a).run answer st := by
  rw [h]
  rfl

theorem run_read {r : Reading α} {a : α} (h : r = .ok a) :
    (reading r).run answer st = (.ok a, st) := by
  rw [h]
  rfl

theorem run_toCommit {e : Attempted α} {a : α} (h : e.run answer st = (.ok a, st')) :
    (toCommit e).run answer st = (.commit a, st') := by
  rw [toCommit, run_map, h]

theorem run_toCommit_error {e : Attempted α} {f : Failure}
    (h : e.run answer st = (.error f, st')) : (toCommit e).run answer st = (.fail f, st') := by
  rw [toCommit, run_map, h]

theorem run_reported {e : Attempted α} {a : α} (h : e.run answer st = (.ok a, st')) :
    (reported e).run answer st = (.ok a, st') := by
  rw [reported, run_map, h]

theorem run_reported_error {e : Attempted α} {f : Failure}
    (h : e.run answer st = (.error f, st')) :
    (reported e).run answer st = (.error f.toStore, st') := by
  rw [reported, run_map, h]

end Exchange

/-- The statement opens or closes a transaction. -/
def Statement.isControl : Statement → Bool
  | begin_ | commit | rollback => true
  | _ => false

namespace Server

open Exchange

variable {leeway : Leeway} {now : Time} {α : Type} {db w w' : Database}
  {body : Exchange (Verdict α)}

/-- The tables within a transaction. -/
def within (db w : Database) : Server := { committed := db, working := some w }

/-- The tables outside of transactions. -/
def resting (db : Database) : Server := { committed := db }

/-- Within a transaction a statement about the tables works on the copy. -/
theorem answer_within {s : Statement} {r : Reply} (h : w.answer leeway now s = (r, w'))
    (data : s.isControl = false) :
    answer leeway now s (within db w) = (r, within db w') := by
  cases s with
  | begin_ | commit | rollback => cases data
  | _ => simp only [answer, within, h]

/-- Outside of transactions a statement about the tables is a transaction of its own. -/
theorem answer_resting {s : Statement} {r : Reply} (h : w.answer leeway now s = (r, w'))
    (data : s.isControl = false) : answer leeway now s (resting w) = (r, resting w') := by
  cases s with
  | begin_ | commit | rollback => cases data
  | _ => simp only [answer, resting, h]

theorem query_within {s : Statement} {rows : List Row}
    (h : w.answer leeway now s = (.rows rows, w')) (data : s.isControl = false) :
    (query s).run (answer leeway now) (within db w) = (.ok rows, within db w') :=
  run_query (answer_within h data)

theorem execute_within {s : Statement} {n : Nat}
    (h : w.answer leeway now s = (.affected n, w')) (data : s.isControl = false) :
    (execute s).run (answer leeway now) (within db w) = (.ok n, within db w') :=
  run_execute (answer_within h data)

theorem appendEvent_within (kind : EventKind) (id : JobId) (worker : Option WorkerId)
    (details : String) :
    (appendEvent kind id worker details).run (answer leeway now) (within db w) =
      (.ok (), within db (w.logged leeway now kind id worker details)) := by
  rw [appendEvent, run_andThen (execute_within rfl rfl)]
  rfl

/-- An open attempt is finalized, and there is nothing to insert. -/
theorem finalize_within {id : JobId} {n : Int} {ending : Ending}
    (h : w.updateAttempts (·.isOpenOf id n) (·.ended now ending) = (.affected 1, w')) :
    (finalize id n ending).run (answer leeway now) (within db w) = (.ok (), within db w') := by
  have hanswer : w.answer leeway now (.finalizeAttempt id n ending) = (.affected 1, w') := h
  rw [finalize, run_andThen (execute_within hanswer rfl)]
  rfl

theorem begin_resting : (ask .begin_).run (answer leeway now) (resting db) =
    (.ok (.affected 0), within db db) := rfl

theorem run_commit {a : α}
    (h : body.run (answer leeway now) (within db db) = (.commit a, within db w)) :
    (transaction body).run (answer leeway now) (resting db) = (.ok a, resting w) := by
  rw [transaction, run_andThen begin_resting, run_bind, h]
  rfl

theorem run_abandon {a : α}
    (h : body.run (answer leeway now) (within db db) = (.abandon a, within db w)) :
    (transaction body).run (answer leeway now) (resting db) = (.ok a, resting db) := by
  rw [transaction, run_andThen begin_resting, run_bind, h]
  rfl

theorem run_absent {e : StoreError}
    (h : body.run (answer leeway now) (within db db) = (.fail (.store e), within db w)) :
    (transaction body).run (answer leeway now) (resting db) =
      (.error (.store e), resting db) := by
  rw [transaction, run_andThen begin_resting, run_bind, h]
  rfl

end Server

end Dispatch.Postgres
