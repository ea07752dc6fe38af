import Dispatch.Proofs.Floor.Moves

/-!
# One thing after the other

A stack is a store and a queue in memory.  `Works` says that a machine that works on it alone comes
from one state to another: it makes its moves, and time passes between them as it will.  `Serial`
says of a stack that everything that was ever done to it was done that way, one thing to its end
before the next: calls of the service, polls, passes.
-/

namespace Dispatch

/-- A store and a queue in memory, at an instant. -/
structure Stack where
  now : Time
  store : Store := .empty
  queue : LeaseQueue := {}

namespace Stack

variable {σ ρ α : Type} {next : Time → σ → Next σ ρ} {x y z : Stack} {a b c : σ}

/-- A machine that works on a stack alone comes from one state to another. -/
inductive Works (next : Time → σ → Next σ ρ) : Stack → σ → Stack → σ → Prop
  | rest (x : Stack) (a : σ) : Works next x a x a
  | wait {x y : Stack} {a b : σ} (span : Span)
      (later : Works next { x with now := x.now + span } a y b) : Works next x a y b
  | move {x y : Stack} {a a' b : σ} {s : Store} {q : LeaseQueue}
      (step : (next x.now a).Moves x.now x.store x.queue s q a')
      (later : Works next { x with store := s, queue := q } a' y b) : Works next x a y b

namespace Works

/-- What every move keeps, the work keeps. -/
theorem kept {P : Store → LeaseQueue → σ → Prop} (works : Works next x a y b)
    (move : ∀ {now s q a s' q' a'}, P s q a → (next now a).Moves now s q s' q' a' → P s' q' a')
    (start : P x.store x.queue a) : P y.store y.queue b := by
  induction works with
  | rest x a => exact start
  | wait span _ ih => exact ih start
  | move step _ ih => exact ih (move start step)

theorem trans (h : Works next x a y b) (h' : Works next y b z c) : Works next x a z c := by
  induction h with
  | rest x a => exact h'
  | wait span _ ih => exact .wait span (ih h')
  | move step _ ih => exact .move step (ih h')

end Works

/-! ## Scripts -/

/-- A script is carried out alone and to its end. -/
def Runs (x : Stack) (script : Script α) (y : Stack) (result : α) : Prop :=
  Works (fun _ => Script.next) x script y (.done result)

namespace Runs

variable {result : α}

theorem done_inv {r : α} (h : x.Runs (.done r) y result) :
    r = result ∧ y.store = x.store ∧ y.queue = x.queue := by
  unfold Runs at h
  generalize hscript : Script.done r = script at h
  generalize hend : Script.done result = last at h
  induction h with
  | rest x script =>
    cases hscript.trans hend.symm
    exact ⟨rfl, rfl, rfl⟩
  | wait span _ ih => exact ih hscript hend
  | move step =>
    cases hscript
    cases step

/-- The first call of a script is made at some time, and the rest is carried out after it. -/
theorem store_inv {call : StoreCall} {k : call.Reply → Script α}
    (h : x.Runs (.store call k) y result) :
    ∃ m : Moment, Runs { x with now := m.now, store := (x.store.perform m call).2 }
      (k (x.store.perform m call).1) y result := by
  unfold Runs at h
  generalize hscript : Script.store call k = script at h
  generalize hend : Script.done result = last at h
  induction h with
  | rest x script => cases hscript.trans hend.symm
  | wait span _ ih => exact ih hscript hend
  | move step later =>
    cases hscript
    cases hend
    cases step with
    | store _ _ m timely => exact ⟨m, timely ▸ later⟩

theorem queue_inv {call : QueueCall} {k : call.Reply → Script α}
    (h : x.Runs (.queue call k) y result) :
    ∃ now : Time, Runs { x with now, queue := (x.queue.perform now call).2 }
      (k (x.queue.perform now call).1) y result := by
  unfold Runs at h
  generalize hscript : Script.queue call k = script at h
  generalize hend : Script.done result = last at h
  induction h with
  | rest x script => cases hscript.trans hend.symm
  | wait span _ ih => exact ih hscript hend
  | move step later =>
    cases hscript
    cases hend
    cases step with
    | queue _ _ => exact ⟨_, later⟩

/-- The service asks the store for an operation.  It fails, and nothing has happened, or the rest of
the script is carried out after it. -/
theorem settled_inv {β : Type} {call : StoreCall} {k : call.Value → Script (Except JobError β)}
    {result : Except JobError β} (h : x.Runs (.askStoreFor call k) y result)
    (outcome : Moment → Store.Outcome call.Value)
    (asks : ∀ m, x.store.perform m call = x.store.settle (outcome m)) :
    (y.store = x.store ∧ y.queue = x.queue) ∨ ∃ m v t, outcome m = .ok (v, t) ∧
      Runs { x with now := m.now, store := t } (k v) y result := by
  obtain ⟨m, hrest⟩ := store_inv h
  rw [asks] at hrest
  cases houtcome : outcome m with
  | error e =>
    rw [houtcome] at hrest
    obtain ⟨-, hstore, hqueue⟩ := hrest.done_inv
    exact .inl ⟨hstore, hqueue⟩
  | ok r =>
    rw [houtcome] at hrest
    exact .inr ⟨m, r.1, r.2, houtcome, hrest⟩

end Runs

/-! ## Serial histories -/

/-- A poll of a lane is carried out alone and to its end. -/
def Polls (config : WorkerConfig) (presence : Presence) (x y : Stack) (result : PollResult) :
    Prop :=
  ∃ last, Works (Poll.next config) x { presence } y ⟨last, .finished result⟩

/-- A pass of a reconciler is carried out alone and to its end. -/
def Passes (config : ReconcilerConfig) (x y : Stack) (result : Except JobError PassReport) : Prop :=
  ∃ orphans, Works (Pass.next config) x {} y ⟨orphans, .finished result⟩

/-- Everything that was ever done was done one after the other. -/
inductive Serial : Stack → Prop
  | opened (now : Time) (ttl : Span) : Serial { now, queue := { ttl } }
  | waited {x : Stack} (before : x.Serial) (span : Span) : Serial { x with now := x.now + span }
  | created {x y : Stack} (before : x.Serial) {draft : Draft}
      {result : Except JobError (Job × Bool)} (runs : x.Runs (Service.create draft) y result) :
      y.Serial
  | cancelled {x y : Stack} (before : x.Serial) {id : JobId} {result : Except JobError Job}
      (runs : x.Runs (Service.cancel id) y result) : y.Serial
  | retried {x y : Stack} (before : x.Serial) {id : JobId} {result : Except JobError Job}
      (runs : x.Runs (Service.retry id) y result) : y.Serial
  | polled {x y : Stack} (before : x.Serial) {config : WorkerConfig} {presence : Presence}
      {result : PollResult} (polls : Polls config presence x y result) : y.Serial
  | passed {x y : Stack} (before : x.Serial) {config : ReconcilerConfig}
      {result : Except JobError PassReport} (passes : Passes config x y result) : y.Serial

end Stack

end Dispatch
