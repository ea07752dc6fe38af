import Dispatch.Cluster.Running

/-!
# Work in virtual time

What an operator does with a cluster: look at it, change it, let time pass, run a machine, set a
crew to work and wait for it, and do two things beside each other.  Two things beside each other
go on in turn, the first one first.
-/

namespace Dispatch

/-- Work that ends with a result. -/
inductive Work : Type → Type 1 where
  | done {α : Type} (result : α) : Work α
  | look {α : Type} (next : Cluster → Work α) : Work α
  | put {α : Type} (c : Cluster) (next : Work α) : Work α
  | sleep {α : Type} (due : Time) (next : Work α) : Work α
  | run {α σ ρ : Type} (step : Time → σ → Next σ ρ) (r : Running σ) (next : ρ → Work α) : Work α
  /-- Wait until no member of a crew is left. -/
  | join {α : Type} (crew : Nat) (next : Work α) : Work α
  | both {α β γ : Type} (first : Work β) (second : Work γ) (next : β → γ → Work α) : Work α
  /-- A machine broke off, and there will be no result. -/
  | broken {α : Type} : Work α

namespace Work

/-- Go on with the result. -/
def bind {α β : Type} (w : Work α) (k : α → Work β) : Work β :=
  match w with
  | done a => k a
  | look next => look fun c => (next c).bind k
  | put c next => put c (next.bind k)
  | sleep due next => sleep due (next.bind k)
  | run step r next => run step r fun result => (next result).bind k
  | join crew next => join crew (next.bind k)
  | both first second next => both first second fun a b => (next a b).bind k
  | broken => broken

instance : Monad Work where
  pure := done
  bind := bind

instance {α : Type} [Inhabited α] : Inhabited (Work α) := ⟨done default⟩

/-- The result, if the work is done. -/
def result? {α : Type} : Work α → Option α
  | done a => some a
  | _ => none

/-- Do as much as can be done now. -/
def advance {α : Type} (w : Work α) (c : Cluster) : Work α × Cluster :=
  match w with
  | done a => (done a, c)
  | look next => (next c).advance c
  | put c next => next.advance c
  | sleep due next => if due ≤ c.now then next.advance c else (sleep due next, c)
  | run step r next =>
    match r.run step Cluster.stride c with
    | (.resting r, c) => (run step r next, c)
    | (.ended result, c) => (next result).advance c
    | (.broken, c) => (broken, c)
  | join crew next => if (c.crew crew).left = 0 then next.advance c else (join crew next, c)
  | both first second next =>
    let (first, c) := first.advance c
    let (second, c) := second.advance c
    match first.result?, second.result? with
    | some a, some b => (next a b).advance c
    | _, _ => (both first second next, c)
  | broken => (broken, c)

/-- Something can be done now. -/
def canAdvance {α : Type} (c : Cluster) : Work α → Bool
  | done _ => false
  | look _ => true
  | put _ _ => true
  | sleep due _ => due ≤ c.now
  | run _ r _ => r.wait.isOver c r.crew
  | join crew _ => (c.crew crew).left = 0
  | both first second _ => first.canAdvance c || second.canAdvance c
  | broken => false

/-- The instants that are waited for. -/
def deadlines {α : Type} : Work α → List Time
  | done _ => []
  | look _ => []
  | put _ _ => []
  | sleep due _ => [due]
  | run _ r _ => r.wait.alarms.map (·.due)
  | join _ _ => []
  | both first second _ => first.deadlines ++ second.deadlines
  | broken => []

end Work

namespace Cluster

/-- The earliest of some instants. -/
def earliest? : List Time → Option Time
  | [] => none
  | t :: rest =>
    match earliest? rest with
    | none => some t
    | some u => some (if u < t then u else t)

/-- Do work to its end: the work goes first, then the members that may go on, and when nobody can
go on time moves to the earliest instant that somebody waits for.  There is no result if the work
breaks off, nobody waits for anything or the rounds run out. -/
def carryOut {α : Type} : Nat → Work α → Cluster → Option (α × Cluster)
  | 0, _, _ => none
  | rounds + 1, w, c =>
    let (w, c) := w.advance c
    let c := c.wake.drain stride
    match w.result? with
    | some a => some (a, c)
    | none =>
      if w.canAdvance c then carryOut rounds w c
      else
        match earliest? (w.deadlines ++ c.parked.flatMap (·.wait.alarms.map (·.due))) with
        | none => none
        | some due => carryOut rounds w (c.moveTo (if c.now < due then due else c.now))

end Cluster

end Dispatch
