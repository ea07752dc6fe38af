import Dispatch.Cluster.Work
import Dispatch.Service

/-!
# Sessions

A session is a list of steps, one after the other; beside a step others may be done at set times.
Every step leaves a record: its result, what the cluster looks like right after it, and the records
of what was done beside it.
-/

namespace Dispatch

/-- What a cluster looks like at the end of a step. -/
structure Mark where
  now : Time
  /-- Status and attempt of every job, in the order of creation. -/
  jobs : List (JobStatus × Int)
  /-- The length of the ready list. -/
  ready : Nat
deriving Repr, Inhabited

/-- The marks of a cluster. -/
def Cluster.mark (c : Cluster) : Mark :=
  { now := c.now
    jobs := c.store.jobs.rows.map fun j => (j.status, j.attempt)
    ready := c.queue.ready.length }

/-- What a step leaves. -/
inductive Record (ρ : Type) where
  | mk (result : ρ) (mark : Mark) (beside : Option (List (Record ρ)))

instance {ρ : Type} [Inhabited ρ] : Inhabited (Record ρ) := ⟨.mk default default none⟩

namespace Work

/-! ## Steps -/

/-- Do something that takes no time. -/
def call {α : Type} (f : Cluster → α × Cluster) : Work α :=
  look fun c => let (a, c) := f c; put c (done a)

/-- Run a script. -/
def script {α : Type} (s : Script α) : Work α := call (s.run Cluster.backend)

/-- Let time pass. -/
def pause (s : Span) : Work Unit := look fun c => sleep (c.now + s) (done ())

/-- Create jobs from one draft, with a pause after each, until one is refused. -/
def createMany (draft : Draft) (every : Span) : Nat → Work (Except JobError Unit)
  | 0 => done (.ok ())
  | count + 1 => do
    match ← script (Service.create draft) with
    | .error e => done (.error e)
    | .ok _ =>
      pause every
      createMany draft every count

/-- What an operator's dequeue does next. -/
def dequeueNext (timeout : Span) (_ : Time) : Option DequeueReply → Next (Option DequeueReply)
    DequeueReply
  | none => .dequeue timeout some
  | some reply => .finished reply

/-- Take an entry off the ready list as an operator. -/
def dequeue (timeout : Span) : Work DequeueReply :=
  run (dequeueNext timeout) { state := none, crew := 0, direct := true } done

/-- Give work to a new crew, and see at the end what its provider was handed. -/
def withCrew {α : Type} (answers : List Answer) (w : Nat → Work α) : Work (α × List Job) := do
  let n ← call fun c => (c.crews.length, c.addCrew { answers })
  let a ← w n
  call fun c => ((a, (c.crew n).handed), c)

/-- One poll of a fresh lane. -/
def poll (config : WorkerConfig) (answers : List Answer) : Work (PollResult × List Job) :=
  withCrew answers fun n =>
    run (fun now (p : Poll) => p.next config now) { state := {}, crew := n } fun r => done r.1

/-- One pass of a reconciler. -/
def reconcile (config : ReconcilerConfig) : Work (Except JobError PassReport) :=
  run (fun now (p : Pass) => p.next config now) { state := {}, crew := 0 } done

/-- Send values on the shutdown channel of a crew, each at its time. -/
def signals (n : Nat) : List (Time × Bool) → Work Unit
  | [] => done ()
  | (at_, stop) :: rest => sleep at_ do
    call fun c => ((), c.updateCrew n (·.signal stop))
    signals n rest

/-- A shift: lanes and a reconciler that share a provider and are told to stop after a while. -/
structure Shift where
  worker : WorkerConfig
  lanes : Nat
  reconciler : ReconcilerConfig
  answers : List Answer
  /-- Values sent on the shutdown channel, each so long after the start. -/
  signals : List (Span × Bool)
  runFor : Span

/-- Work a shift from start to end: how many machines it had, and what the provider was
handed. -/
def operate (s : Shift) : Work (Nat × List Job) :=
  withCrew s.answers fun n => do
    let members := (Lane.spawn s.worker s.lanes).map Member.lane ++
      [Member.reconciler { config := s.reconciler }]
    let start ← call fun c => (c.now, c.employ n members)
    signals n (s.signals.map (fun (after, stop) => (start + after, stop)) ++
      [(start + s.runFor, true)])
    join n (done members.length)

/-! ## Records -/

/-- The record of work. -/
def recorded {ρ : Type} (w : Work ρ) : Work (Record ρ) := do
  let result ← w
  look fun c => done (.mk result c.mark none)

/-- Do steps at set times after a start, each after the one before. -/
def timed {ρ : Type} (start : Time) : List (Span × Work (Record ρ)) → Work (List (Record ρ))
  | [] => done []
  | (after, w) :: rest => sleep (start + after) do
    let r ← w
    let rs ← timed start rest
    return r :: rs

/-- Do work, and other steps beside it. -/
def beside {ρ : Type} (w : Work ρ) (others : List (Span × Work (Record ρ))) : Work (Record ρ) :=
  look fun c => both w (timed c.now others) fun result records =>
    look fun c => done (.mk result c.mark (some records))

/-- Do steps one after the other. -/
def steps {ρ : Type} : List (Work (Record ρ)) → Work (List (Record ρ))
  | [] => done []
  | w :: rest => do
    let r ← w
    let rs ← steps rest
    return r :: rs

end Work

end Dispatch
