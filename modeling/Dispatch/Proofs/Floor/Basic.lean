import Dispatch.Proofs.Store.Run
import Dispatch.Reconciler.Loop
import Dispatch.Service
import Dispatch.Worker.Lane

/-!
# The floor

Any number of lanes, reconcilers, single passes and requests to the service work on one store and
one queue in memory.  A schedule says who does the next thing, what is left to chance, and what
happens besides: time passes, agents come, a shutdown signal is sent, the queue is meddled with.
Every schedule is allowed, so whatever is proved of `Floor.run` holds however the agents' calls
fall between each other, and however long each of them takes.

The calls and waits on the floor are those that come to their end.  Where the clock has no instant
for the end of a lease or of a wait, whoever asks for it breaks off and does nothing more, and so
does whoever calls the queue in memory after a lease broke off: they do not come up in the schedule
again.  Where two ways are open at once, chance decides (`Chance`).

The floor keeps a history of what was done, which nobody on it reads.
-/

namespace Dispatch

/-! ## Requests -/

/-- What callers ask of the service. -/
inductive Request where
  | create (draft : Draft)
  | get (id : JobId)
  | list (filter : Filter)
  | cancel (id : JobId)
  | retry (id : JobId)
  | events (id : JobId) (limit : Nat)
  | workers
  | tally
  | overview
  | health

/-- What the service does about a request, the answer left out. -/
def Request.script : Request → Script Unit
  | create draft => (Service.create draft).map fun _ => ()
  | get id => (Service.get id).map fun _ => ()
  | list filter => (Service.list filter).map fun _ => ()
  | cancel id => (Service.cancel id).map fun _ => ()
  | retry id => (Service.retry id).map fun _ => ()
  | events id limit => (Service.events id limit).map fun _ => ()
  | workers => Service.workers.map fun _ => ()
  | tally => Service.tally.map fun _ => ()
  | overview => Service.overview.map fun _ => ()
  | health => Service.health.map fun _ => ()

/-- A script as a machine. -/
def Script.next {α : Type} : Script α → Next (Script α) α
  | done result => .finished result
  | store call k => .store call k
  | queue call k => .queue call k

/-! ## Agents -/

/-- A machine that works on the floor. -/
inductive Agent where
  | lane (l : Lane)
  | reconciler (r : Reconciler)
  | pass (config : ReconcilerConfig) (p : Pass)
  | request (rest : Script Unit)

namespace Agent

/-- What an agent does next. -/
def next (now : Time) : Agent → Next Agent Unit
  | lane l => (l.next now).lift lane .finished
  | reconciler r => (r.next now).lift reconciler .finished
  | pass config p => (p.next config now).lift (pass config) fun _ => .finished ()
  | request rest => rest.next.lift request .finished

/-- The poll of a lane that has ended, and the settings it was made with. -/
def returned : Agent → Option (WorkerConfig × PollResult)
  | lane { config, stage := .polling (.finished result), .. } => some (config, result)
  | _ => none

end Agent

/-! ## The floor -/

/-- Something that an agent did; agents are numbered as they came. -/
inductive Note where
  /-- The agent called the store. -/
  | dealt (agent : Nat) (d : Dealing)
  /-- The agent handed a job to its provider, who has an answer to it. -/
  | handed (agent : Nat) (job : Job) (answer : Answer)
  /-- A poll of the agent returned. -/
  | polled (agent : Nat) (config : WorkerConfig) (result : PollResult)

/-- Whose doing it was. -/
def Note.agent : Note → Nat
  | dealt agent _ | handed agent _ _ | polled agent _ _ => agent

/-- A store and a queue, and everything that works on them. -/
structure Floor where
  now : Time
  store : Store := .empty
  queue : LeaseQueue := {}
  /-- How many alarms were ever set. -/
  alarms : Nat := 0
  /-- The last value of the shutdown channel. -/
  stop : Bool := false
  /-- How many values were sent. -/
  news : Nat := 0
  agents : List Agent := []
  /-- Oldest first. -/
  history : List Note := []

/-- What is left to chance when an agent does its next thing. -/
structure Chance where
  fresh : FreshIds
  answer : Answer := {}
  /-- Where an alarm and news come together, the alarm is heard. -/
  alarmHeard : Bool := false
  /-- Which way to go where there are two. -/
  way : Bool := false

/-- What can happen. -/
inductive Action where
  /-- An agent does its next thing, or goes on waiting. -/
  | act (agent : Nat) (chance : Chance)
  /-- Time passes, and leases lapse. -/
  | wait (span : Span)
  /-- A lane sets to work. -/
  | hire (config : WorkerConfig)
  /-- A reconciler sets to work. -/
  | maintain (config : ReconcilerConfig)
  /-- A single pass sets to work. -/
  | reconcile (config : ReconcilerConfig)
  /-- The service gets a request. -/
  | ask (request : Request)
  /-- A value is sent on the shutdown channel. -/
  | signal (stop : Bool)
  /-- Something happens to the queue: entries come, go and repeat, leases appear and vanish. -/
  | meddle (queue : LeaseQueue)

namespace Floor

/-- The agent after what it does next, and the floor but for the agent; nothing if the agent has
to wait or is done.  A dequeue may give up on an empty ready list at any time. -/
def carry (f : Floor) (i : Nat) (chance : Chance) : Next Agent Unit → Option (Agent × Floor)
  | .store call k =>
    let moment : Moment := ⟨f.now, chance.fresh⟩
    some (k (f.store.perform moment call).1,
      { f with
        store := (f.store.perform moment call).2
        history := f.history ++ [.dealt i ⟨f.store, moment, call⟩] })
  | .queue call k =>
    some (k (f.queue.perform f.now call).1,
      { f with queue := (f.queue.perform f.now call).2 })
  | .dequeue _ k =>
    some (k (.ok f.queue.pop.1), { f with queue := f.queue.pop.2 })
  | .execute job _ _ k =>
    some (k chance.answer, { f with history := f.history ++ [.handed i job chance.answer] })
  | .arm due k => some (k ⟨due, f.alarms⟩, { f with alarms := f.alarms + 1 })
  | .sleep alarms a => if alarms.any (·.isDue f.now) then some (a, f) else none
  | .look k => some (k f.stop, f)
  | .await alarm seen k =>
    if seen < f.news ∧ !(chance.alarmHeard && alarm.isDue f.now) then some (k (some f.news), f)
    else if alarm.isDue f.now then some (k none, f)
    else none
  | .go a => some (a, f)
  | .toss k => some (k chance.way, f)
  | .finished () => none

/-- The note that a poll has returned. -/
def report (i : Nat) (a : Agent) : List Note :=
  match a.returned with
  | some (config, result) => [.polled i config result]
  | none => []

/-- The floor after an agent has done its next thing. -/
def act (f : Floor) (i : Nat) (chance : Chance) : Floor :=
  match f.agents[i]? with
  | none => f
  | some a =>
    match f.carry i chance (a.next f.now) with
    | none => f
    | some (a', g) =>
      { g with agents := g.agents.set i a', history := g.history ++ report i a }

/-- The floor with one more agent. -/
def welcome (f : Floor) (a : Agent) : Floor := { f with agents := f.agents ++ [a] }

/-- What happens to the floor. -/
def step (f : Floor) : Action → Floor
  | .act i chance => f.act i chance
  | .wait span => { f with now := f.now + span }
  | .hire config => f.welcome (.lane { config })
  | .maintain config => f.welcome (.reconciler { config })
  | .reconcile config => f.welcome (.pass config {})
  | .ask request => f.welcome (.request request.script)
  | .signal stop => { f with stop, news := f.news + 1 }
  | .meddle queue => { f with queue }

/-- A floor on which nobody works yet, with nothing in the store and the queue. -/
def empty (now : Time) : Floor := { now }

/-- The floor after a schedule. -/
def run (f : Floor) (schedule : List Action) : Floor := schedule.foldl step f

end Floor

end Dispatch
