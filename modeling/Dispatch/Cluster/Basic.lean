import Dispatch.Cluster.Fault
import Dispatch.Reconciler.Loop
import Dispatch.Script
import Dispatch.Worker.Lane

/-!
# A cluster in virtual time

The store and the queue in memory, with everything that works on them in one process.  Time is a
value of the cluster and moves only when nobody can go on, so a run is a function of its inputs.
Machines that cannot go on are parked in the order in which they began to wait.  When time moves,
they go on in the order in which the alarms were set that now go off.
-/

namespace Dispatch

/-- What a machine waits for. -/
inductive Wait where
  /-- It may go on. -/
  | nothing
  /-- The first of some alarms. -/
  | alarm (alarms : List Alarm)
  /-- An entry pushed after those already seen, or the end of the time granted.  The entry may be
  lost to a fault. -/
  | entry (seen : Nat) (deadline : Alarm) (lost : Option QueueError)
  /-- A value sent after those already seen, or the end of the time granted. -/
  | news (seen : Nat) (deadline : Alarm)

namespace Wait

/-- The alarms that end the wait. -/
def alarms : Wait → List Alarm
  | nothing => []
  | alarm alarms => alarms
  | entry _ deadline _ => [deadline]
  | news _ deadline => [deadline]

/-- The ticket of the alarm that has ended the wait. -/
def bell? (w : Wait) (now : Time) : Option Nat := Alarm.firstDue? now w.alarms

end Wait

/-- A machine at rest. -/
structure Running (σ : Type) where
  state : σ
  /-- The crew it belongs to. -/
  crew : Nat
  /-- An operator's machine, which faults do not hit. -/
  direct : Bool := false
  wait : Wait := .nothing

/-- A machine that runs on its own. -/
inductive Member where
  | lane (l : Lane)
  | reconciler (r : Reconciler)

/-- What a member does next. -/
def Member.next (now : Time) : Member → Next Member Unit
  | lane l => (l.next now).lift .lane .finished
  | reconciler r => (r.next now).lift .reconciler .finished

/-- What a group of machines shares: a provider and a shutdown channel. -/
structure Crew where
  /-- The provider's answers; the last one repeats. -/
  answers : List Answer := []
  /-- The jobs handed to the provider, in order. -/
  handed : List Job := []
  /-- The last value sent. -/
  stop : Bool := false
  /-- How many values were sent. -/
  news : Nat := 0
  /-- How many members are not done. -/
  left : Nat := 0

namespace Crew

/-- What the provider does with the next job. -/
def nextAnswer (c : Crew) : Answer :=
  match c.answers[c.handed.length]? with
  | some a => a
  | none => c.answers.getLast?.getD {}

/-- Hand a job to the provider. -/
def hand (c : Crew) (job : Job) : Crew := { c with handed := c.handed ++ [job] }

/-- Send a value. -/
def signal (c : Crew) (stop : Bool) : Crew := { c with stop, news := c.news + 1 }

end Crew

/-- A store and a queue, and everything that works on them. -/
structure Cluster where
  now : Time
  store : Store := .empty
  queue : LeaseQueue := {}
  /-- How many alarms were ever set. -/
  alarms : Nat := 0
  /-- How many entries were ever pushed. -/
  pushes : Nat := 0
  storeFaults : Faults StoreError := []
  queueFaults : Faults QueueError := []
  /-- What chance will decide, as far as it is known. -/
  coins : List Bool := []
  crews : List Crew := []
  /-- Members that may go on, in the order in which they run. -/
  ready : List (Running Member) := []
  /-- Members that wait, in the order in which they began to. -/
  parked : List (Running Member) := []

namespace Cluster

/-! ## Calls -/

/-- The identities of the next job.  Those of later jobs are greater. -/
def fresh (c : Cluster) : FreshIds :=
  .numbered (c.now.nanos / 1000000).toNat (c.store.jobs.rows.length + 1)

/-- A call to the store that faults do not hit. -/
def storeDirectly (call : StoreCall) (c : Cluster) : call.Reply × Cluster :=
  let (reply, store) := c.store.perform ⟨c.now, c.fresh⟩ call
  (reply, { c with store })

/-- How many entries a call pushes. -/
def pushed : QueueCall → Nat
  | .enqueue _ => 1
  | _ => 0

/-- A call to the queue that faults do not hit.  One that breaks off closes the queue, and an
operator hears of it what everybody hears from then on. -/
def queueDirectly (call : QueueCall) (c : Cluster) : call.Reply × Cluster :=
  let (reply, queue) := c.queue.call c.now call
  (reply.getD (.error LeaseQueue.shut),
    { c with queue, pushes := if queue.closed then c.pushes else c.pushes + pushed call })

/-- A call to the store. -/
def askStore (call : StoreCall) (c : Cluster) : call.Reply × Cluster :=
  let (fault, storeFaults) := c.storeFaults.strike call.name
  Fault.hit fault (storeDirectly call) { c with storeFaults }

/-- A call to the queue. -/
def askQueue (call : QueueCall) (c : Cluster) : call.Reply × Cluster :=
  let (fault, queueFaults) := c.queueFaults.strike call.name
  Fault.hit fault (queueDirectly call) { c with queueFaults }

/-- The cluster as a backend of scripts. -/
def backend : Script.Backend Cluster := ⟨askStore, askQueue⟩

/-- Take the oldest entry off the ready list. -/
def pop (c : Cluster) : Option JobId × Cluster :=
  let (id, queue) := c.queue.pop
  (id, { c with queue })

/-- Decide between two ways. -/
def toss (c : Cluster) : Bool × Cluster := (c.coins.headD false, { c with coins := c.coins.tail })

/-- Set an alarm. -/
def setAlarm (due : Time) (c : Cluster) : Alarm × Cluster :=
  (⟨due, c.alarms⟩, { c with alarms := c.alarms + 1 })

/-! ## Crews -/

/-- A crew by its number. -/
def crew (c : Cluster) (n : Nat) : Crew := c.crews[n]?.getD {}

/-- The clock has the instants at which somebody wants to be woken first and to give up at last. -/
def hasTimeFor (pace limit : Span) (c : Cluster) : Bool :=
  c.queue.reaches (c.now + pace) &&
    (c.queue.reaches (c.now + limit) || c.queue.reaches (c.now + Span.farFuture))

/-- The provider's next answer as it is heard by somebody who waits for it so long at most. -/
def heard (n : Nat) (limit : Span) (c : Cluster) : Answer :=
  if c.queue.reaches (c.now + limit) then (c.crew n).nextAnswer else (c.crew n).nextAnswer.cut limit

/-- The cluster with a crew changed. -/
def updateCrew (c : Cluster) (n : Nat) (f : Crew → Crew) : Cluster :=
  { c with crews := c.crews.modify n f }

/-- The cluster with one more crew, numbered after those there are. -/
def addCrew (c : Cluster) (crew : Crew) : Cluster := { c with crews := c.crews ++ [crew] }

/-- The cluster with members set to work, in order. -/
def employ (c : Cluster) (n : Nat) (members : List Member) : Cluster :=
  { (c.updateCrew n fun crew => { crew with left := crew.left + members.length }) with
    ready := c.ready ++ members.map fun m => { state := m, crew := n } }

end Cluster

/-- The wait is over. -/
def Wait.isOver (w : Wait) (c : Cluster) (crew : Nat) : Bool :=
  match w with
  | nothing => true
  | alarm alarms => alarms.any (·.isDue c.now)
  | entry seen deadline _ => seen < c.pushes || deadline.isDue c.now
  | news seen deadline => seen < (c.crew crew).news || deadline.isDue c.now

namespace Cluster

/-- The cluster with the members whose wait is over set to run, in the order in which they began
to wait. -/
def wake (c : Cluster) : Cluster :=
  let woken (r : Running Member) : Bool := r.wait.isOver c r.crew
  { c with ready := c.ready ++ c.parked.filter woken, parked := c.parked.filter (!woken ·) }

/-- The cluster at a later instant, with the members whose alarms have gone off set to run, in the
order of these alarms. -/
def moveTo (now : Time) (c : Cluster) : Cluster :=
  let bell (r : Running Member) : Option Nat := r.wait.bell? now
  let roused := c.parked.filterMap fun r => (bell r).map fun ticket => (ticket, r)
  { c with
    now
    ready := c.ready ++ (roused.mergeSort fun a b => a.1 ≤ b.1).map (·.2)
    parked := c.parked.filter fun r => (bell r).isNone }

end Cluster

end Dispatch
