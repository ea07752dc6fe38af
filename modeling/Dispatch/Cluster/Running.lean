import Dispatch.Cluster.Basic

/-!
# Running a machine until it waits

A machine makes its calls one after the other without anybody stepping in between, until it has
to wait or ends.  Waiting for an alarm that has gone off is no waiting.  A machine that needs an
instant that the clock does not have breaks off where it is; what it has done stays done.
-/

namespace Dispatch

/-- Where a machine is after it was run. -/
inductive Progress (σ ρ : Type) where
  | resting (r : Running σ)
  | ended (result : ρ)
  /-- It broke off for want of an instant on the clock, and is gone without a result. -/
  | broken

/-- Why there is no reply to a machine that asked for an entry. -/
inductive Halt where
  | waits (w : Wait)
  /-- The clock does not have the end of the time granted. -/
  | breaks

namespace Running

variable {σ ρ : Type}

/-- The machine in a new state, not waiting. -/
def moved (r : Running σ) (state : σ) : Running σ := { r with state, wait := .nothing }

/-- The machine, waiting. -/
def waiting (r : Running σ) (wait : Wait) : Running σ := { r with wait }

/-- A call to the store, which faults hit unless the machine is an operator's. -/
def askStore (r : Running σ) (call : StoreCall) (c : Cluster) : call.Reply × Cluster :=
  if r.direct then c.storeDirectly call else c.askStore call

/-- A call to the queue, which faults hit unless the machine is an operator's. -/
def askQueue (r : Running σ) (call : QueueCall) (c : Cluster) : call.Reply × Cluster :=
  if r.direct then c.queueDirectly call else c.askQueue call

/-- The fault that hits a dequeue when it begins. -/
def strikeDequeue (r : Running σ) (c : Cluster) : Option (Fault QueueError) × Cluster :=
  if r.direct then (none, c)
  else
    let (fault, queueFaults) := c.queueFaults.strike "dequeue"
    (fault, { c with queueFaults })

/-- What a dequeue brings, unless it is lost. -/
def brought (lost : Option QueueError) (reply : DequeueReply) : DequeueReply :=
  match lost with
  | some e => .error e
  | none => reply

/-- Look for an entry: the reply, or the wait for the next one, with an alarm of its own. -/
def take (seen : Nat) (deadline : Time) (lost : Option QueueError) (c : Cluster) :
    Except Halt DequeueReply × Cluster :=
  if c.queue.closed then (.ok (brought lost (.error LeaseQueue.shut)), c)
  else
    match c.pop with
    | (some id, c) => (.ok (brought lost (.ok (some id))), c)
    | (none, c) =>
      if deadline ≤ c.now then (.ok (brought lost (.ok none)), c)
      else
        let (alarm, c) := c.setAlarm deadline
        (.error (.waits (.entry seen alarm lost)), c)

/-- Look for an entry for the first time.  The deadline is set before that. -/
def begin_ (timeout : Span) (lost : Option QueueError) (c : Cluster) :
    Except Halt DequeueReply × Cluster :=
  if c.queue.reaches (c.now + timeout) then take c.pushes (c.now + timeout) lost c
  else (.error .breaks, c)

/-- A dequeue that begins, or goes on after a wait. -/
def dequeue (r : Running σ) (timeout : Span) (c : Cluster) : Except Halt DequeueReply × Cluster :=
  match r.wait with
  | .entry seen deadline lost =>
    if seen < c.pushes ∨ deadline.isDue c.now then take c.pushes deadline.due lost c
    else (.error (.waits (.entry seen deadline lost)), c)
  | _ =>
    let (fault, c) := r.strikeDequeue c
    match fault with
    | some f => if f.applied then begin_ timeout (some f.error) c else (.ok (.error f.error), c)
    | none => begin_ timeout none c

/-- What a machine does next is done, and it goes on unless it waits, ends or breaks off. -/
@[inline]
def follow (goOn : Running σ → Cluster → Progress σ ρ × Cluster) (r : Running σ) (c : Cluster) :
    Next σ ρ → Progress σ ρ × Cluster
  | .store call k =>
    let (reply, c) := r.askStore call c
    goOn (r.moved (k reply)) c
  | .queue call k =>
    let (reply, after) := r.askQueue call c
    -- the call that closes the queue is the one that does not come to its end
    if after.queue.closed && !c.queue.closed then (.broken, after)
    else goOn (r.moved (k reply)) after
  | .dequeue timeout k =>
    match r.dequeue timeout c with
    | (.ok reply, c) => goOn (r.moved (k reply)) c
    | (.error (.waits wait), c) => (.resting (r.waiting wait), c)
    | (.error .breaks, c) => (.broken, c)
  | .execute job pace limit k =>
    if c.hasTimeFor pace limit then
      goOn (r.moved (k (c.heard r.crew limit))) (c.updateCrew r.crew (·.hand job))
    else (.broken, c)
  | .arm due k =>
    let (alarm, c) := c.setAlarm due
    goOn (r.moved (k alarm)) c
  | .sleep alarms state =>
    if alarms.any (·.isDue c.now) then goOn (r.moved state) c
    else (.resting (r.waiting (.alarm alarms)), c)
  | .look k => goOn (r.moved (k (c.crew r.crew).stop)) c
  | .await alarm seen k =>
    let news := (c.crew r.crew).news
    if seen < news then goOn (r.moved (k (some news))) c
    else if alarm.isDue c.now then goOn (r.moved (k none)) c
    else (.resting (r.waiting (.news seen alarm)), c)
  | .go state => goOn (r.moved state) c
  | .toss k =>
    let (b, c) := c.toss
    goOn (r.moved (k b)) c
  | .finished result => (.ended result, c)

/-- Run a machine until it waits, ends or breaks off, for so many steps at most. -/
def run (next : Time → σ → Next σ ρ) : Nat → Running σ → Cluster → Progress σ ρ × Cluster
  | 0, r, c => (.resting r, c)
  | fuel + 1, r, c => r.follow (run next fuel) c (next c.now r.state)

end Running

namespace Cluster

/-- Steps that a machine may make in one go.  A machine that makes more is set aside for others to
step in, which no machine here does. -/
def stride : Nat := 1000000000

/-- Run a member until it waits or is gone. -/
def runMember (r : Running Member) (c : Cluster) : Cluster :=
  match r.run Member.next stride c with
  | (.resting r, c) => { c with parked := c.parked ++ [r] }
  | (.ended (), c) | (.broken, c) =>
    c.updateCrew r.crew fun crew => { crew with left := crew.left - 1 }

/-- Run the members that may go on, and those that they wake, in order. -/
def drain : Nat → Cluster → Cluster
  | 0, c => c
  | fuel + 1, c =>
    match c.ready with
    | [] => c
    | r :: rest => drain fuel (runMember r { c with ready := rest }).wake

end Cluster

end Dispatch
