import Dispatch.Error
import Dispatch.Queue.Basic

/-!
# Calls to the lease queue

The requests that are answered at once, as data.  Taking an entry off the ready list may wait, so
it is not among them.
-/

namespace Dispatch

/-- A request to a lease queue. -/
inductive QueueCall where
  | enqueue (id : JobId)
  | remove (id : JobId)
  | contains (id : JobId)
  | acquire (id : JobId) (worker : WorkerId)
  | release (id : JobId)
  | ping
deriving Repr

namespace QueueCall

/-- What a call brings when it succeeds. -/
def Value : QueueCall → Type
  | enqueue _ => Unit
  | remove _ => Nat
  | contains _ => Bool
  | acquire _ _ => Bool
  | release _ => Unit
  | ping => Unit

/-- The answer to a call. -/
abbrev Reply (c : QueueCall) : Type := Except QueueError c.Value

/-- The name under which a call is known to operators. -/
def name : QueueCall → String
  | enqueue _ => "enqueue"
  | remove _ => "remove"
  | contains _ => "contains"
  | acquire _ _ => "acquire_lease"
  | release _ => "release_lease"
  | ping => "ping"

end QueueCall

/-- What waits for an entry of the ready list gets. -/
abbrev DequeueReply : Type := Except QueueError (Option JobId)

namespace LeaseQueue

/-- Answer a call that comes to its end. -/
def perform (q : LeaseQueue) (now : Time) : (c : QueueCall) → c.Reply × LeaseQueue
  | .enqueue id => (.ok (), q.enqueue id)
  | .remove id => let (n, next) := q.remove id; (.ok n, next)
  | .contains id => (.ok (q.contains id), q)
  | .acquire id worker => let (granted, next) := q.acquire id worker now; (.ok granted, next)
  | .release id => (.ok (), q.release id)
  | .ping => (.ok (), q)

/-- The call does not come to its end. -/
def breaksOff (q : LeaseQueue) (now : Time) : QueueCall → Bool
  | .acquire id _ => q.overruns id now
  | _ => false

/-- What everybody hears of a closed queue. -/
def shut : QueueError := .connection "in-memory queue lock poisoned"

/-- Make a call.  One that breaks off has no answer and closes the queue. -/
def call (q : LeaseQueue) (now : Time) (c : QueueCall) : Option c.Reply × LeaseQueue :=
  if q.closed then (some (.error shut), q)
  else if q.breaksOff now c then (none, { q with closed := true })
  else ((q.perform now c).1, (q.perform now c).2)

theorem call_of_closed {q : LeaseQueue} (closed : q.closed = true) (now : Time) (c : QueueCall) :
    q.call now c = (some (.error shut), q) := by
  rw [call, if_pos closed]

theorem call_of_breaksOff {q : LeaseQueue} {now : Time} {c : QueueCall}
    (usable : q.closed = false) (breaks : q.breaksOff now c = true) :
    q.call now c = (none, { q with closed := true }) := by
  rw [call, if_neg (Bool.not_eq_true _ ▸ usable), if_pos breaks]

theorem call_of_returns {q : LeaseQueue} {now : Time} {c : QueueCall}
    (usable : q.closed = false) (returns : q.breaksOff now c = false) :
    q.call now c = (some (q.perform now c).1, (q.perform now c).2) := by
  rw [call, if_neg (Bool.not_eq_true _ ▸ usable), if_neg (Bool.not_eq_true _ ▸ returns)]

theorem closed_perform (q : LeaseQueue) (now : Time) (c : QueueCall) :
    (q.perform now c).2.closed = q.closed := by
  cases c with
  | acquire id worker =>
    simp only [perform, acquire]
    split <;> rfl
  | enqueue | remove | contains | release | ping => rfl

end LeaseQueue

end Dispatch
