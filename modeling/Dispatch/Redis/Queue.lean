import Dispatch.Queue.Call
import Dispatch.Redis.Command
import Dispatch.Redis.Reply
import Dispatch.Text.Quoted

/-!
# The lease queue on a server

Every call of the lease queue is one command, and its answer is read off the reply.  A connection
that breaks and a server that refuses or makes no sense are told apart; an entry of the ready list
that names no job is reported as it is.
-/

namespace Dispatch

/-- A lease queue whose ready list and leases are kept on a server. -/
structure RedisQueue where
  /-- The key of the ready list. -/
  readyKey : String := "queue:ready"
  /-- How long a lease lasts. -/
  ttl : Span := .ofSeconds 30
deriving DecidableEq, Repr

namespace RedisQueue

open Redis

/-- The queue as logs show it. -/
def describe (q : RedisQueue) : String :=
  "RedisLeaseQueue \x7b ready_key: " ++ Text.quoted q.readyKey ++ ", lease_ttl: " ++ q.ttl.text ++
    ", .. \x7d"

/-- The milliseconds that a lease is asked for: whole ones, at least one, in a 64-bit word. -/
def leaseMillis (q : RedisQueue) : Nat := max (q.ttl.nanos / 1000000) 1 % 18446744073709551616

/-- The command that a call is. -/
def command (q : RedisQueue) : QueueCall → Command
  | .enqueue id => .push q.readyKey id.text
  | .remove id => .removeAll q.readyKey id.text
  | .contains id => .position q.readyKey id.text
  | .acquire id worker => .claim id.leaseKey worker.text q.leaseMillis
  | .release id => .delete id.leaseKey
  | .ping => .ping

/-- The command that takes an entry off the ready list; without a timeout it does not wait. -/
def dequeueCommand (q : RedisQueue) (timeout : Span) : Command :=
  if timeout = .zero then .pop q.readyKey else .popWithin q.readyKey timeout

/-- Read the reply to a command. -/
def read {α : Type} (c : Command) (reader : Reply → Option α) (r : Reply) : Except QueueError α :=
  match r, reader r with
  | .broken, _ => .error (.connection c.operation)
  | _, some a => .ok a
  | _, none => .error (.command c.operation)

/-- What a call brings, by the reply to its command. -/
def answer (q : RedisQueue) (c : QueueCall) (r : Reply) : c.Reply :=
  match c with
  | .enqueue id => (read (q.command (.enqueue id)) Reply.int? r).map fun _ => ()
  | .remove id => (read (q.command (.remove id)) Reply.int? r).map Int.toNat
  | .contains id =>
    (read (q.command (.contains id)) (Reply.nullable Reply.int?) r).map Option.isSome
  | .acquire id worker =>
    (read (q.command (.acquire id worker)) (Reply.nullable Reply.text?) r).map Option.isSome
  | .release id => (read (q.command (.release id)) Reply.int? r).map fun _ => ()
  | .ping => (read (q.command .ping) Reply.text? r).map fun _ => ()

/-- The job that an entry of the ready list names. -/
def parseEntry (entry : String) : Except QueueError JobId :=
  match JobId.ofText? entry with
  | some id => .ok id
  | none => .error (.protocol ("ready list entry is not a job id: " ++ Text.quoted entry))

/-- The entry that a reply brings: alone, or behind the key of its list. -/
def entryReader (timeout : Span) : Reply → Option (Option String) :=
  if timeout = .zero then Reply.nullable Reply.text?
  else Reply.nullable fun r => r.pair?.map (·.2)

/-- What waiting for an entry brings, by the reply to its command. -/
def dequeued (q : RedisQueue) (timeout : Span) (r : Reply) : DequeueReply :=
  match read (q.dequeueCommand timeout) (entryReader timeout) r with
  | .error e => .error e
  | .ok none => .ok none
  | .ok (some entry) => (parseEntry entry).map some

end RedisQueue

end Dispatch
