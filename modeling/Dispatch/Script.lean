import Dispatch.Queue.Call
import Dispatch.Store.Call

/-!
# Scripts

A script is a finite piece of work against a store and a queue: it makes a call, and the answer
decides how it goes on.  What answers the calls is not part of the script, so the same script runs
over memory, over databases, and over backends that fail.
-/

namespace Dispatch

/-- Work that ends with a result. -/
inductive Script (α : Type) where
  | done (result : α)
  | store (call : StoreCall) (next : call.Reply → Script α)
  | queue (call : QueueCall) (next : call.Reply → Script α)

namespace Script

/-- Go on with the result. -/
def bind {α β : Type} (s : Script α) (next : α → Script β) : Script β :=
  match s with
  | done a => next a
  | store c k => store c fun r => bind (k r) next
  | queue c k => queue c fun r => bind (k r) next

/-- Change the result. -/
def map {α β : Type} (f : α → β) (s : Script α) : Script β := s.bind fun a => done (f a)

/-- Make one call to the store. -/
def askStore (c : StoreCall) : Script c.Reply := store c done

/-- Make one call to the store for the service. -/
def askStoreFor {β : Type} (c : StoreCall) (next : c.Value → Script (Except JobError β)) :
    Script (Except JobError β) :=
  store c fun
    | .ok v => next v
    | .error e => done (.error e.toJob)

/-- What answers the calls, in a world of some kind. -/
structure Backend (ω : Type) where
  store : (c : StoreCall) → ω → c.Reply × ω
  queue : (c : QueueCall) → ω → c.Reply × ω

/-- Run a script to its end. -/
def run {ω α : Type} (b : Backend ω) : Script α → ω → α × ω
  | done a, w => (a, w)
  | store c k, w => let (r, w) := b.store c w; run b (k r) w
  | queue c k, w => let (r, w) := b.queue c w; run b (k r) w

end Script

end Dispatch
