import Dispatch.Provider
import Dispatch.Queue.Call
import Dispatch.Store.Call
import Dispatch.Time.Alarm

/-!
# Activities

A lane and the reconciler run beside each other, so their work is not a function but a machine
that stops at every point where others may step in: it makes one call, or waits, and the answer
takes it to its next state.  `Next` is what such a machine does next.  Who answers and in which
order the machines run is decided elsewhere.
-/

namespace Dispatch

/-- What a machine with states `σ` does next; it ends with a result of type `ρ`. -/
inductive Next (σ ρ : Type) where
  /-- Make a call to the store. -/
  | store (call : StoreCall) (next : call.Reply → σ)
  /-- Make a call to the queue. -/
  | queue (call : QueueCall) (next : call.Reply → σ)
  /-- Wait for an entry of the ready list, so long at most. -/
  | dequeue (timeout : Span) (next : DequeueReply → σ)
  /-- Hand a job to the provider and wait for the answer, so long at most.  The machine wants to be
  woken at a pace meanwhile, and breaks off if the clock does not go so far. -/
  | execute (job : Job) (pace limit : Span) (next : Answer → σ)
  /-- Set an alarm, which goes on running until it goes off. -/
  | arm (due : Time) (next : Alarm → σ)
  /-- Wait for the first of some alarms. -/
  | sleep (alarms : List Alarm) (next : σ)
  /-- Look whether the process is to stop. -/
  | look (next : Bool → σ)
  /-- Wait for an alarm or for news of the shutdown channel that were not seen yet; the news is
  the number of the last value sent. -/
  | await (alarm : Alarm) (seen : Nat) (next : Option Nat → σ)
  /-- Go on at once. -/
  | go (next : σ)
  /-- Go on at once, this way or that. -/
  | toss (next : Bool → σ)
  /-- The end. -/
  | finished (result : ρ)

/-- What a machine does next that has another machine at work inside it: the same, with the inner
states wrapped up, until the inner machine ends. -/
def Next.lift {σ τ ρ π : Type} (wrap : σ → τ) (atEnd : ρ → Next τ π) : Next σ ρ → Next τ π
  | .store call next => .store call fun r => wrap (next r)
  | .queue call next => .queue call fun r => wrap (next r)
  | .dequeue timeout next => .dequeue timeout fun r => wrap (next r)
  | .execute job pace limit next => .execute job pace limit fun a => wrap (next a)
  | .arm due next => .arm due fun a => wrap (next a)
  | .sleep alarms next => .sleep alarms (wrap next)
  | .look next => .look fun b => wrap (next b)
  | .await alarm seen next => .await alarm seen fun n => wrap (next n)
  | .go next => .go (wrap next)
  | .toss next => .toss fun b => wrap (next b)
  | .finished result => atEnd result

end Dispatch
