import Dispatch.Activity
import Dispatch.Worker.Config

/-!
# One poll of a lane

A poll takes an entry off the ready list and sees it through: lease the job, start it, report it,
run the provider under its time limit while reporting on schedule, commit what came out, give the
lease back and report again.  The machine has one phase for each of its calls and waits.

Errors of the dequeue, of the lease and of the start end the poll.  Everything after the start ends
in an outcome: reports and the return of the lease may fail without consequence, and a commit
either settles the attempt, finds it settled by somebody else, or gives up after its last try.
-/

namespace Dispatch

/-- What a poll did. -/
inductive PollOutcome where
  /-- No entry came in time. -/
  | idle
  /-- Somebody else holds the job. -/
  | leaseHeld (id : JobId)
  /-- The job was not waiting any more. -/
  | skipped (id : JobId)
  | succeeded (id : JobId)
  | failed (id : JobId) (code : FailureCode)
  /-- The attempt was settled by somebody else meanwhile. -/
  | abandoned (id : JobId)
  /-- The store could not be told; the attempt stays open. -/
  | uncommitted (id : JobId)
deriving DecidableEq, Repr

namespace PollOutcome

/-- The word for what became of the poll. -/
def name : PollOutcome → String
  | idle => "idle"
  | leaseHeld _ => "lease_held"
  | skipped _ => "skipped"
  | succeeded _ => "succeeded"
  | failed _ _ => "failed"
  | abandoned _ => "abandoned"
  | uncommitted _ => "uncommitted"

/-- The job that an entry named. -/
def job? : PollOutcome → Option JobId
  | idle => none
  | leaseHeld id | skipped id | succeeded id | failed id _ | abandoned id | uncommitted id =>
    some id

/-- Why the attempt failed. -/
def code? : PollOutcome → Option FailureCode
  | failed _ code => some code
  | _ => none

end PollOutcome

/-- How a poll ends. -/
abbrev PollResult : Type := Except JobError PollOutcome

/-- What a lane last said and would say about itself. -/
structure Presence where
  state : WorkerState := .idle
  running : Option JobId := none
  lastBeat : Option Time := none
deriving DecidableEq, Repr, Inhabited

namespace Presence

/-- Nothing to do. -/
def rest (p : Presence) : Presence := { p with state := .idle, running := none }

/-- At work on a job. -/
def work (p : Presence) (id : JobId) : Presence := { p with state := .busy, running := some id }

/-- The report. -/
def beat (p : Presence) (config : WorkerConfig) : StoreCall :=
  .beat config.worker p.state p.running config.concurrency

/-- A report that was taken counts; one that failed does not. -/
def noted (p : Presence) (now : Time) : Except StoreError Unit → Presence
  | .ok _ => { p with lastBeat := some now }
  | .error _ => p

/-- The last report is at least an interval old, or there was none. -/
def isDue (p : Presence) (now : Time) (interval : Span) : Bool :=
  match p.lastBeat with
  | none => true
  | some last => interval ≤ now.since last

end Presence

/-- A running execution: the provider's answer on its way, and the alarm for the moment when the
answer or the limit comes. -/
structure Execution where
  answer : Answer
  ends : Alarm

/-- Where a poll is. -/
inductive PollPhase where
  | dequeuing
  | leasing (id : JobId)
  | starting (id : JobId)
  /-- Giving back the lease on a job that was not started. -/
  | dropping (id : JobId) (result : PollResult)
  /-- Reporting the job that was started. -/
  | announcing (job : Job)
  | handing (job : Job)
  /-- Setting the alarm for the end of the execution. -/
  | limiting (job : Job) (answer : Answer)
  /-- Setting the alarm for the next report. -/
  | scheduling (job : Job) (run : Execution) (due : Time)
  | executing (job : Job) (run : Execution) (report : Alarm)
  /-- Something is due: the end or a report, or both. -/
  | rousing (job : Job) (run : Execution) (report : Alarm)
  /-- Making the report that was due at an instant. -/
  | beating (job : Job) (run : Execution) (due : Time)
  | committing (job : Job) (result : Except ProviderError Usage) (round : Nat)
  /-- About to pause before the next try. -/
  | pausing (job : Job) (result : Except ProviderError Usage) (round : Nat)
  | paused (job : Job) (result : Except ProviderError Usage) (round : Nat) (alarm : Alarm)
  | releasing (id : JobId) (outcome : PollOutcome)
  /-- Reporting that the lane is idle again. -/
  | retiring (outcome : PollOutcome)
  | finished (result : PollResult)

/-- A poll: where it is, and what the lane says about itself. -/
structure Poll where
  presence : Presence := {}
  phase : PollPhase := .dequeuing

namespace Poll

/-- The commit of an execution's result. -/
def commitCall (worker : WorkerId) (job : Job) : Except ProviderError Usage → StoreCall
  | .ok usage => .succeed job.id job.attempt worker usage
  | .error e => .fail job.id job.attempt worker e.code e.message

/-- What a settled commit means. -/
def committed (job : Job) : Except ProviderError Usage → PollOutcome
  | .ok _ => .succeeded job.id
  | .error e => .failed job.id e.code

/-- The phase after a try to commit. -/
def afterCommit (config : WorkerConfig) (job : Job) (result : Except ProviderError Usage)
    (round : Nat) : Except StoreError Unit → PollPhase
  | .ok _ => .releasing job.id (committed job result)
  | .error (.notFound _) => .releasing job.id (.abandoned job.id)
  | .error e =>
    if round < config.commitTries ∧ e.toJob.isTransient then .pausing job result round
    else .releasing job.id (.uncommitted job.id)

/-- The answer of a commit, whichever of the two it was. -/
def commitReply (worker : WorkerId) (job : Job) :
    (result : Except ProviderError Usage) → (commitCall worker job result).Reply →
      Except StoreError Unit
  | .ok _, r => r
  | .error _, r => r

/-- What a poll does next. -/
def next (config : WorkerConfig) (now : Time) (p : Poll) : Next Poll (PollResult × Presence) :=
  let go (phase : PollPhase) : Poll := { p with phase }
  match p.phase with
  | .dequeuing => .dequeue config.dequeueTimeout fun
    | .error e => go (.finished (.error e.toJob))
    | .ok none => go (.finished (.ok .idle))
    | .ok (some id) => go (.leasing id)
  | .leasing id => .queue (.acquire id config.worker) fun
    | .error e => go (.finished (.error e.toJob))
    | .ok false => go (.finished (.ok (.leaseHeld id)))
    | .ok true => go (.starting id)
  | .starting id => .store (.start id config.worker) fun
    | .error e => go (.dropping id (.error e.toJob))
    | .ok none => go (.dropping id (.ok (.skipped id)))
    | .ok (some job) => { presence := p.presence.work id, phase := .announcing job }
  | .dropping id result => .queue (.release id) fun _ => go (.finished result)
  | .announcing job => .store (p.presence.beat config) fun r =>
    { presence := p.presence.noted now r, phase := .handing job }
  | .handing job => .execute job config.heartbeatPeriod config.providerTimeout fun answer =>
    go (.limiting job answer)
  | .limiting job answer => .arm (now + answer.duration config.providerTimeout) fun ends =>
    go (.scheduling job ⟨answer, ends⟩ (now + config.heartbeatPeriod))
  | .scheduling job run due => .arm due fun report => go (.executing job run report)
  | .executing job run report => .sleep [run.ends, report] (go (.rousing job run report))
  | .rousing job run report => .toss fun reportFirst =>
    -- of two things that are due at once either may come first
    if run.ends.isDue now && !(reportFirst && report.isDue now) then
      go (.committing job (run.answer.within config.providerTimeout) 1)
    else go (.beating job run report.due)
  | .beating job run due => .store (p.presence.beat config) fun r =>
    { presence := p.presence.noted now r
      phase := .scheduling job run (due + config.heartbeatPeriod) }
  | .committing job result round => .store (commitCall config.worker job result) fun r =>
    go (afterCommit config job result round (commitReply config.worker job result r))
  | .pausing job result round => .arm (now + config.errorBackoff) fun alarm =>
    go (.paused job result round alarm)
  | .paused job result round alarm => .sleep [alarm] (go (.committing job result (round + 1)))
  | .releasing id outcome => .queue (.release id) fun _ =>
    { presence := p.presence.rest, phase := .retiring outcome }
  | .retiring outcome => .store (p.presence.beat config) fun r =>
    { presence := p.presence.noted now r, phase := .finished (.ok outcome) }
  | .finished result => .finished (result, p.presence)

end Poll

end Dispatch
