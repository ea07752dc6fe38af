import Dispatch.Event
import Dispatch.Job.Filter
import Dispatch.Table
import Dispatch.Worker.Heartbeat

/-!
# The store

The system of record: job rows, one row per attempt, the event log, the last heartbeat of every
worker, and the index of idempotency keys.  Every change of a job's status is conditional on the
status it has, which is what makes outcomes happen exactly once.  An operation is a function from
the store to its result and the next store; one that fails has no next store, so a failure changes
nothing.
-/

namespace Dispatch

/-- The contents of the store. -/
structure Store where
  jobs : Table JobId Job := .empty
  /-- The job created under a tenant's key. -/
  keys : Table (String × String) JobId := .empty
  attempts : Table (JobId × Int) Attempt := .empty
  /-- Oldest first. -/
  events : List Event := []
  workers : Table WorkerId Heartbeat := .empty
deriving Repr

namespace Store

/-- A store without contents. -/
def empty : Store := {}

instance : Inhabited Store := ⟨empty⟩

/-- The outcome of an operation: its result and the store it leaves, or why it did nothing. -/
abbrev Outcome (α : Type) := Except StoreError (α × Store)

/-! ## Notes for people -/

def createdNote : String := "Job accepted"
def startedNote : String := "Dequeued and started"
def succeededNote : String := "Provider returned completion"
def failedNote (code : FailureCode) : String := "Provider execution failed (" ++ code.text ++ ")"
def retriedNote : String := "Manually re-queued by operator"
def workerLostNote : String := "Worker heartbeat lost; job re-queued"

/-! ## Errors -/

/-- There is no such job. -/
def missing (id : JobId) : StoreError := .notFound ("job " ++ id.text ++ " not found")

/-- There is no such job in the state that is needed. -/
def notInState (id : JobId) (state : String) : StoreError :=
  .notFound ("job " ++ id.text ++ " not found or not " ++ state)

/-- The job is not running the attempt. -/
def notRunning (id : JobId) (attempt : Int) : StoreError :=
  notInState id ("running attempt " ++ toString attempt)

/-- A page needs room for a row. -/
def noLimit : StoreError := .validation "limit must be positive"

/-! ## Parts -/

/-- The instant before which a report is too old. -/
def staleCutoff (now : Time) (staleAfter : Span) : Time := now.backBy staleAfter

/-- The store with one more entry in the log, numbered after the entries there are. -/
def log (s : Store) (kind : EventKind) (job : JobId) (worker : Option WorkerId) (details : String)
    (now : Time) : Store :=
  { s with
    events := s.events ++
      [{ id := (s.events.length : Int) + 1, tag := kind.tag, job := some job, worker, details
         createdAt := now }] }

/-- The store with a job's row replaced. -/
def putJob (s : Store) (j : Job) : Store := { s with jobs := s.jobs.set j.id j }

/-- The store with an attempt's row replaced. -/
def putAttempt (s : Store) (a : Attempt) : Store :=
  { s with attempts := s.attempts.set (a.job, a.number) a }

/-- The row of an attempt, a fresh one if it is missing. -/
def attemptRow (s : Store) (job : JobId) (number : Int) (now : Time) : Attempt :=
  (s.attempts.get? (job, number)).getD (Attempt.opened job number now)

/-- The store with a new job, to be found again under its tenant's key if it has one. -/
def register (s : Store) (key : Option (String × String)) (job : Job) (now : Time) : Store :=
  let keys := match key with
    | some k => s.keys.set k job.id
    | none => s.keys
  ({ s with keys }.putJob job).log .created job.id none createdNote now

/-- The attempts of a job in the order of their numbers. -/
def attemptsOf (s : Store) (job : JobId) : List Attempt :=
  (s.attempts.rows.filter (·.job = job)).mergeSort fun a b => a.number ≤ b.number

/-- The job, if it has a status that allows what is asked. -/
def jobIf? (s : Store) (id : JobId) (allowed : Job → Bool) : Option Job :=
  (s.jobs.get? id).filter allowed

/-! ## Operations -/

/-- Add a waiting job, or find the one that the tenant created under the same key before.  The
second part of the result says that it was found. -/
def create (s : Store) (draft : Draft) (ids : FreshIds) (now : Time) : Outcome (Job × Bool) :=
  match draft.validate with
  | .error e => .error e.toStore
  | .ok () =>
    let d := draft.normalized
    match d.claim.bind fun k => (s.keys.get? k).bind s.jobs.get? with
    | some existing => .ok ((existing, true), s)
    | none =>
      let job := Job.queued d ids now
      if (s.jobs.get? job.id).isSome then
        .error (.conflict ("job id " ++ job.id.text ++ " already exists"))
      else .ok ((job, false), s.register d.claim job now)

/-- A job with its latest attempt. -/
def get (s : Store) (id : JobId) : Except StoreError (Job × Option Attempt) :=
  match s.jobs.get? id with
  | some job => .ok (job, (s.attemptsOf id).getLast?)
  | none => .error (missing id)

/-- A page of jobs. -/
def list (s : Store) (filter : Filter) : Except StoreError (List Job) :=
  if filter.limit = 0 then .error noLimit
  else .ok (filter.normalized.page s.jobs.rows)

/-- Start a waiting job: its next attempt opens.  Nothing happens to a job that is not waiting. -/
def start (s : Store) (id : JobId) (worker : WorkerId) (now : Time) : Option Job × Store :=
  match s.jobIf? id (·.status = .queued) with
  | none => (none, s)
  | some j =>
    let job := j.begun now
    (some job,
      ((s.putJob job).putAttempt (Attempt.opened id job.attempt now)).log .started id
        (some worker) startedNote now)

/-- The job, if it is running the attempt. -/
def running? (s : Store) (id : JobId) (attempt : Int) : Option Job :=
  s.jobIf? id fun j => j.status = .running && j.attempt = attempt

/-- End the running attempt of a job well. -/
def succeed (s : Store) (id : JobId) (attempt : Int) (worker : WorkerId) (usage : Usage)
    (now : Time) : Outcome Unit :=
  match s.running? id attempt with
  | none => .error (notRunning id attempt)
  | some j =>
    let row := (s.attemptRow id attempt now).succeed usage now
    .ok ((), ((s.putJob (j.completed now)).putAttempt row).log .succeeded id (some worker)
      succeededNote now)

/-- End the running attempt of a job badly. -/
def fail (s : Store) (id : JobId) (attempt : Int) (worker : WorkerId) (code : FailureCode)
    (message : String) (now : Time) : Outcome Unit :=
  match s.running? id attempt with
  | none => .error (notRunning id attempt)
  | some j =>
    let row := (s.attemptRow id attempt now).fail code message now
    .ok ((), ((s.putJob (j.broken code message now)).putAttempt row).log .failed id (some worker)
      (failedNote code) now)

/-- The store with the running attempt of a job closed for a reason, if it has a row. -/
def closeAttempt (s : Store) (id : JobId) (number : Int) (code : FailureCode) (reason : String)
    (now : Time) : Store :=
  match s.attempts.get? (id, number) with
  | some row => s.putAttempt (row.fail code reason now)
  | none => s

/-- Cancel a job that waits or runs. -/
def cancel (s : Store) (id : JobId) (reason : String) (now : Time) : Outcome Job :=
  match s.jobIf? id (·.status.isCancellable) with
  | none => .error (notInState id "cancellable")
  | some j =>
    let job := j.withdrawn reason now
    let s := s.putJob job
    let s := if j.status = .running then s.closeAttempt id j.attempt .cancelled reason now else s
    .ok (job, s.log .cancelled id none reason now)

/-- Send a job that ended without success back to waiting. -/
def retry (s : Store) (id : JobId) (now : Time) : Outcome Job :=
  match s.jobIf? id (·.status.isRetryable) with
  | none => .error (notInState id "retryable")
  | some j =>
    let job := j.renewed
    .ok (job, (s.putJob job).log .retryScheduled id none retriedNote now)

/-- Keep a worker's report in place of the one before. -/
def beat (s : Store) (worker : WorkerId) (state : WorkerState) (running : Option JobId)
    (concurrency : Int) (now : Time) : Store :=
  { s with workers := s.workers.set worker { worker, seenAt := now, state, running, concurrency } }

/-- The last report of every worker, in the order of their names. -/
def listWorkers (s : Store) : List Heartbeat :=
  s.workers.rows.mergeSort fun a b => !(b.worker.text < a.worker.text)

/-- The first entries of the log about a job. -/
def listEvents (s : Store) (id : JobId) (limit : Nat) : Except StoreError (List Event) :=
  if limit = 0 then .error noLimit
  else .ok ((s.events.filter (·.job = some id)).take limit)

/-- The number of jobs in each status. -/
def tally (s : Store) : Tally :=
  s.jobs.rows.foldl (fun t j => t.record j.status 1) {}

/-- Some worker reported after the cutoff that it runs the job. -/
def isVouchedFor (s : Store) (cutoff : Time) (id : JobId) : Bool :=
  s.workers.rows.any fun h => cutoff < h.seenAt && h.running = some id

/-- The job has been running since the cutoff or longer, and nobody vouches for it. -/
def isOrphan (s : Store) (cutoff : Time) (j : Job) : Bool :=
  j.status = .running &&
    (match j.startedAt with
      | some started => decide (started ≤ cutoff)
      | none => false) &&
    !s.isVouchedFor cutoff j.id

/-- The orphaned jobs, in the order of their identities. -/
def orphans (s : Store) (cutoff : Time) : List Job :=
  (s.jobs.rows.filter (s.isOrphan cutoff)).mergeSort fun a b => a.id ≤ b.id

/-- An orphan as it waits again. -/
def requeuedJob (j : Job) : Job :=
  { j with
    status := .queued, finishedAt := none, errorCode := some .workerLost
    errorMessage := some workerLostNote }

/-- Send one orphan back to waiting and close its attempt. -/
def requeueOne (now : Time) (s : Store) (j : Job) : Store :=
  let row := (s.attemptRow j.id j.attempt now).fail .workerLost workerLostNote now
  ((s.putJob (requeuedJob j)).putAttempt row).log .requeued j.id none workerLostNote now

/-- Send every orphan back to waiting. -/
def requeueOrphaned (s : Store) (staleAfter : Span) (now : Time) : List Job × Store :=
  let found := s.orphans (staleCutoff now staleAfter)
  (found.map requeuedJob, found.foldl (requeueOne now) s)

end Store

end Dispatch
