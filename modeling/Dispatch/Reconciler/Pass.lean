import Dispatch.Activity
import Dispatch.Reconciler.Config

/-!
# One pass of the reconciler

A pass repairs two things.  Jobs that run although nobody vouches for them go back to waiting and
onto the ready list.  Then a sweep walks the waiting jobs that are older than the grace, oldest
first and page by page, and puts those that are missing from the ready list back on it.  Failures
of the queue are passed over, failures of the store end the pass.
-/

namespace Dispatch

/-! ## The sweep -/

/-- Where a sweep is.  `page` is the page at hand and `rest` what is left of it. -/
inductive SweepPhase where
  | listing
  | checking (page rest : List Job)
  /-- The first of the rest is missing. -/
  | adding (page rest : List Job)
  | finished (result : Except JobError Nat)

/-- A sweep: the page it asks for, and how many jobs it has put back so far. -/
structure Sweep where
  filter : Filter
  added : Nat := 0
  phase : SweepPhase := .listing

namespace Sweep

/-- The first page of waiting jobs created before the cutoff. -/
def from_ (cutoff : Time) (batch : Nat) : Sweep :=
  { filter :=
      { status := some .queued, createdBefore := some cutoff, oldestFirst := true
        limit := max batch 1 } }

/-- The sweep behind a page: on to the next one if this one was full. -/
def pageDone (s : Sweep) (page : List Job) : Sweep :=
  match page.getLast? with
  | some last =>
    if page.length = s.filter.limit then
      { s with filter := s.filter.resumeAfter last, phase := .listing }
    else { s with phase := .finished (.ok s.added) }
  | none => { s with phase := .finished (.ok s.added) }

/-- The sweep with the given rest of the page to look at. -/
def check (s : Sweep) (page : List Job) : List Job → Sweep
  | [] => s.pageDone page
  | job :: rest => { s with phase := .checking page (job :: rest) }

/-- What a sweep does next. -/
def next (s : Sweep) : Next Sweep (Except JobError Nat) :=
  match s.phase with
  | .listing => .store (.list s.filter) fun
    | .error e => { s with phase := .finished (.error e.toJob) }
    | .ok (page : List Job) => s.check page page
  | .checking page [] => .finished (.ok (s.pageDone page).added)
  | .checking page (job :: rest) => .queue (.contains job.id) fun
    | .ok false => { s with phase := .adding page (job :: rest) }
    | .ok true => s.check page rest
    | .error _ => s.check page rest
  | .adding page [] => .finished (.ok (s.pageDone page).added)
  | .adding page (job :: rest) => .queue (.enqueue job.id) fun
    | .ok _ => { s with added := s.added + 1 }.check page rest
    | .error _ => s.check page rest
  | .finished result => .finished result

end Sweep

/-! ## The pass -/

/-- What a pass did. -/
structure PassReport where
  requeuedOrphans : Nat := 0
  reenqueuedStranded : Nat := 0
deriving DecidableEq, Repr

/-- Where a pass is. -/
inductive PassPhase where
  | requeuing
  /-- Giving back the lease on the first of the orphans that are left. -/
  | freeing (rest : List Job)
  /-- Putting the first of the orphans that are left on the ready list. -/
  | enqueuing (rest : List Job)
  /-- About to sweep. -/
  | turning
  | sweeping (sweep : Sweep)
  | finished (result : Except JobError PassReport)

/-- A pass: where it is, and how many orphans it found. -/
structure Pass where
  orphans : Nat := 0
  phase : PassPhase := .requeuing

namespace Pass

/-- The pass with the given orphans left. -/
def free (p : Pass) : List Job → Pass
  | [] => { p with phase := .turning }
  | job :: rest => { p with phase := .freeing (job :: rest) }

/-- The pass in the given state of its sweep. -/
def ofSweep (p : Pass) (s : Sweep) : Pass := { p with phase := .sweeping s }

/-- What a pass reports after its sweep. -/
def report (p : Pass) : Except JobError Nat → Except JobError PassReport
  | .ok n => .ok ⟨p.orphans, n⟩
  | .error e => .error e

/-- What a pass does next. -/
def next (config : ReconcilerConfig) (now : Time) (p : Pass) :
    Next Pass (Except JobError PassReport) :=
  match p.phase with
  | .requeuing => .store (.requeueOrphaned config.staleAfter) fun
    | .error e => { p with phase := .finished (.error e.toJob) }
    | .ok (jobs : List Job) => { p with orphans := jobs.length }.free jobs
  | .freeing [] => .go { p with phase := .turning }
  | .freeing (job :: rest) => .queue (.release job.id) fun _ =>
    { p with phase := .enqueuing (job :: rest) }
  | .enqueuing [] => .go { p with phase := .turning }
  | .enqueuing (job :: rest) => .queue (.enqueue job.id) fun _ => p.free rest
  | .turning => .go (p.ofSweep (.from_ (Store.staleCutoff now config.staleAfter) config.batch))
  | .sweeping s =>
    s.next.lift p.ofSweep fun result => .go { p with phase := .finished (p.report result) }
  | .finished result => .finished result

end Pass

end Dispatch
