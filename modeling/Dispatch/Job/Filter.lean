import Dispatch.Job.Basic

/-!
# Listing jobs

A listing keeps the jobs that meet all of its criteria, in the order of creation time and identity
or in the opposite order, and resumes behind the last job of the page before.
-/

namespace Dispatch

/-- The place of a job in listings: creation time first, then identity. -/
structure ListKey where
  createdAt : Timestamp
  id : JobId
deriving DecidableEq, Repr

namespace ListKey

/-- Earlier, or created at the same time with a smaller identity. -/
def Before (a b : ListKey) : Prop :=
  a.createdAt < b.createdAt ∨ (a.createdAt = b.createdAt ∧ a.id < b.id)

instance (a b : ListKey) : Decidable (a.Before b) := inferInstanceAs (Decidable (_ ∨ _))

end ListKey

/-- The place of a job in listings. -/
def Job.listKey (j : Job) : ListKey := ⟨j.createdAt, j.id⟩

/-- Which jobs to list, and in which order.  An absent criterion holds of every job. -/
structure Filter where
  status : Option JobStatus := none
  tenant : Option String := none
  model : Option String := none
  /-- Only jobs created strictly before. -/
  createdBefore : Option Timestamp := none
  /-- Oldest first instead of newest first. -/
  oldestFirst : Bool := false
  /-- Only jobs strictly past this place in listing order. -/
  after : Option ListKey := none
  limit : Nat := 100
deriving DecidableEq, Repr

namespace Filter

/-- The criterion is absent or holds of the value. -/
def admits {α : Type} (criterion : Option α) (holds : α → Bool) : Bool :=
  match criterion with
  | none => true
  | some c => holds c

/-- The place comes strictly earlier in listing order. -/
def precedes (f : Filter) (a b : ListKey) : Bool :=
  if f.oldestFirst then a.Before b else b.Before a

/-- The job meets every criterion. -/
def covers (f : Filter) (j : Job) : Bool :=
  admits f.status (j.status = ·) &&
    admits f.tenant (j.tenant = ·) &&
    admits f.model (j.model = ·) &&
    admits f.createdBefore (j.createdAt < ·) &&
    admits f.after (f.precedes · j.listKey)

/-- Empty tenants and models are no criteria. -/
def normalized (f : Filter) : Filter :=
  { f with
    tenant := f.tenant.filter fun t => !t.isEmpty
    model := f.model.filter fun m => !m.isEmpty }

/-- Resume behind a job. -/
def resumeAfter (f : Filter) (j : Job) : Filter :=
  { f with after := some j.listKey }

/-- Listing order with equal places in the order given. -/
def inOrder (f : Filter) (a b : Job) : Bool :=
  !f.precedes b.listKey a.listKey

/-- The jobs in listing order. -/
def sort (f : Filter) (jobs : List Job) : List Job :=
  jobs.mergeSort f.inOrder

/-- The page of a listing. -/
def page (f : Filter) (jobs : List Job) : List Job :=
  (f.sort (jobs.filter f.covers)).take f.limit

end Filter

end Dispatch
