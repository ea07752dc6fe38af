import Dispatch.Error
import Dispatch.Text.Blank
import Dispatch.Uuid

/-!
# Identities

Jobs and traces are named by universally unique identifiers, workers by a text of their own
choice.  A worker process with several lanes gives each lane a name of its own.
-/

namespace Dispatch

/-- The identity of a job. -/
structure JobId where
  uuid : Uuid
deriving DecidableEq, Repr, Inhabited

/-- The identity that ties together everything done for a job. -/
structure TraceId where
  uuid : Uuid
deriving DecidableEq, Repr, Inhabited

/-- The identity of a worker lane. -/
structure WorkerId where
  text : String
deriving DecidableEq, Repr, Inhabited

/-- What is said of a text that is no identity of a kind.  The reason is in the words of whoever
reads identifiers, and is left out where they are not known. -/
def complaint (kind : String) (reason : Option String) : String :=
  match reason with
  | some why => kind ++ ": " ++ why
  | none => kind

namespace JobId

instance : LE JobId := ⟨fun a b => a.uuid ≤ b.uuid⟩
instance : LT JobId := ⟨fun a b => a.uuid < b.uuid⟩
instance (a b : JobId) : Decidable (a ≤ b) := inferInstanceAs (Decidable (a.uuid ≤ b.uuid))
instance (a b : JobId) : Decidable (a < b) := inferInstanceAs (Decidable (a.uuid < b.uuid))

/-- The written form. -/
def text (id : JobId) : String := id.uuid.text

/-- Read an identity with blanks around it. -/
def ofText? (s : String) : Option JobId := (Uuid.ofText? (Text.trim s)).map (⟨·⟩)

/-- Read an identity, or say that the text is none. -/
def parse (s : String) (reason : Option String := none) : Except JobError JobId :=
  match ofText? s with
  | some id => .ok id
  | none => .error (.validation (complaint "JobId" reason))

/-- The key under which the lease on the job is kept. -/
def leaseKey (id : JobId) : String := "job:lease:" ++ id.text

end JobId

namespace TraceId

/-- The written form. -/
def text (id : TraceId) : String := id.uuid.text

/-- Read an identity with blanks around it, or say that the text is none. -/
def parse (s : String) (reason : Option String := none) : Except JobError TraceId :=
  match Uuid.ofText? (Text.trim s) with
  | some u => .ok ⟨u⟩
  | none => .error (.validation (complaint "TraceId" reason))

end TraceId

/-- The name of one lane out of several; the only lane keeps the worker's own name. -/
def WorkerId.lane (id : WorkerId) (lane lanes : Nat) : WorkerId :=
  if lanes ≤ 1 then id else ⟨id.text ++ "-" ++ toString lane⟩

end Dispatch
