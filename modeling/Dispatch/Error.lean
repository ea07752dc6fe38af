/-!
# Errors

Each part reports its own kinds of failure, and each kind carries the detail it was raised with.
A failure that crosses into another part changes kind by a fixed rule: what the store or the queue
could not do for want of a working backend is transient, and everything else keeps its meaning.
-/

namespace Dispatch

/-- Failures as callers of the service see them. -/
inductive JobError where
  /-- Absent, or not in a state that allows what was asked. -/
  | notFound (detail : String)
  /-- A creation collided. -/
  | conflict (detail : String)
  /-- The input is malformed or incomplete. -/
  | validation (detail : String)
  /-- A backend is out of reach; trying again later may help. -/
  | transient (detail : String)
  /-- An execution failed. -/
  | provider (detail : String)
deriving DecidableEq, Repr

/-- Failures of the store. -/
inductive StoreError where
  | notFound (detail : String)
  | conflict (detail : String)
  | validation (detail : String)
  | storage (detail : String)
deriving DecidableEq, Repr

/-- Failures of the lease queue. -/
inductive QueueError where
  /-- The queue cannot be reached. -/
  | connection (detail : String)
  /-- It was reached and refused. -/
  | command (detail : String)
  /-- It answered with something that makes no sense. -/
  | protocol (detail : String)
deriving DecidableEq, Repr

namespace JobError

/-- The word for the kind of failure. -/
def kind : JobError → String
  | notFound _ => "not_found"
  | conflict _ => "conflict"
  | validation _ => "validation"
  | transient _ => "transient"
  | provider _ => "provider"

/-- A failure of the kind that a word names. -/
def ofKind? (kind detail : String) : Option JobError :=
  [notFound detail, conflict detail, validation detail, transient detail, provider detail].find?
    (·.kind = kind)

/-- The wording. -/
def message : JobError → String
  | notFound detail => "not found: " ++ detail
  | conflict detail => "conflict: " ++ detail
  | validation detail => "validation failed: " ++ detail
  | transient detail => "infrastructure unavailable: " ++ detail
  | provider detail => "provider error: " ++ detail

/-- Trying again may help. -/
def isTransient : JobError → Bool
  | transient _ => true
  | _ => false

/-- A service failure as the store would report it. -/
def toStore : JobError → StoreError
  | notFound detail => .notFound detail
  | conflict detail => .conflict detail
  | validation detail => .validation detail
  | transient detail => .storage detail
  | provider detail => .storage detail

end JobError

namespace StoreError

/-- The word for the kind of failure. -/
def kind : StoreError → String
  | notFound _ => "not_found"
  | conflict _ => "conflict"
  | validation _ => "validation"
  | storage _ => "storage"

/-- A failure of the kind that a word names. -/
def ofKind? (kind detail : String) : Option StoreError :=
  [notFound detail, conflict detail, validation detail, storage detail].find? (·.kind = kind)

/-- The wording. -/
def message : StoreError → String
  | notFound detail => "not found: " ++ detail
  | conflict detail => "conflict: " ++ detail
  | validation detail => "validation failed: " ++ detail
  | storage detail => "storage error: " ++ detail

/-- A store failure as callers of the service see it. -/
def toJob : StoreError → JobError
  | notFound detail => .notFound detail
  | conflict detail => .conflict detail
  | validation detail => .validation detail
  | storage detail => .transient detail

end StoreError

namespace QueueError

/-- The word for the kind of failure. -/
def kind : QueueError → String
  | connection _ => "connection"
  | command _ => "command"
  | protocol _ => "protocol"

/-- A failure of the kind that a word names. -/
def ofKind? (kind detail : String) : Option QueueError :=
  [connection detail, command detail, protocol detail].find? (·.kind = kind)

/-- The wording. -/
def message : QueueError → String
  | connection detail => "queue connection error: " ++ detail
  | command detail => "queue command error: " ++ detail
  | protocol detail => "queue protocol error: " ++ detail

/-- A queue failure as callers of the service see it. -/
def toJob (e : QueueError) : JobError := .transient e.message

end QueueError

end Dispatch
