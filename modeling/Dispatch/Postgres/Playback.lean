import Dispatch.Json.Access
import Dispatch.Postgres.Exchange

/-!
# Playing a database back

A playback answers statements from a list of planned replies and keeps what it was sent, in order.
Statements that open and close transactions do not use the list up: their replies are planned
apart, and a `ROLLBACK` always succeeds.
-/

namespace Dispatch.Postgres

/-- A reply that is planned before it is known which statement it answers. -/
inductive Planned where
  /-- The contents of rows by the names of their columns; a column that is not named is `NULL`.
  Some columns may be declared with another type, and some may be left out of the result. -/
  | rows (contents : List (List (String × Json))) (retyped : List (String × ColumnType))
      (omitted : List String)
  | affected (count : Nat)
  | refused (code message : String)
  | broken
deriving Repr

namespace Planned

/-- The columns of which an object says that they are declared with another type. -/
def retyped? (types : Json) : Option (List (String × ColumnType)) := do
  (← types.obj?).mapM fun (name, type) => do return (name, ← ColumnType.ofName? (← type.str?))

/-- A plan that is written as JSON. -/
def ofJson? (j : Json) : Option Planned :=
  match j.member? "drop", j.member? "error", j.member? "affected" with
  | some _, _, _ => some broken
  | none, some code, _ => do return refused (← code.str?) (← j.orElse "message" Json.str? "")
  | none, none, some n => n.nat?.map affected
  | none, none, none => do
    return rows (← j.field "rows" (Json.list? Json.obj?)) (← j.orElse "types" retyped? [])
      (← j.orElse "omit" (Json.list? Json.str?) [])

/-- The value of a column that is written as JSON; what is not of the type stays JSON, and nobody
can read it. -/
def valueOf (type : ColumnType) (j : Json) : Value :=
  match type, j with
  | .uuid, .str s => (Uuid.ofText? s).elim (.json j) .uuid
  | .text, .str s => .text s
  | .int4, .int i => .int i
  | .int8, .int i => .int i
  | .float8, .float d => .float d
  | .float8, .int i => (Double.ofInt? i).elim (.json j) .float
  | .bool, .bool b => .bool b
  | .timestamptz, .str s => (Timestamp.read? s).elim (.json j) Param.ofTime
  | _, j => .json j

/-- The content of a column in a row; JSON's `null` is `NULL` too. -/
def contentOf (type : ColumnType) (content : List (String × Json)) (name : String) :
    Option Value :=
  match content.lookup name with
  | none => none
  | some .null => none
  | some j => some (valueOf type j)

/-- A row with the columns of a statement. -/
def row (columns : List Column) (retyped : List (String × ColumnType)) (omitted : List String)
    (content : List (String × Json)) : Row :=
  (columns.filter fun c => !omitted.contains c.name).map fun c =>
    let type := (retyped.lookup c.name).getD c.type
    (c.name, ⟨type, contentOf type content c.name⟩)

/-- The reply to a statement for which nothing is planned: no rows if it returns rows, and one
row affected if it does not. -/
def success (s : Statement) : Reply := if s.columns.isEmpty then .affected 1 else .rows []

/-- The planned reply as the reply to a statement.  A statement that returns no rows succeeds if
rows are planned, and one that returns rows gets none if only a count is planned. -/
def reply (s : Statement) : Planned → Reply
  | rows contents retyped omitted =>
    if s.columns.isEmpty then success s
    else .rows (contents.map (row s.columns retyped omitted))
  | affected n => if s.columns.isEmpty then .affected n else .rows []
  | refused code message => .refused code message
  | broken => .broken

end Planned

/-- A database that answers from a list. -/
structure Playback where
  /-- The replies that are left. -/
  replies : List Planned := []
  /-- What becomes of every `BEGIN`. -/
  begin_ : Planned := .affected 0
  /-- What becomes of every `COMMIT`. -/
  commit : Planned := .affected 0
  /-- The store may still send statements. -/
  isOpen : Bool := true
  /-- Everything that was sent, oldest first. -/
  sent : List Statement := []

namespace Playback

/-- Answer a statement from the list. -/
def next (s : Statement) (p : Playback) : Reply × Playback :=
  match p.replies with
  | [] => (Planned.success s, p)
  | planned :: rest => (planned.reply s, { p with replies := rest })

/-- Answer a statement. -/
def answer (s : Statement) (p : Playback) : Reply × Playback :=
  if !p.isOpen then (.closed, p)
  else
    let p := { p with sent := p.sent ++ [s] }
    match s with
    | .begin_ => (p.begin_.reply s, p)
    | .commit => (p.commit.reply s, p)
    | .rollback => (Planned.success s, p)
    | _ => p.next s

/-- Carry an exchange out. -/
def run {α : Type} (e : Exchange α) (p : Playback) : α × Playback := e.run answer p

/-- The same database before its next task: nothing sent yet, and new plans. -/
def replan (p : Playback) (replies : List Planned) (begin_ commit : Planned) : Playback :=
  { replies, begin_, commit, isOpen := p.isOpen }

/-- The store gives up its connections. -/
def close (p : Playback) : Playback := { p with isOpen := false }

end Playback

/-- How the attempt to reach a database ends. -/
inductive Contact where
  | reached
  /-- The server does not let us in. -/
  | refused (code message : String)
  /-- The address is not one, or nobody answers there. -/
  | unreachable
deriving DecidableEq, Repr

/-- Open a connection. -/
def connect : Contact → Except StoreError Unit
  | .reached => .ok ()
  | .refused code message => .error (Failure.refused "connect" code message).toStore
  | .unreachable => .error (Failure.broken "connect").toStore

end Dispatch.Postgres
