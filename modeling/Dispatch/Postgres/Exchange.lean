import Dispatch.Error
import Dispatch.Postgres.Statement
import Dispatch.Text.Quoted

/-!
# Exchanges with the database

An exchange is a finite conversation: it sends a statement, and the reply decides how it goes on.
What comes back is not part of it.  A transaction is an exchange between `BEGIN` and `COMMIT`; if
anything in it fails, or it is given up, it is rolled back unless the connection is gone.
-/

namespace Dispatch.Postgres

/-- What comes back for a statement. -/
inductive Reply where
  | rows (rows : List Row)
  /-- So many rows were affected. -/
  | affected (count : Nat)
  /-- The server refuses, with its code for the reason. -/
  | refused (code message : String)
  /-- The connection broke. -/
  | broken
  /-- There is no connection to send anything on. -/
  | closed
deriving Repr

/-- A row that cannot be read. -/
inductive RowFault where
  /-- A cell is missing, `NULL` or of the wrong type. -/
  | malformed (entity : String)
  | unknownStatus (name : String)
  | unknownCode (name : String)
  | unknownState (name : String)
deriving DecidableEq, Repr

/-- The wording. -/
def RowFault.message : RowFault → String
  | malformed entity => "failed to deserialize " ++ entity ++ " row"
  | unknownStatus name => "unknown job status " ++ Text.quoted name ++ " in storage"
  | unknownCode name => "unknown error code " ++ Text.quoted name ++ " in storage"
  | unknownState name => "unknown worker state " ++ Text.quoted name

/-- How an exchange fails. -/
inductive Failure where
  | refused (operation code message : String)
  | broken (operation : String)
  | closed (operation : String)
  | row (fault : RowFault)
  /-- The database did what it was asked, and there is nothing to be had. -/
  | store (error : StoreError)
deriving DecidableEq, Repr

namespace Failure

/-- A violated uniqueness is a conflict and a violated check is bad input; everything else is the
storage's fault. -/
def toStore : Failure → StoreError
  | refused operation code message =>
    let detail := "database error in " ++ operation ++ ": " ++ message
    if code = "23505" then .conflict detail
    else if code = "23514" then .validation detail
    else .storage detail
  | broken operation => .storage ("sqlx error in " ++ operation)
  | closed operation => .storage ("connection pool closed in " ++ operation)
  | row fault => .storage fault.message
  | store error => error

/-- Nothing more can be sent on the connection. -/
def isFinal : Failure → Bool
  | broken _ => true
  | closed _ => true
  | _ => false

end Failure

/-- A conversation with a result. -/
inductive Exchange (α : Type) where
  | done (result : α)
  | send (s : Statement) (next : Reply → Exchange α)

namespace Exchange

/-- Go on with the result. -/
def bind {α β : Type} (e : Exchange α) (k : α → Exchange β) : Exchange β :=
  match e with
  | done a => k a
  | send s next => send s fun r => (next r).bind k

/-- Change the result. -/
def map {α β : Type} (f : α → β) (e : Exchange α) : Exchange β := e.bind fun a => done (f a)

/-- An exchange that may fail. -/
abbrev Attempted (α : Type) : Type := Exchange (Except Failure α)

/-- Go on unless the exchange failed. -/
def andThen {α β : Type} (e : Attempted α) (k : α → Attempted β) : Attempted β :=
  e.bind fun
    | .ok a => k a
    | .error f => done (.error f)

/-- What a reply means for the statement it answers. -/
def understood (s : Statement) : Reply → Except Failure Reply
  | .refused code message => .error (.refused s.operation code message)
  | .broken => .error (.broken s.operation)
  | .closed => .error (.closed s.operation)
  | r => .ok r

/-- Send a statement. -/
def ask (s : Statement) : Attempted Reply := send s fun r => done (understood s r)

/-- Send a statement that may return rows. -/
def query (s : Statement) : Attempted (List Row) :=
  andThen (ask s) fun
    | .rows rows => done (.ok rows)
    | _ => done (.ok [])

/-- Send a statement that changes rows, and count them. -/
def execute (s : Statement) : Attempted Nat :=
  andThen (ask s) fun
    | .affected n => done (.ok n)
    | .rows rows => done (.ok rows.length)
    | _ => done (.ok 0)

/-- What has become of a transaction's body. -/
inductive Verdict (α : Type) where
  | commit (result : α)
  /-- Nothing is to be kept. -/
  | abandon (result : α)
  | fail (failure : Failure)

/-- Leave a transaction that is not committed. -/
def rolledBack {α : Type} (result : α) : Exchange α := send .rollback fun _ => done result

/-- Report a failure inside a transaction. -/
def failed {α : Type} (f : Failure) : Attempted α :=
  if f.isFinal then done (.error f) else rolledBack (.error f)

/-- Do something between `BEGIN` and `COMMIT`. -/
def transaction {α : Type} (body : Exchange (Verdict α)) : Attempted α :=
  andThen (ask .begin_) fun _ => body.bind fun
    | .fail f => failed f
    | .abandon a => rolledBack (.ok a)
    | .commit a => (ask .commit).bind fun
      | .ok _ => done (.ok a)
      | .error f => failed f

/-- Commit what succeeds. -/
def toCommit {α : Type} (e : Attempted α) : Exchange (Verdict α) :=
  e.map fun
    | .ok a => .commit a
    | .error f => .fail f

/-- Carry an exchange out with something that answers statements. -/
def run {σ α : Type} (answer : Statement → σ → Reply × σ) : Exchange α → σ → α × σ
  | done a, s => (a, s)
  | send statement next, s => let (r, s) := answer statement s; run answer (next r) s

end Exchange

end Dispatch.Postgres
