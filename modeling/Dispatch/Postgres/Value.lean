import Dispatch.Json.Decoder

/-!
# Values on the wire of the database

A parameter is a value or `NULL`.  A cell of a result row has the type its column is declared with;
reading it as another type fails, and so does reading `NULL` where there must be a value.
-/

namespace Dispatch.Postgres

/-- The types of columns. -/
inductive ColumnType where
  | uuid
  | text
  | int4
  | int8
  | float8
  | bool
  | jsonb
  | timestamptz
deriving DecidableEq, Repr

/-- The server's name for a type. -/
def ColumnType.name : ColumnType → String
  | uuid => "uuid"
  | text => "text"
  | int4 => "int4"
  | int8 => "int8"
  | float8 => "float8"
  | bool => "bool"
  | jsonb => "jsonb"
  | timestamptz => "timestamptz"

/-- The type of a name. -/
def ColumnType.ofName? (name : String) : Option ColumnType :=
  [uuid, text, int4, int8, float8, bool, jsonb, timestamptz].find? (·.name = name)

/-- A value that is not `NULL`. -/
inductive Value where
  | uuid (u : Uuid)
  | text (s : String)
  | int (i : Int)
  | float (d : Double)
  | bool (b : Bool)
  | json (j : Json)
  | time (t : Time)
deriving DecidableEq, Repr

/-- What a statement is given for a placeholder. -/
abbrev Param : Type := Option Value

/-- The start of 2000, from which the server counts time. -/
def timeOrigin : Time := ⟨946684800000000000⟩

/-- A time as the server keeps it: whole microseconds, the rest dropped toward the start of 2000.
The server knows no leap seconds and takes one for the first second of the next minute. -/
def serverTime (t : Timestamp) : Time :=
  ⟨timeOrigin.nanos + Int.tdiv (t.since timeOrigin) 1000 * 1000⟩

namespace Param

/-- A value that may be missing. -/
def ofOption {α : Type} (value : α → Value) (a : Option α) : Param := a.map value

/-- A time, which loses what the server does not keep. -/
def ofTime (t : Timestamp) : Value := .time (serverTime t)

/-- A parameter for a log of what was sent. -/
def toJson : Param → Json
  | none => .null
  | some (.uuid u) => .str u.text
  | some (.text s) => .str s
  | some (.int i) => .int i
  | some (.float d) => .float d
  | some (.bool b) => .bool b
  | some (.json j) => j
  | some (.time t) => .time t

end Param

/-- A column of a result. -/
structure Column where
  name : String
  type : ColumnType
deriving DecidableEq, Repr

/-- A cell of a result row: the declared type, and the content unless it is `NULL`. -/
structure Cell where
  type : ColumnType
  content : Option Value
deriving DecidableEq, Repr

/-- A result row: the cells under the names of their columns. -/
abbrev Row : Type := List (String × Cell)

namespace Row

/-- The content of a cell that is there and has the type asked for; `NULL` has every type. -/
def read? (row : Row) (name : String) (type : ColumnType) : Option (Option Value) := do
  let (_, cell) ← row.find? (·.1 = name)
  match cell.content with
  | none => some none
  | some v => if cell.type = type then some (some v) else none

/-- A reader of one type of value. -/
structure Reader (α : Type) where
  type : ColumnType
  ofValue? : Value → Option α

/-- A cell that must hold a value. -/
def required {α : Type} (row : Row) (name : String) (r : Reader α) : Option α := do
  r.ofValue? (← (← row.read? name r.type))

/-- A cell that may be `NULL`. -/
def optional {α : Type} (row : Row) (name : String) (r : Reader α) : Option (Option α) := do
  match ← row.read? name r.type with
  | none => some none
  | some v => (r.ofValue? v).map some

def uuid : Reader Uuid := ⟨.uuid, fun | .uuid u => some u | _ => none⟩
def text : Reader String := ⟨.text, fun | .text s => some s | _ => none⟩
def int4 : Reader Int := ⟨.int4, fun | .int i => some i | _ => none⟩
def int8 : Reader Int := ⟨.int8, fun | .int i => some i | _ => none⟩
def float8 : Reader Double := ⟨.float8, fun | .float d => some d | _ => none⟩
def bool : Reader Bool := ⟨.bool, fun | .bool b => some b | _ => none⟩
def jsonb : Reader Json := ⟨.jsonb, fun | .json j => some j | _ => none⟩
def timestamptz : Reader Timestamp := ⟨.timestamptz, fun | .time t => some t | _ => none⟩

end Row

end Dispatch.Postgres
