import Dispatch.Json.Decoder

/-!
# Looking into JSON values

Lenient readers for values that are at hand: a member that is `null` counts as absent where a
member may be, and nothing is said of members that are not asked for.
-/

namespace Dispatch.Json

def str? : Json → Option String
  | .str s => some s
  | _ => none

def int? : Json → Option Int
  | .int i => some i
  | _ => none

def nat? : Json → Option Nat
  | .int i => if 0 ≤ i then some i.toNat else none
  | _ => none

def bool? : Json → Option Bool
  | .bool b => some b
  | _ => none

def arr? : Json → Option (List Json)
  | .arr items => some items
  | _ => none

def obj? : Json → Option (List (String × Json))
  | .obj members => some members
  | _ => none

/-- A binary64 number; an integer counts as the number nearest to it. -/
def double? : Json → Option Double
  | .float d => some d
  | .int i => Double.ofInt? i
  | _ => none

def time? (j : Json) : Option Timestamp := j.str?.bind Timestamp.read?

/-- An array of two. -/
def pair? {α β : Type} (first : Json → Option α) (second : Json → Option β) :
    Json → Option (α × β)
  | .arr [a, b] => do return (← first a, ← second b)
  | _ => none

/-- An array of any length. -/
def list? {α : Type} (item : Json → Option α) (j : Json) : Option (List α) :=
  j.arr?.bind fun items => items.mapM item

/-- A typed value. -/
def decode? {α : Type} (decode : Decoder α) (j : Json) : Option α := decode.run j.doc

/-- A member that is not `null`. -/
def member? (j : Json) (name : String) : Option Json :=
  match j.get? name with
  | some .null => none
  | other => other

/-- A member that must be there. -/
def field {α : Type} (j : Json) (name : String) (read : Json → Option α) : Option α :=
  (j.get? name).bind read

/-- A member that may be absent or `null`. -/
def maybe {α : Type} (j : Json) (name : String) (read : Json → Option α) : Option (Option α) :=
  match j.member? name with
  | none => some none
  | some v => (read v).map some

/-- A member with a value for when it is absent or `null`. -/
def orElse {α : Type} (j : Json) (name : String) (read : Json → Option α) (default : α) :
    Option α :=
  (j.maybe name read).map (·.getD default)

/-- The members, none if the value is not an object. -/
def members (j : Json) : List (String × Json) := j.obj?.getD []

mutual

/-- Change every string, names of members apart. -/
def mapText (f : String → String) : Json → Json
  | .str s => .str (f s)
  | .arr items => .arr (mapItems f items)
  | .obj members => .obj (mapMembers f members)
  | j => j

/-- Change every string in the items. -/
def mapItems (f : String → String) : List Json → List Json
  | [] => []
  | item :: rest => item.mapText f :: mapItems f rest

/-- Change every string in the members. -/
def mapMembers (f : String → String) : List (String × Json) → List (String × Json)
  | [] => []
  | (name, value) :: rest => (name, value.mapText f) :: mapMembers f rest

end

end Dispatch.Json
