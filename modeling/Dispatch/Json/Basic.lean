import Dispatch.Number.Double

/-!
# JSON values and JSON documents

`Json` is a value: what a payload holds and what an encoder produces.  `Doc` is what a JSON text
has on paper: members may repeat a name, and a leaf may be well formed and still denote nothing (a
number beyond the greatest binary64 one, a string with half a surrogate pair).  Readers that skip
a member look at neither its leaves nor its depth, so the two are kept apart.
-/

namespace Dispatch

/-- A JSON value.  Integers are those of a signed or unsigned 64-bit word. -/
inductive Json where
  | null
  | bool (b : Bool)
  | int (i : Int)
  | float (d : Double)
  | str (s : String)
  | arr (items : List Json)
  | obj (members : List (String × Json))
deriving Repr, Inhabited

namespace Json

mutual

/-- Decide whether two values are the same. -/
def decEq : (a b : Json) → Decidable (a = b)
  | .null, .null => isTrue rfl
  | .bool a, .bool b => decidable_of_iff (a = b) (by simp)
  | .int a, .int b => decidable_of_iff (a = b) (by simp)
  | .float a, .float b => decidable_of_iff (a = b) (by simp)
  | .str a, .str b => decidable_of_iff (a = b) (by simp)
  | .arr a, .arr b => @decidable_of_iff _ (a = b) (by simp) (decEqItems a b)
  | .obj a, .obj b => @decidable_of_iff _ (a = b) (by simp) (decEqMembers a b)
  | .null, .bool _ | .null, .int _ | .null, .float _ | .null, .str _ | .null, .arr _
  | .null, .obj _ | .bool _, .null | .bool _, .int _ | .bool _, .float _ | .bool _, .str _
  | .bool _, .arr _ | .bool _, .obj _ | .int _, .null | .int _, .bool _ | .int _, .float _
  | .int _, .str _ | .int _, .arr _ | .int _, .obj _ | .float _, .null | .float _, .bool _
  | .float _, .int _ | .float _, .str _ | .float _, .arr _ | .float _, .obj _ | .str _, .null
  | .str _, .bool _ | .str _, .int _ | .str _, .float _ | .str _, .arr _ | .str _, .obj _
  | .arr _, .null | .arr _, .bool _ | .arr _, .int _ | .arr _, .float _ | .arr _, .str _
  | .arr _, .obj _ | .obj _, .null | .obj _, .bool _ | .obj _, .int _ | .obj _, .float _
  | .obj _, .str _ | .obj _, .arr _ => isFalse (by simp)

/-- Decide whether two lists of values are the same. -/
def decEqItems : (a b : List Json) → Decidable (a = b)
  | [], [] => isTrue rfl
  | [], _ :: _ => isFalse (by simp)
  | _ :: _, [] => isFalse (by simp)
  | a :: as, b :: bs =>
    match decEq a b, decEqItems as bs with
    | isTrue h, isTrue t => isTrue (by rw [h, t])
    | isFalse h, _ => isFalse (by simp [h])
    | _, isFalse t => isFalse (by simp [t])

/-- Decide whether two lists of members are the same. -/
def decEqMembers : (a b : List (String × Json)) → Decidable (a = b)
  | [], [] => isTrue rfl
  | [], _ :: _ => isFalse (by simp)
  | _ :: _, [] => isFalse (by simp)
  | (m, a) :: as, (n, b) :: bs =>
    match decEq a b, decEqMembers as bs, (inferInstance : Decidable (m = n)) with
    | isTrue h, isTrue t, isTrue k => isTrue (by rw [h, t, k])
    | isFalse h, _, _ => isFalse (by simp [h])
    | _, isFalse t, _ => isFalse (by simp [t])
    | _, _, isFalse k => isFalse (by simp [k])

end

instance : DecidableEq Json := decEq

/-- The member of the last occurrence of a name, if the value is an object. -/
def get? (j : Json) (name : String) : Option Json :=
  match j with
  | .obj members => (members.reverse.find? (·.1 = name)).map (·.2)
  | _ => none

/-- An object without members. -/
def empty : Json := .obj []

end Json

/-! ## Documents -/

/-- A JSON text's structure. -/
inductive Doc where
  | null
  | bool (b : Bool)
  | int (i : Int)
  | float (d : Double)
  | str (s : String)
  /-- A well-formed number or string that denotes no value. -/
  | unreadable
  | arr (items : List Doc)
  /-- Members in the order of the text; a name may denote nothing. -/
  | obj (members : List (Option String × Doc))
deriving Repr, Inhabited

namespace Doc

/-- The members with a value stored under a name, in place of the value it had. -/
def setMember (members : List (String × Json)) (name : String) (value : Json) :
    List (String × Json) :=
  if members.any (·.1 = name) then members.map fun m => if m.1 = name then (name, value) else m
  else members ++ [(name, value)]

mutual

/-- The value a document denotes, if its containers nest at most `room` deep.  Of a repeated name
the last member counts. -/
def value? (room : Nat) : Doc → Option Json
  | .null => some .null
  | .bool b => some (.bool b)
  | .int i => some (.int i)
  | .float d => some (.float d)
  | .str s => some (.str s)
  | .unreadable => none
  | .arr items => if room = 0 then none else (values? (room - 1) items).map .arr
  | .obj members => if room = 0 then none else (memberValues? (room - 1) [] members).map .obj

/-- The values of the items. -/
def values? (room : Nat) : List Doc → Option (List Json)
  | [] => some []
  | item :: rest =>
    match value? room item with
    | none => none
    | some v => (values? room rest).map (v :: ·)

/-- The members so far with those that follow. -/
def memberValues? (room : Nat) (soFar : List (String × Json)) :
    List (Option String × Doc) → Option (List (String × Json))
  | [] => some soFar
  | (none, _) :: _ => none
  | (some name, item) :: rest =>
    match value? room item with
    | none => none
    | some v => memberValues? room (setMember soFar name v) rest

end

end Doc

namespace Json

mutual

/-- The document a value is written as. -/
def doc : Json → Doc
  | .null => .null
  | .bool b => .bool b
  | .int i => .int i
  | .float d => .float d
  | .str s => .str s
  | .arr items => .arr (docs items)
  | .obj members => .obj (memberDocs members)

/-- The documents of the items. -/
def docs : List Json → List Doc
  | [] => []
  | item :: rest => item.doc :: docs rest

/-- The documents of the members. -/
def memberDocs : List (String × Json) → List (Option String × Doc)
  | [] => []
  | (name, value) :: rest => (some name, value.doc) :: memberDocs rest

end

end Json

end Dispatch
