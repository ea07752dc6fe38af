import Dispatch.Json.Reader
import Dispatch.Time.Rfc3339
import Dispatch.Uuid

/-!
# Decoding documents into typed values

A decoder reads a typed value off a document, with room for so many levels of containers.  A
record is an object with known members, each at most once, beside which unknown ones are passed
over unread; or it is an array of its fields in order.  A field is required, optional (absent or
`null` for none) or has a default for when it is absent.
-/

namespace Dispatch

/-- A reader of one type of value, given the number of levels containers may nest. -/
abbrev Decoder (α : Type) := Nat → Doc → Option α

namespace Decoder

/-- Read a document at the top of a text. -/
def run {α : Type} (decode : Decoder α) (doc : Doc) : Option α :=
  decode Json.maxDepth doc

/-- Read a text that holds one value and nothing else. -/
def runText {α : Type} (decode : Decoder α) (text : String) : Option α :=
  (Doc.read? text).bind decode.run

/-! ## Leaves -/

/-- Any value. -/
def json : Decoder Json := fun room doc => doc.value? room

def bool : Decoder Bool
  | _, .bool b => some b
  | _, _ => none

def str : Decoder String
  | _, .str s => some s
  | _, _ => none

/-- An integer between two bounds. -/
def intIn (low high : Int) : Decoder Int
  | _, .int i => if low ≤ i ∧ i ≤ high then some i else none
  | _, _ => none

/-- A signed 32-bit integer. -/
def int32 : Decoder Int := intIn (-2147483648) 2147483647

/-- A signed 64-bit integer. -/
def int64 : Decoder Int := intIn (-9223372036854775808) 9223372036854775807

/-- An unsigned 64-bit integer. -/
def nat64 : Decoder Nat := fun room doc => (intIn 0 18446744073709551615 room doc).map Int.toNat

/-- A binary64 number; an integer counts as the number nearest to it. -/
def double : Decoder Double
  | _, .float d => some d
  | _, .int i => Double.ofInt? i
  | _, _ => none

/-- An RFC 3339 text. -/
def time : Decoder Timestamp
  | _, .str s => Timestamp.read? s
  | _, _ => none

/-- An identifier in one of its spellings, without blanks around it. -/
def uuid : Decoder Uuid
  | _, .str s => Uuid.ofText? s
  | _, _ => none

/-- `null`, or a value. -/
def nullable {α : Type} (decode : Decoder α) : Decoder (Option α)
  | _, .null => some none
  | room, doc => (decode room doc).map some

/-- One of a closed set of names: the name as a string, or as the only member of an object, whose
value is `null`. -/
def name {α : Type} (ofText? : String → Option α) : Decoder α
  | _, .str s => ofText? s
  | room, .obj [(some s, .null)] => if room = 0 then none else ofText? s
  | _, _ => none

/-! ## Records -/

/-- The fields of a record that are there, and the room for what they hold. -/
structure Fields where
  found : List (String × Doc)
  room : Nat

/-- Put the known members of an object in front of those found so far; a name that denotes nothing
or a known name that comes twice is an error. -/
def known? (names : List String) (soFar : List (String × Doc)) :
    List (Option String × Doc) → Option (List (String × Doc))
  | [] => some soFar
  | (none, _) :: _ => none
  | (some n, doc) :: rest =>
    if n ∈ names then
      if soFar.any (·.1 = n) then none else known? names ((n, doc) :: soFar) rest
    else known? names soFar rest

/-- Open a record with fields of the given names. -/
def fields? (names : List String) (room : Nat) : Doc → Option Fields
  | .obj members =>
    if room = 0 then none else (known? names [] members).map (⟨·, room - 1⟩)
  | .arr items =>
    if room = 0 ∨ names.length < items.length then none else some ⟨names.zip items, room - 1⟩
  | _ => none

namespace Fields

/-- The document of a field. -/
def doc? (f : Fields) (name : String) : Option Doc :=
  (f.found.find? (·.1 = name)).map (·.2)

/-- A field that must be there. -/
def required {α : Type} (f : Fields) (name : String) (decode : Decoder α) : Option α :=
  (f.doc? name).bind (decode f.room)

/-- A field with a default for when it is absent. -/
def defaulted {α : Type} (f : Fields) (name : String) (decode : Decoder α) (default : α) :
    Option α :=
  match f.doc? name with
  | none => some default
  | some doc => decode f.room doc

/-- A field that is none when it is absent or `null`. -/
def optional {α : Type} (f : Fields) (name : String) (decode : Decoder α) : Option (Option α) :=
  f.defaulted name (nullable decode) none

end Fields

end Decoder

/-! ## Encoding -/

namespace Json

/-- A member that is left out when there is no value. -/
def optionalMember {α : Type} (name : String) (encode : α → Json) (value : Option α) :
    List (String × Json) :=
  (value.map fun v => (name, encode v)).toList

/-- A natural number. -/
def nat (n : Nat) : Json := .int n

/-- A time. -/
def time (t : Timestamp) : Json := .str t.text

/-- A value, or `null`. -/
def nullable {α : Type} (encode : α → Json) (value : Option α) : Json :=
  (value.map encode).getD .null

end Json

end Dispatch
