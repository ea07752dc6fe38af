import Dispatch.Http.Token

/-!
# Media types

The value of a content-type header: a type, a subtype that may end in a suffix behind a plus sign,
and parameters.  Only the form of the parameters matters here, because a value with a malformed
parameter is no media type.
-/

namespace Dispatch.Http

/-- A media type without its parameters, in lower case. -/
structure MediaType where
  type : String
  /-- What is in front of the last plus sign. -/
  subtype : String
  suffix : Option String := none
deriving DecidableEq, Repr

namespace MediaType

/-- The characters of quoted values. -/
def isQuotedChar (c : Char) : Bool := ' ' ≤ c && c ≠ '\x7f'

/-- What follows a closing quote and the spaces behind it: nothing, or the next parameter. -/
def afterQuote? (cs : List Char) : Option (List Char) :=
  match cs.dropWhile (· = ' ') with
  | [] => some []
  | ';' :: rest => some rest
  | _ => none

/-- What follows a quoted value.  The first character behind the opening quote belongs to the value
even if it is a quote, so a value is never empty. -/
def afterQuoted? : List Char → Option (List Char)
  | [] => none
  | first :: rest =>
    if isQuotedChar first then
      match rest.dropWhile fun c => c ≠ '"' && isQuotedChar c with
      | '"' :: rest => afterQuote? rest
      | _ => none
    else none

/-- The parameters are well formed.  Every parameter takes a character, so the length of the text
bounds their number. -/
def parametersOk : Nat → List Char → Bool
  | 0, cs => cs.isEmpty
  | fuel + 1, cs =>
    match cs.dropWhile (· = ' ') with
    | [] => true
    | cs =>
      let name := cs.takeWhile isTokenChar
      match cs.dropWhile isTokenChar with
      | '=' :: '"' :: rest =>
        match afterQuoted? rest with
        | some rest => !name.isEmpty && parametersOk fuel rest
        | none => false
      | '=' :: rest =>
        let value := rest.takeWhile isTokenChar
        match rest.dropWhile isTokenChar with
        | [] => !name.isEmpty
        | ';' :: rest => !name.isEmpty && !value.isEmpty && parametersOk fuel rest
        | _ => false
      | _ => false

/-- Cut a subtype at its last plus sign, which must not be its first character. -/
def splitSuffix (cs : List Char) : List Char × Option (List Char) :=
  let suffix := (cs.reverse.takeWhile (· ≠ '+')).reverse
  let subtype := cs.take (cs.length - suffix.length - 1)
  if subtype.isEmpty then (cs, none) else (subtype, some suffix)

/-- Letters in lower case. -/
def lower (cs : List Char) : String := String.ofList (cs.map Char.toLower)

/-- Read a header value. -/
def parse? (value : String) : Option MediaType :=
  let cs := value.toList
  let type := cs.takeWhile isTokenChar
  match cs.dropWhile isTokenChar with
  | '/' :: rest =>
    let name := rest.takeWhile isTokenChar
    let (subtype, suffix) := splitSuffix name
    let media : MediaType := ⟨lower type, lower subtype, suffix.map lower⟩
    if type.isEmpty ∨ name.isEmpty then none
    else match rest.dropWhile isTokenChar with
      | [] => some media
      | ';' :: parameters =>
        if parametersOk (parameters.length + 1) parameters then some media else none
      | _ => none
  | _ => none

/-- JSON, or a format whose suffix says that it is written in JSON. -/
def isJson (m : MediaType) : Bool :=
  m.type = "application" && (m.subtype = "json" || m.suffix = some "json")

end MediaType

end Dispatch.Http
