import Dispatch.Http.Target
import Dispatch.Http.Token
import Dispatch.Json.Basic
import Dispatch.Text.Utf8

/-!
# Requests and responses

What a client asks and what it is told.  A body that is not JSON is not kept: the only texts that
the application writes itself are JSON documents.
-/

namespace Dispatch.Http

/-- What a client sends. -/
structure Request where
  method : String
  target : Target
  /-- Names and values in the order of sending; names are compared without regard to case. -/
  headers : List (String × String) := []
  body : List UInt8 := []
deriving Repr

/-- What a client gets. -/
structure Response where
  status : Nat
  contentType : Option String := none
  /-- The identity of the exchange, for the logs of both sides. -/
  requestId : Option String := none
  body : Option Json := none
deriving Repr

namespace Request

/-- A text with the ASCII letters in lower case. -/
def lowercase (s : String) : String := String.ofList (s.toList.map Char.toLower)

/-- The first header of a name, given in lower case. -/
def header? (r : Request) (name : String) : Option String :=
  (r.headers.find? fun h => lowercase h.1 = name).map (·.2)

/-- A header with a token for its name and no controls but tabs in its value. -/
def isHeader (h : String × String) : Bool :=
  isToken h.1 && h.2.toList.all fun c => c = '\t' || (' ' ≤ c && c ≠ '\x7f')

/-- The request with these parts and a text for its body, unless one of them cannot be sent. -/
def of? (method target : String) (headers : List (String × String)) (body : String) :
    Option Request :=
  if isToken method && headers.all isHeader then
    (Target.parse? target).map fun target => { method, target, headers, body := Text.bytes body }
  else none

/-- A header value of visible ASCII characters, spaces and tabs. -/
def isReadable (value : String) : Bool :=
  value.toList.all fun c => c = '\t' || (' ' ≤ c && c ≤ '~')

/-- The first header of a name, if it is readable. -/
def readable? (r : Request) (name : String) : Option String :=
  (r.header? name).filter isReadable

end Request

namespace Response

/-- A JSON document. -/
def json (status : Nat) (body : Json) : Response :=
  { status, contentType := some "application/json", body := some body }

/-- A plain text that is not kept. -/
def plain (status : Nat) : Response :=
  { status, contentType := some "text/plain; charset=utf-8" }

/-- An error with its code and wording. -/
def error (status : Nat) (code message : String) : Response :=
  json status (.obj [("error", .str code), ("message", .str message)])

end Response

end Dispatch.Http
