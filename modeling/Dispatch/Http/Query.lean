import Dispatch.Text.Percent

/-!
# Query strings

Pairs of names and values between ampersands.  A plus sign is a space, percent-encoded bytes are
decoded, and bytes that are not UTF-8 become replacement characters.
-/

namespace Dispatch.Http

/-- The names and values of a query, in order. -/
abbrev Query := List (String × String)

namespace Query

/-- The parts of a text between the characters that hold. -/
def splitChars (isMark : Char → Bool) : List Char → List (List Char)
  | [] => [[]]
  | c :: rest =>
    if isMark c then [] :: splitChars isMark rest
    else match splitChars isMark rest with
      | part :: parts => (c :: part) :: parts
      | [] => [[c]]

/-- The text of a name or a value. -/
def component (cs : List Char) : String :=
  let spaced := cs.map fun c => if c = '+' then ' ' else c
  Text.ofBytesLenient (Text.percentDecode (Text.bytes (String.ofList spaced)))

/-- A part up to its first equals sign and behind it. -/
def pair (part : List Char) : String × String :=
  (component (part.takeWhile (· ≠ '=')), component ((part.dropWhile (· ≠ '=')).drop 1))

/-- Read a query string; empty parts say nothing. -/
def parse (cs : List Char) : Query :=
  ((splitChars (· = '&') cs).filter fun part => !part.isEmpty).map pair

/-- None of the names comes twice. -/
def isPlain (q : Query) (names : List String) : Bool :=
  names.all fun n => (q.filter (·.1 = n)).length ≤ 1

/-- The value of a name. -/
def get? (q : Query) (name : String) : Option String := (q.find? (·.1 = name)).map (·.2)

end Query

end Dispatch.Http
