/-!
# Request targets

A request names a path and a query, alone or inside an absolute URI.  Scheme and authority of a URI
have to be well formed and are otherwise ignored, and so is a fragment.  An authority alone is a
target too, one with an empty path, and so is a lone asterisk.
-/

namespace Dispatch.Http

/-- A path and a query, both percent-encoded. -/
structure Target where
  path : List Char
  query : List Char := []
deriving DecidableEq, Repr

namespace Target

/-! ## Paths -/

/-- The characters of paths: all but controls, the space and those that end a path or have to be
encoded. -/
def isPathChar (c : Char) : Bool := ' ' < c && !"#<>?`".toList.contains c

/-- The characters of queries. -/
def isQueryChar (c : Char) : Bool := ' ' < c && !"\"#<>".toList.contains c

/-- Path and query in front of a fragment. -/
def ofResource? (cs : List Char) : Option Target :=
  let resource := cs.takeWhile (· ≠ '#')
  let path := resource.takeWhile (· ≠ '?')
  let query := (resource.dropWhile (· ≠ '?')).drop 1
  if path.all isPathChar && query.all isQueryChar then some ⟨path, query⟩ else none

/-! ## Authorities -/

/-- What has been seen of an authority. -/
structure Authority where
  /-- Colons outside the user information and the brackets. -/
  colons : Nat := 0
  opened : Bool := false
  closed : Bool := false
  /-- There is a percent sign outside the user information and the brackets. -/
  percent : Bool := false

namespace Authority

/-- The characters without a meaning of their own. -/
def isPlain (c : Char) : Bool := c.isAlphanum || "!$&'()*+,-.;=_~".toList.contains c

/-- One more character.  Up to an at sign all was user information, and up to a closing bracket all
was an address, so colons and percent signs in front of them do not count. -/
def push? (a : Authority) (c : Char) : Option Authority :=
  match c with
  | ':' => if a.colons < 8 then some { a with colons := a.colons + 1 } else none
  | '[' => if a.percent || a.opened then none else some { a with opened := true }
  | ']' =>
    if a.opened && !a.closed then some { a with closed := true, colons := 0, percent := false }
    else none
  | '@' => some { a with colons := 0, percent := false }
  | '%' => some { a with percent := true }
  | c => if isPlain c then some a else none

/-- The text is user information, host and port: at most one colon in front of the port, brackets in
a pair, and something behind the user information. -/
def accepts (cs : List Char) : Bool :=
  match cs.foldlM push? ({} : Authority) with
  | some a => a.opened == a.closed && a.colons ≤ 1 && !a.percent && cs.getLast? != some '@'
  | none => false

end Authority

/-! ## Targets -/

/-- The characters of schemes. -/
def isSchemeChar (c : Char) : Bool := c.isAlphanum || "+-.~".toList.contains c

/-- What follows the scheme of an absolute URI. -/
def afterScheme? (cs : List Char) : Option (List Char) :=
  match cs.dropWhile isSchemeChar with
  | ':' :: '/' :: '/' :: rest =>
    if (cs.takeWhile isSchemeChar).length ≤ 64 then some rest else none
  | _ => none

/-- The target behind the scheme of an absolute URI.  An empty path is the root. -/
def ofAbsolute? (cs : List Char) : Option Target :=
  let authority := cs.takeWhile fun c => !"/?#".toList.contains c
  if authority.isEmpty || !Authority.accepts authority then none
  else
    (ofResource? (cs.drop authority.length)).map fun t =>
      if t.path.isEmpty then { t with path := ['/'] } else t

/-- The length in bytes that no target exceeds. -/
def maxSize : Nat := 65534

/-- Read a target. -/
def parse? (s : String) : Option Target :=
  if maxSize < s.utf8ByteSize then none
  else
    match s.toList with
    | [] => none
    | ['*'] => some ⟨['*'], []⟩
    | '/' :: rest => ofResource? ('/' :: rest)
    | cs =>
      match afterScheme? cs with
      | some rest => ofAbsolute? rest
      | none => if Authority.accepts cs then some ⟨[], []⟩ else none

end Target

end Dispatch.Http
