/-!
# Tokens

The words of requests: methods, names of headers, media types and their parameters.
-/

namespace Dispatch.Http

/-- The characters of tokens. -/
def isTokenChar (c : Char) : Bool :=
  c.isAlphanum || "!#$%&'*+-.^_`|~".toList.contains c

/-- At least one character of tokens and no other. -/
def isToken (s : String) : Bool := !s.isEmpty && s.toList.all isTokenChar

end Dispatch.Http
