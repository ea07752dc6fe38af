import Dispatch.Uuid

/-!
# Spellings

The ways in which an identifier may be written, one of which is the written form.
-/

namespace Dispatch

/-- A way to write an identifier. -/
inductive Spelling where
  /-- The written form. -/
  | grouped
  /-- The written form in upper case. -/
  | capital
  /-- The digits alone. -/
  | digits
  /-- The written form in braces. -/
  | braced
  /-- The written form behind its scheme. -/
  | urn
deriving DecidableEq, Repr

/-- Write an identifier. -/
def Uuid.spell (u : Uuid) : Spelling → List Char
  | .grouped => u.chars
  | .capital => u.chars.map Char.toUpper
  | .digits => u.digits
  | .braced => '\x7b' :: u.chars ++ ['\x7d']
  | .urn => "urn:uuid:".toList ++ u.chars

end Dispatch
