import Dispatch.Uuid

/-!
# Identifiers in running text

A text mentions an identifier where it holds the written form.  Mentions may be replaced by names,
so that reports of two runs that drew different identifiers read the same.
-/

namespace Dispatch.Uuid

/-- The identifier that a text starts with. -/
def mentioned? (cs : List Char) : Option Uuid :=
  if cs[8]? = some '-' then
    (ofGrouped? (cs.take 36)).filter fun u => u.chars = cs.take 36
  else none

/-- Replace mentions, after leaving out so many characters. -/
def renameAfter (name : Uuid → Option String) : Nat → List Char → List Char
  | _, [] => []
  | skip + 1, _ :: rest => renameAfter name skip rest
  | 0, c :: rest =>
    match (mentioned? (c :: rest)).bind name with
    | some n => n.toList ++ renameAfter name 35 rest
    | none => c :: renameAfter name 0 rest

/-- Replace the mentions of all identifiers that have a name. -/
def rename (name : Uuid → Option String) (s : String) : String :=
  String.ofList (renameAfter name 0 s.toList)

end Dispatch.Uuid
