import Dispatch.Json.Basic
import Dispatch.Number.Shortest
import Dispatch.Text.Quoted

/-!
# Writing JSON texts

The compact form: no blanks, members in the order of the value.  Quotes, backslashes and controls
are escaped, the usual ones by a letter and the others by number; everything else stands for
itself.
-/

namespace Dispatch.Json

/-- A control by its number. -/
def numberedControl (c : Char) : List Char :=
  let ds := Text.hexDigits c.toNat
  ['\\', 'u'] ++ List.replicate (4 - ds.length) '0' ++ ds

/-- One character of a string. -/
def stringChar (c : Char) : List Char :=
  if c = '"' then ['\\', '"']
  else if c = '\\' then ['\\', '\\']
  else if c = '\x08' then ['\\', 'b']
  else if c = '\x0c' then ['\\', 'f']
  else if c = '\n' then ['\\', 'n']
  else if c = '\r' then ['\\', 'r']
  else if c = '\t' then ['\\', 't']
  else if c.toNat < 0x20 then numberedControl c
  else [c]

/-- A string between quotes. -/
def stringText (s : String) : String :=
  "\"" ++ String.ofList (s.toList.flatMap stringChar) ++ "\""

mutual

/-- The text of a value. -/
def render : Json → String
  | .null => "null"
  | .bool true => "true"
  | .bool false => "false"
  | .int i => toString i
  | .float d => d.text
  | .str s => stringText s
  | .arr items => "[" ++ renderItems items ++ "]"
  | .obj members => "\x7b" ++ renderMembers members ++ "\x7d"

/-- The items with commas between them. -/
def renderItems : List Json → String
  | [] => ""
  | [item] => item.render
  | item :: rest => item.render ++ "," ++ renderItems rest

/-- The members with commas between them. -/
def renderMembers : List (String × Json) → String
  | [] => ""
  | [(name, value)] => stringText name ++ ":" ++ value.render
  | (name, value) :: rest =>
    stringText name ++ ":" ++ value.render ++ "," ++ renderMembers rest

end

end Dispatch.Json
