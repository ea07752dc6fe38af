import Dispatch.Text.Unprintable

/-!
# Quoted texts

Messages quote the text they complain about.  Quotes and backslashes are escaped, the four common
controls have short names, a character without a picture is written as its code point in
hexadecimal between braces, and everything else stands for itself; an apostrophe is not escaped.
-/

namespace Dispatch.Text

/-- The lower-case hexadecimal digits of a number, at least one. -/
def hexDigits (n : Nat) : List Char :=
  Nat.toDigits 16 n

/-- How one character is written between quotes. -/
def quotedChar (c : Char) : List Char :=
  if c = '\x00' then ['\\', '0']
  else if c = '\t' then ['\\', 't']
  else if c = '\r' then ['\\', 'r']
  else if c = '\n' then ['\\', 'n']
  else if c = '"' then ['\\', '"']
  else if c = '\\' then ['\\', '\\']
  else if isUnprintable c then ['\\', 'u', '\x7b'] ++ hexDigits c.toNat ++ ['\x7d']
  else [c]

/-- A text between quotes. -/
def quoted (s : String) : String :=
  String.ofList (['"'] ++ s.toList.flatMap quotedChar ++ ['"'])

end Dispatch.Text
