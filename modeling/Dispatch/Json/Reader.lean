import Dispatch.Json.Basic
import Dispatch.Number.Decimal
import Dispatch.Text.Utf8

/-!
# Reading JSON texts

A reader of RFC 8259 texts.  It takes one value off the front of a text and returns what follows,
so that a caller decides whether anything may follow.  The grammar is checked everywhere; whether
a leaf denotes a value is left to whoever asks for it.
-/

namespace Dispatch.Json.Reader

/-- The four blanks of the grammar. -/
def isSpace (c : Char) : Bool :=
  c = ' ' || c = '\n' || c = '\t' || c = '\r'

/-- What follows the blanks. -/
def skip (cs : List Char) : List Char := cs.dropWhile isSpace

/-! ## Strings -/

/-- A piece of a string: a character, or a 16-bit unit given by its number. -/
inductive Piece where
  | char (c : Char)
  | unit (n : Nat)

/-- The value of a hexadecimal digit. -/
def hexDigit? (c : Char) : Option Nat :=
  if '0' ≤ c ∧ c ≤ '9' then some (c.toNat - 48)
  else if 'a' ≤ c ∧ c ≤ 'f' then some (c.toNat - 87)
  else if 'A' ≤ c ∧ c ≤ 'F' then some (c.toNat - 55)
  else none

/-- The number of four hexadecimal digits. -/
def hexUnit? (a b c d : Char) : Option Nat := do
  let a ← hexDigit? a
  let b ← hexDigit? b
  let c ← hexDigit? c
  let d ← hexDigit? d
  return ((a * 16 + b) * 16 + c) * 16 + d

/-- The character behind a one-letter escape. -/
def escaped? (c : Char) : Option Char :=
  if c = '"' ∨ c = '\\' ∨ c = '/' then some c
  else if c = 'b' then some '\x08'
  else if c = 'f' then some '\x0c'
  else if c = 'n' then some '\n'
  else if c = 'r' then some '\r'
  else if c = 't' then some '\t'
  else none

/-- The pieces up to the closing quote, put behind those read so far (last first), and what
follows the quote. -/
def pieces? (soFar : List Piece) : List Char → Option (List Piece × List Char)
  | [] => none
  | '"' :: rest => some (soFar.reverse, rest)
  | '\\' :: 'u' :: a :: b :: c :: d :: rest =>
    match hexUnit? a b c d with
    | none => none
    | some n => pieces? (.unit n :: soFar) rest
  | '\\' :: c :: rest =>
    match escaped? c with
    | none => none
    | some e => pieces? (.char e :: soFar) rest
  | c :: rest => if c.toNat < 0x20 ∨ c = '\\' then none else pieces? (.char c :: soFar) rest

/-- A unit that starts a pair. -/
def isHigh (n : Nat) : Bool := 0xD800 ≤ n && n < 0xDC00

/-- A unit that ends a pair. -/
def isLow (n : Nat) : Bool := 0xDC00 ≤ n && n < 0xE000

/-- The characters of the pieces, unless half a pair is among them. -/
def join? : List Piece → Option (List Char)
  | [] => some []
  | .char c :: rest => (join? rest).map (c :: ·)
  | .unit h :: .unit l :: rest =>
    if isHigh h then
      if isLow l then
        (join? rest).map (Char.ofNat (0x10000 + (h - 0xD800) * 0x400 + (l - 0xDC00)) :: ·)
      else none
    else if isLow h then none
    else (join? (.unit l :: rest)).map (Char.ofNat h :: ·)
  | .unit n :: rest => if isHigh n || isLow n then none else (join? rest).map (Char.ofNat n :: ·)

/-- The rest of a string behind its opening quote. -/
def text? (cs : List Char) : Option (Option String × List Char) :=
  (pieces? [] cs).map fun (ps, rest) => ((join? ps).map String.ofList, rest)

/-! ## Numbers -/

/-- A decimal digit. -/
def isDigit (c : Char) : Bool := '0' ≤ c && c ≤ '9'

/-- The digits at the front, and what follows. -/
def digits (cs : List Char) : List Char × List Char := (cs.takeWhile isDigit, cs.dropWhile isDigit)

/-- The number of a list of digits. -/
def natOf (ds : List Char) : Nat := ds.foldl (fun n c => n * 10 + (c.toNat - 48)) 0

/-- The value of a decimal as a binary64 number. -/
def float (negative : Bool) (d : Decimal) : Doc :=
  ((d.toDouble? negative).map .float).getD .unreadable

/-- The value of a numeral without fraction and exponent: an integer if it is one of 64 bits, with
a sign if it is negative. -/
def wholeNumber (negative : Bool) (d : Decimal) : Doc :=
  if d.exponent ≠ 0 then float negative d
  else if ¬negative then .int d.significand
  else if 1 ≤ d.significand ∧ d.significand ≤ 9223372036854775808 then .int (-d.significand)
  else float negative d

/-- The optional fraction. -/
def fraction? : List Char → Option (List Char × List Char)
  | '.' :: rest =>
    let (ds, rest) := digits rest
    if ds.isEmpty then none else some (ds, rest)
  | cs => some ([], cs)

/-- The optional exponent. -/
def exponent? : List Char → Option (Option Int × List Char)
  | c :: rest =>
    if c = 'e' ∨ c = 'E' then
      let (negative, rest) := match rest with
        | '-' :: r => (true, r)
        | '+' :: r => (false, r)
        | r => (false, r)
      let (ds, rest) := digits rest
      if ds.isEmpty then none
      else some (some (if negative then -(natOf ds : Int) else natOf ds), rest)
    else some (none, c :: rest)
  | [] => some (none, [])

/-- A number without its sign. -/
def magnitude? (negative : Bool) (cs : List Char) : Option (Doc × List Char) := do
  let (whole, cs) := digits cs
  if whole.isEmpty ∨ (whole.head? = some '0' ∧ 1 < whole.length) then none
  let (part, cs) ← fraction? cs
  let (exponent, cs) ← exponent? cs
  if part.isEmpty ∧ exponent.isNone then
    return (wholeNumber negative (Decimal.pushWhole {} whole), cs)
  else
    let decimal := (Decimal.pushWhole {} whole).pushFraction part
    return (float negative (decimal.shift (exponent.getD 0)), cs)

/-! ## Values -/

/-- A word that stands for a value. -/
def word? (word : String) (value : Doc) (cs : List Char) : Option (Doc × List Char) :=
  if word.toList.isPrefixOf cs then some (value, cs.drop word.length) else none

/-- A value that is not a container. -/
def leaf? : List Char → Option (Doc × List Char)
  | '"' :: rest => (text? rest).map fun (s, rest) => ((s.map Doc.str).getD .unreadable, rest)
  | '-' :: rest => magnitude? true rest
  | 't' :: rest => word? "rue" (.bool true) rest
  | 'f' :: rest => word? "alse" (.bool false) rest
  | 'n' :: rest => word? "ull" .null rest
  | cs => magnitude? false cs

mutual

/-- One value at the front of a text. -/
def value? : Nat → List Char → Option (Doc × List Char)
  | 0, _ => none
  | fuel + 1, cs =>
    match skip cs with
    | '[' :: rest =>
      match skip rest with
      | ']' :: rest => some (.arr [], rest)
      | cs => (items? fuel cs).map fun (xs, rest) => (.arr xs, rest)
    | '\x7b' :: rest =>
      match skip rest with
      | '\x7d' :: rest => some (.obj [], rest)
      | cs => (members? fuel cs).map fun (ms, rest) => (.obj ms, rest)
    | cs => leaf? cs

/-- The items up to the closing bracket. -/
def items? : Nat → List Char → Option (List Doc × List Char)
  | 0, _ => none
  | fuel + 1, cs =>
    match value? fuel cs with
    | none => none
    | some (item, rest) =>
      match skip rest with
      | ']' :: rest => some ([item], rest)
      | ',' :: rest => (items? fuel rest).map fun (xs, rest) => (item :: xs, rest)
      | _ => none

/-- The members up to the closing brace. -/
def members? : Nat → List Char → Option (List (Option String × Doc) × List Char)
  | 0, _ => none
  | fuel + 1, cs =>
    match skip cs with
    | '"' :: rest =>
      match text? rest with
      | none => none
      | some (name, rest) =>
        match skip rest with
        | ':' :: rest =>
          match value? fuel rest with
          | none => none
          | some (value, rest) =>
            match skip rest with
            | '\x7d' :: rest => some ([(name, value)], rest)
            | ',' :: rest =>
              (members? fuel rest).map fun (ms, rest) => ((name, value) :: ms, rest)
            | _ => none
        | _ => none
    | _ => none

end

end Dispatch.Json.Reader

namespace Dispatch.Doc

/-- The first value of a text.  Every call reads a character, so twice the length of the text
bounds the depth of the calls. -/
def readFirst? (s : String) : Option (Doc × List Char) :=
  let cs := s.toList
  Json.Reader.value? (2 * cs.length + 2) cs

/-- What stands for bytes that are no characters: no value starts with it and no escape goes on with
it, and in a string it is half a pair, so that the string denotes no text. -/
def strayBytes : List Char :=
  ['\ufffd', '\\', 'u', 'd', '8', '0', '0', '\\', 'u', 'd', '8', '0', '0']

/-- The first value of a sequence of bytes.  Bytes that are no characters may follow it, and they
may be in strings that nobody asks for. -/
def readFirstBytes? (bytes : List UInt8) : Option (Doc × List Char) :=
  readFirst? (String.ofList ((Text.pieces bytes).flatMap fun c => (c.map ([·])).getD strayBytes))

/-- The value of a text that holds nothing else. -/
def read? (s : String) : Option Doc :=
  match readFirst? s with
  | some (doc, rest) => if (Json.Reader.skip rest).isEmpty then some doc else none
  | none => none

end Dispatch.Doc

namespace Dispatch.Json

/-- Containers may nest 127 deep. -/
def maxDepth : Nat := 127

/-- Read a text that holds one value. -/
def read? (s : String) : Option Json :=
  (Doc.read? s).bind (Doc.value? maxDepth)

end Dispatch.Json
