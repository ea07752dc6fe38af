import Dispatch.Text.Blank
import Dispatch.Time.Timestamp

/-!
# RFC 3339 texts

A timestamp is written in UTC with the fewest of 0, 3, 6 or 9 fraction digits that are exact; the
second of a leap second is the sixtieth.  It is read with any offset and more freely than it is
written: numbers may be short, blanks may stand before numbers and around marks, years outside the
four digits carry a sign, and the offset may be spelled in several ways.
-/

namespace Dispatch.Timestamp

/-! ## Writing -/

/-- Four digits, or a sign and at least four outside the years 0 to 9999. -/
def yearDigits (year : Int) : List Char :=
  let digits := Span.padded 4 year.natAbs
  if 0 ≤ year ∧ year ≤ 9999 then digits
  else (if year < 0 then '-' else '+') :: digits

/-- The fraction of a second with the fewest of 0, 3, 6 or 9 digits. -/
def fractionDigits (nanos : Nat) : List Char :=
  if nanos = 0 then []
  else if nanos % 1000000 = 0 then '.' :: Span.padded 3 (nanos / 1000000)
  else if nanos % 1000 = 0 then '.' :: Span.padded 6 (nanos / 1000)
  else '.' :: Span.padded 9 nanos

/-- The text in UTC. -/
def chars (t : Timestamp) : List Char :=
  let date := t.time.date
  let ofDay := t.time.secondOfDay
  yearDigits date.year ++ '-' :: Span.padded 2 date.month ++ '-' :: Span.padded 2 date.day ++
    'T' :: Span.padded 2 (ofDay / 3600) ++ ':' :: Span.padded 2 (ofDay / 60 % 60) ++
    ':' :: Span.padded 2 (ofDay % 60 + if t.leap then 1 else 0) ++
    fractionDigits t.time.fraction ++ ['Z']

/-- The text in UTC. -/
def text (t : Timestamp) : String := String.ofList t.chars

/-! ## Reading -/

/-- What follows the blanks. -/
def skip (cs : List Char) : List Char := cs.dropWhile Text.isBlank

/-- A numeral of at least one digit at the front, and what follows it. -/
def takeNumeral? (cs : List Char) : Option (Nat × List Char) :=
  match Numeral.readDigits Numeral.maxSigned (cs.takeWhile Span.isDigit) with
  | .ok n => some (n, cs.dropWhile Span.isDigit)
  | .error _ => none

/-- A numeral of one to `width` digits at the front, and what follows it. -/
def takeUpTo? (width : Nat) (cs : List Char) : Option (Nat × List Char) := do
  let (n, rest) ← takeNumeral? (cs.take width)
  return (n, rest ++ cs.drop width)

/-- Exactly two digits at the front, and what follows them. -/
def takeTwo? : List Char → Option (Nat × List Char)
  | a :: b :: rest => do return ((← Numeral.digit? a) * 10 + (← Numeral.digit? b), rest)
  | _ => none

/-- A mark at the front, and what follows it. -/
def takeMark? (mark : Char) : List Char → Option (List Char)
  | c :: rest => if c = mark then some rest else none
  | [] => none

/-- A year: up to four digits, or any number of digits behind a sign. -/
def takeYear? (cs : List Char) : Option (Int × List Char) :=
  match skip cs with
  | '-' :: rest => (takeNumeral? rest).map fun (n, rest) => (-(n : Int), rest)
  | '+' :: rest => (takeNumeral? rest).map fun (n, rest) => ((n : Int), rest)
  | cs => (takeUpTo? 4 cs).map fun (n, rest) => ((n : Int), rest)

/-- A number of one or two digits, with blanks in front. -/
def takePart? (cs : List Char) : Option (Nat × List Char) := takeUpTo? 2 (skip cs)

/-- A mark with blanks in front and a number behind it. -/
def takeNext? (mark : Char) (cs : List Char) : Option (Nat × List Char) := do
  takePart? (← takeMark? mark (skip cs))

/-- An optional point with at least one digit, in nanoseconds; digits beyond the ninth are
dropped. -/
def takeFraction? : List Char → Option (Nat × List Char)
  | '.' :: rest => do
    let digits := rest.takeWhile Span.isDigit
    let (n, _) ← takeNumeral? (digits.take 9)
    return (n * Nat.pow 10 (9 - digits.length), rest.dropWhile Span.isDigit)
  | cs => some (0, cs)

/-- The sign of an offset.  The typographic minus is one too. -/
def signOf? (c : Char) : Option Int :=
  if c = '+' then some 1 else if c = '-' ∨ c = '\u2212' then some (-1) else none

/-- An offset from UTC in seconds, and what follows it: a `Z`, the letters `UTC`, or a sign with
two digits each for hours and minutes; colons and blanks may part these. -/
def takeOffset? (cs : List Char) : Option (Int × List Char) :=
  if (cs.take 3).map Char.toUpper = ['U', 'T', 'C'] then some (0, cs.drop 3)
  else
    match cs with
    | 'Z' :: rest => some (0, rest)
    | 'z' :: rest => some (0, rest)
    | sign :: rest => do
      let sign ← signOf? sign
      let (hours, rest) ← takeTwo? rest
      let (minutes, rest) ← takeTwo? (rest.dropWhile fun c => c = ':' || Text.isBlank c)
      if hours < 24 ∧ minutes < 60 then return (sign * (hours * 3600 + minutes * 60 : Nat), rest)
      else none
    | [] => none

/-- The timestamp of a date and a time of day, unless one of them does not exist.  The sixtieth
second of a minute is a leap second. -/
def assemble? (date : Calendar.Date) (hour minute second nanos : Nat) (offset : Int) :
    Option Timestamp :=
  if date.Exists ∧ Time.firstYear ≤ date.year ∧ date.year ≤ Time.lastYear ∧
      hour < 24 ∧ minute < 60 ∧ second ≤ 60 then
    let ofDay := hour * 3600 + minute * 60 + min second 59
    let seconds := date.toDays * 86400 + ofDay - offset
    let time : Time := ⟨seconds * 1000000000 + nanos⟩
    if Time.earliest ≤ time ∧ time < Time.horizon then of? time (second = 60) else none
  else none

/-- Read a text with nothing but blanks behind it. -/
def readChars? (cs : List Char) : Option Timestamp := do
  let (year, cs) ← takeYear? cs
  let (month, cs) ← takeNext? '-' cs
  let (day, cs) ← takeNext? '-' cs
  let cs ← match cs with
    | 'T' :: rest => some rest
    | 't' :: rest => some rest
    | ' ' :: rest => some rest
    | _ => none
  let (hour, cs) ← takePart? cs
  let (minute, cs) ← takeNext? ':' cs
  let (second, cs) ← takeNext? ':' cs
  let (nanos, cs) ← takeFraction? cs
  let (offset, cs) ← takeOffset? (skip cs)
  if (skip cs).isEmpty then assemble? ⟨year, month, day⟩ hour minute second nanos offset else none

/-- Read an RFC 3339 text. -/
def read? (s : String) : Option Timestamp := readChars? s.toList

end Dispatch.Timestamp
