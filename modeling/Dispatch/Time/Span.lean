import Dispatch.Number.Double
import Dispatch.Number.Numeral
import Dispatch.Text.Blank
import Dispatch.Text.Quoted

/-!
# Spans of time

A span is a whole number of nanoseconds.  Settings write it as a numeral with an optional unit;
messages write it in the greatest unit of which it holds at least one, with the fraction that is
left and no zeros at its end.
-/

namespace Dispatch

/-- A length of time in nanoseconds. -/
structure Span where
  nanos : Nat
deriving DecidableEq, Repr, Inhabited

namespace Span

def zero : Span := ⟨0⟩
def ofMicros (n : Nat) : Span := ⟨n * 1000⟩
def ofMillis (n : Nat) : Span := ⟨n * 1000000⟩
def ofSeconds (n : Nat) : Span := ⟨n * 1000000000⟩

/-- The longest span: the greatest word of seconds and the nanoseconds of almost one more. -/
def longest : Span := ⟨Numeral.maxWord * 1000000000 + 999999999⟩

/-- So many times a span, or the longest one. -/
def times (n : Nat) (s : Span) : Span := ⟨min (n * s.nanos) longest.nanos⟩

instance : LE Span := ⟨fun a b => a.nanos ≤ b.nanos⟩
instance : LT Span := ⟨fun a b => a.nanos < b.nanos⟩
instance (a b : Span) : Decidable (a ≤ b) := inferInstanceAs (Decidable (a.nanos ≤ b.nanos))
instance (a b : Span) : Decidable (a < b) := inferInstanceAs (Decidable (a.nanos < b.nanos))

/-- The span in seconds as a binary64 number: whole seconds and fraction are rounded apart, then
their sum is. -/
def seconds (s : Span) : Double :=
  let whole := Double.ofRatio? false (s.nanos / 1000000000) 1
  let part := Double.ofRatio? false (s.nanos % 1000000000) 1000000000
  ((whole.bind fun w => part.bind fun p => w.addMagnitudes? p).getD .zero)

/-! ## Text -/

/-- The digits of `n`, with zeros in front up to `width`. -/
def padded (width n : Nat) : List Char :=
  let digits := Nat.toDigits 10 n
  List.replicate (width - digits.length) '0' ++ digits

/-- `nanos / unit` as a decimal, `places` being the number of zeros of `unit`. -/
def decimal (nanos unit places : Nat) : List Char :=
  let whole := Nat.toDigits 10 (nanos / unit)
  let fraction := ((padded places (nanos % unit)).reverse.dropWhile (· = '0')).reverse
  if nanos % unit = 0 then whole else whole ++ '.' :: fraction

/-- The span in its greatest unit: `1.5s`, `250ms`, `1.001µs`, `0ns`. -/
def text (s : Span) : String :=
  if 1000000000 ≤ s.nanos then String.ofList (decimal s.nanos 1000000000 9) ++ "s"
  else if 1000000 ≤ s.nanos then String.ofList (decimal s.nanos 1000000 6) ++ "ms"
  else if 1000 ≤ s.nanos then String.ofList (decimal s.nanos 1000 3) ++ "µs"
  else String.ofList (decimal s.nanos 1 0) ++ "ns"

/-! ## Reading -/

/-- Why a text is not a span. -/
inductive ParseError where
  /-- It does not start with a digit. -/
  | noDigits
  /-- Its numeral is beyond the greatest word. -/
  | numeral (cause : NumeralError)
  /-- Its minutes or hours are more seconds than a word counts. -/
  | overflow
  | unknownUnit (unit : String)
deriving DecidableEq, Repr

/-- The wording of a parse error. -/
def ParseError.message : ParseError → String
  | .noDigits => "expected a number with an optional ms/s/m/h suffix"
  | .numeral cause => cause.message
  | .overflow => "duration overflow"
  | .unknownUnit unit => "unknown duration unit " ++ Text.quoted unit

/-- So many times `size` seconds, as long as a word counts them. -/
def countSeconds (value size : Nat) : Except ParseError Span :=
  if value * size ≤ Numeral.maxWord then .ok (ofSeconds (value * size)) else .error .overflow

/-- The span of `value` units of the given name; seconds have none. -/
def ofUnit (value : Nat) (unit : String) : Except ParseError Span :=
  if unit = "ms" then .ok (ofMillis value)
  else if unit = "" ∨ unit = "s" then .ok (ofSeconds value)
  else if unit = "m" then countSeconds value 60
  else if unit = "h" then countSeconds value 3600
  else .error (.unknownUnit unit)

/-- An ASCII decimal digit. -/
def isDigit (c : Char) : Bool :=
  (Numeral.digit? c).isSome

/-- Read a numeral with an optional unit, `250ms`, `5s`, `2m`, `1h` or `30`, with blanks around
both. -/
def parse (raw : String) : Except ParseError Span :=
  let cs := Text.trimChars raw.toList
  let digits := cs.takeWhile isDigit
  let unit := String.ofList (Text.trimChars (cs.dropWhile isDigit))
  if digits.isEmpty then .error .noDigits
  else match Numeral.readDigits Numeral.maxWord digits with
    | .error cause => .error (.numeral cause)
    | .ok value => ofUnit value unit

end Span

end Dispatch
