import Dispatch.Number.Double
import Dispatch.Number.Numeral

/-!
# Decimals as binary64 numbers

A decimal numeral is kept as its leading digits, as many as fit into a 64-bit word, and the power
of ten that they count.  Its value is the word times or over the power, where word, power and
result are each rounded to binary64.  So a numeral whose word has at most 53 bits and whose power
is at most `10 ^ 22` is valued at the nearest number, and a longer one may miss it by a little.
-/

namespace Dispatch

namespace Double

/-- The product of the magnitudes of two numbers, unless it is out of range. -/
def mulMagnitudes? (a b : Double) : Option Double :=
  let (n, d) := a.ratio
  let (p, q) := b.ratio
  ofRatio? false (n * p) (d * q)

/-- The quotient of the magnitudes of two numbers, unless it is out of range. -/
def divMagnitudes? (a b : Double) : Option Double :=
  let (n, d) := a.ratio
  let (p, q) := b.ratio
  ofRatio? false (n * q) (d * p)

/-- The number nearest to a power of ten, which is in range up to the 308th. -/
def tenTo (n : Nat) : Double := (ofRatio? false (Nat.pow 10 n) 1).getD .zero

/-- The magnitude times a power of ten, unless it is out of range.  A power below the table of
those in range is divided out in parts, each of which is rounded. -/
def scale? (d : Double) (e : Int) : Option Double :=
  if d.mantissa = 0 then some d
  else if 308 < e then none
  else if 0 ≤ e then d.mulMagnitudes? (tenTo e.toNat)
  else if -308 ≤ e then d.divMagnitudes? (tenTo (-e).toNat)
  else (d.divMagnitudes? (tenTo 308)).bind fun part => part.scale? (e + 308)
termination_by (-e).toNat
decreasing_by omega

end Double

/-- The number `significand * 10 ^ exponent`. -/
structure Decimal where
  significand : Nat := 0
  exponent : Int := 0
deriving DecidableEq, Repr

namespace Decimal

/-- The significand with one more digit, if that fits into a word. -/
def push? (d : Decimal) (digit : Char) : Option Nat :=
  let s := d.significand * 10 + (digit.toNat - '0'.toNat)
  if s ≤ Numeral.maxWord then some s else none

/-- The decimal with digits before the point.  The first that does not fit and all behind it count
as powers of ten only. -/
def pushWhole (d : Decimal) : List Char → Decimal
  | [] => d
  | c :: rest =>
    match d.push? c with
    | some significand => { d with significand }.pushWhole rest
    | none => { d with exponent := d.exponent + (rest.length + 1) }

/-- The decimal with digits behind the point.  The first that does not fit and all behind it count
nothing. -/
def pushFraction (d : Decimal) : List Char → Decimal
  | [] => d
  | c :: rest =>
    match d.push? c with
    | some significand => Decimal.pushFraction ⟨significand, d.exponent - 1⟩ rest
    | none => d

/-- The decimal times a power of ten. -/
def shift (d : Decimal) (e : Int) : Decimal := { d with exponent := d.exponent + e }

/-- The value as a binary64 number, unless it is out of range. -/
def toDouble? (negative : Bool) (d : Decimal) : Option Double := do
  let word ← Double.ofRatio? false d.significand 1
  let value ← word.scale? d.exponent
  return { value with negative }

end Decimal

end Dispatch
