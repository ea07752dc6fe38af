/-!
# Finite binary64 numbers, exactly

Costs, the time limits of blocking reads and the numbers inside payloads are binary64 numbers.
They are kept as the sign, mantissa and exponent of the canonical form, so that a value can be
reasoned about as the dyadic rational it is; rounding is done on ratios of natural numbers, to the
nearest neighbour and on a tie to the even one.  Infinities and NaN have no place in any of the
formats and are not represented.
-/

namespace Dispatch

/-- A mantissa and exponent in canonical form: 53 bits are used unless the exponent is the least. -/
def Double.Canonical (mantissa : Nat) (exponent : Int) : Prop :=
  mantissa < 9007199254740992 ∧ -1074 ≤ exponent ∧ exponent ≤ 971 ∧
    (4503599627370496 ≤ mantissa ∨ exponent = -1074)

instance (mantissa : Nat) (exponent : Int) : Decidable (Double.Canonical mantissa exponent) :=
  inferInstanceAs (Decidable (_ ∧ _))

/-- The number `mantissa * 2 ^ exponent`, or its negative.  Zero keeps its sign. -/
structure Double where
  negative : Bool
  mantissa : Nat
  exponent : Int
  canonical : Double.Canonical mantissa exponent
deriving DecidableEq, Repr

namespace Double

/-- Zero, without a sign. -/
def zero : Double := ⟨false, 0, -1074, by decide⟩

instance : Inhabited Double := ⟨zero⟩

/-- The quotient nearest to `num / den`; of two equally near ones the even one. -/
def roundQuotient (num den : Nat) : Nat :=
  let q := num / den
  let r := num % den
  if 2 * r < den then q
  else if den < 2 * r then q + 1
  else q + q % 2

/-- The ratio `num / den / 2 ^ e` as a ratio of natural numbers. -/
def scaled (num den : Nat) (e : Int) : Nat × Nat :=
  if 0 ≤ e then (num, den * Nat.pow 2 e.toNat) else (num * Nat.pow 2 (-e).toNat, den)

/-- The exponent of the greatest power of two that is at most `num / den`. -/
def binaryOrder (num den : Nat) : Int :=
  let e := (num.log2 : Int) - den.log2
  let s := scaled num den e
  if s.1 < s.2 then e - 1 else e

/-- The number nearest to `num / den`, unless it is beyond the greatest finite one. -/
def ofRatio? (negative : Bool) (num den : Nat) : Option Double :=
  let e := max (-1074) (binaryOrder num den - 52)
  let s := scaled num den e
  let q := roundQuotient s.1 s.2
  let m := if q = 9007199254740992 then 4503599627370496 else q
  let x := if q = 9007199254740992 then e + 1 else e
  if num = 0 then some { zero with negative := negative }
  else if h : Canonical m x then some ⟨negative, m, x, h⟩
  else none

/-- The number nearest to an integer. -/
def ofInt? (i : Int) : Option Double :=
  ofRatio? (i < 0) i.natAbs 1

/-- The magnitude as a ratio of natural numbers. -/
def ratio (d : Double) : Nat × Nat :=
  if 0 ≤ d.exponent then (d.mantissa * Nat.pow 2 d.exponent.toNat, 1)
  else (d.mantissa, Nat.pow 2 (-d.exponent).toNat)

/-- The sum of the magnitudes of two numbers, rounded once. -/
def addMagnitudes? (a b : Double) : Option Double :=
  let (n, d) := a.ratio
  let (p, q) := b.ratio
  ofRatio? false (n * q + p * d) (d * q)

end Double

end Dispatch
