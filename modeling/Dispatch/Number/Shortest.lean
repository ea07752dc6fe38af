import Dispatch.Number.Double

/-!
# The fewest digits that read back

A binary64 number is written with the fewest decimal digits that round to it, and of those with
the ones nearest to it.  A point of the grid of `n`-digit decimals that rounds to the number can
only be missed by the number's two neighbours on that grid if the grid has none, so looking at the
two neighbours for `n = 1, 2, …, 17` finds the answer.
-/

namespace Dispatch.Double

/-- A positive real interval in one unit: its ends, its middle and whether the ends belong to it. -/
structure Basin where
  low : Nat
  middle : Nat
  high : Nat
  unit : Nat
  closed : Bool

/-- The reals that round to the magnitude of a number.  Below a power of two the spacing halves. -/
def basin (d : Double) : Basin :=
  let m := 4 * d.mantissa
  let low := if d.mantissa = 4503599627370496 ∧ d.exponent ≠ -1074 then m - 1 else m - 2
  let e := d.exponent - 2
  let up := Nat.pow 2 e.toNat
  ⟨low * up, m * up, (m + 2) * up, Nat.pow 2 (-e).toNat, d.mantissa % 2 = 0⟩

/-- The basin holds `c * 10 ^ k`. -/
def Basin.holds (b : Basin) (c : Nat) (k : Int) : Bool :=
  let x := c * Nat.pow 10 k.toNat * b.unit
  let s := Nat.pow 10 (-k).toNat
  if b.closed then b.low * s ≤ x && x ≤ b.high * s else b.low * s < x && x < b.high * s

/-- Twice the distance of `c * 10 ^ k` from the middle, up to a factor that only `k` determines. -/
def Basin.distance (b : Basin) (c : Nat) (k : Int) : Nat :=
  let x := c * Nat.pow 10 k.toNat * b.unit
  let m := b.middle * Nat.pow 10 (-k).toNat
  (x - m) + (m - x)

/-- The exponent of the greatest power of ten that is at most the positive ratio `num / den`. -/
def decimalOrder (num den : Nat) : Int :=
  if den ≤ num then ((Nat.toDigits 10 (num / den)).length : Int) - 1
  else -((Nat.toDigits 10 ((den - 1) / num)).length : Int)

/-- The better of the two neighbours with `n` digits, if one of them is in the basin. -/
def neighbour? (b : Basin) (order : Int) (n : Nat) : Option (Nat × Int) :=
  let k := order - n + 1
  let c := b.middle * Nat.pow 10 (-k).toNat / (b.unit * Nat.pow 10 k.toNat)
  match b.holds c k && c != 0, b.holds (c + 1) k with
  | true, true =>
    let down := b.distance c k
    let up := b.distance (c + 1) k
    some (if down < up ∨ (down = up ∧ c % 2 = 0) then c else c + 1, k)
  | true, false => some (c, k)
  | false, true => some (c + 1, k)
  | false, false => none

/-- The digits of the number, without zeros at the end, and the power of ten they count. -/
def shortest (d : Double) : List Char × Int :=
  let b := d.basin
  let order := decimalOrder b.middle b.unit
  let found := (List.range 17).findSome? fun i => neighbour? b order (i + 1)
  let (c, k) := found.getD (0, 0)
  let digits := Nat.toDigits 10 c
  let kept := (digits.reverse.dropWhile (· = '0')).reverse
  (kept, k + ((digits.length - kept.length : Nat) : Int))

/-- Positional from `0.00001` up to below `10 ^ 16`, always with a digit after the point; beyond
that one digit before the point and the exponent after an `e`. -/
def text (d : Double) : String :=
  let sign := if d.negative then ['-'] else []
  if d.mantissa = 0 then String.ofList (sign ++ ['0', '.', '0'])
  else
    let (digits, k) := d.shortest
    let point : Int := digits.length + k
    let body :=
      if 0 ≤ k ∧ point ≤ 16 then digits ++ List.replicate k.toNat '0' ++ ['.', '0']
      else if 0 < point ∧ point ≤ 16 then
        digits.take point.toNat ++ ['.'] ++ digits.drop point.toNat
      else if -5 < point ∧ point ≤ 0 then
        ['0', '.'] ++ List.replicate (-point).toNat '0' ++ digits
      else
        let tail := digits.drop 1
        digits.take 1 ++ (if tail.isEmpty then [] else '.' :: tail) ++
          ['e'] ++ (toString (point - 1)).toList
    String.ofList (sign ++ body)

end Dispatch.Double
