import Dispatch.Text.Quoted

/-!
# Universally unique identifiers

A 128-bit number with four spellings: 32 hexadecimal digits, the same in groups of 8, 4, 4, 4 and
12 between hyphens, the grouped form in braces, and the grouped form behind `urn:uuid:`.  Digits
are read in either case and the scheme in all lower or all upper case.  The written form is the
grouped one in lower case.
-/

namespace Dispatch

/-- A 128-bit identifier, a number below two to the 128th, ordered as a number. -/
structure Uuid where
  value : Nat
  bounded : value < 340282366920938463463374607431768211456
deriving DecidableEq, Repr

namespace Uuid

/-- The identifier of which all bits are zero. -/
def nil : Uuid := ⟨0, by decide⟩

instance : Inhabited Uuid := ⟨nil⟩

instance : LE Uuid := ⟨fun a b => a.value ≤ b.value⟩
instance : LT Uuid := ⟨fun a b => a.value < b.value⟩
instance (a b : Uuid) : Decidable (a ≤ b) := inferInstanceAs (Decidable (a.value ≤ b.value))
instance (a b : Uuid) : Decidable (a < b) := inferInstanceAs (Decidable (a.value < b.value))

/-- The low 128 bits of a number. -/
def ofNat (n : Nat) : Uuid :=
  ⟨n % 340282366920938463463374607431768211456, Nat.mod_lt _ (by decide)⟩

/-- The number of values of the lowest 62 bits. -/
def tailSize : Nat := 4611686018427387904

/-- A version 7 identifier: 48 bits of milliseconds, the version in 4 bits, 12 bits of the serial
number, the variant in 2 bits, and the other 62 bits of the serial number, which is what tells apart
the identifiers of one millisecond. -/
def timeOrdered (millis serial : Nat) : Uuid :=
  let clock := millis % 281474976710656
  let upper := (clock * 16 + 7) * 4096 + serial / tailSize % 4096
  ofNat ((upper * 4 + 2) * tailSize + serial % tailSize)

/-- The version field, above 12 bits, 2 bits and the lowest 62. -/
def version (u : Uuid) : Nat := u.value / tailSize / 4 / 4096 % 16

/-! ## Writing -/

/-- The digit of a number below sixteen. -/
def digitChar (n : Nat) : Char :=
  if n < 10 then Char.ofNat (48 + n) else Char.ofNat (87 + n)

/-- The lowest `count` hexadecimal digits of a number, highest first. -/
def lowDigits (n : Nat) : Nat → List Char
  | 0 => []
  | count + 1 => lowDigits (n / 16) count ++ [digitChar (n % 16)]

/-- The 32 digits. -/
def digits (u : Uuid) : List Char := lowDigits u.value 32

/-- Hyphens after the 8th, 12th, 16th and 20th digit. -/
def hyphenate (ds : List Char) : List Char :=
  ds.take 8 ++ '-' :: (ds.drop 8).take 4 ++ '-' :: (ds.drop 12).take 4 ++
    '-' :: (ds.drop 16).take 4 ++ '-' :: ds.drop 20

/-- The written form: grouped, in lower case. -/
def chars (u : Uuid) : List Char := hyphenate u.digits

/-- The written form: grouped, in lower case. -/
def text (u : Uuid) : String := String.ofList u.chars

/-! ## Reading -/

/-- The value of a hexadecimal digit of either case. -/
def digit? (c : Char) : Option Nat :=
  if '0' ≤ c ∧ c ≤ '9' then some (c.toNat - 48)
  else if 'a' ≤ c ∧ c ≤ 'f' then some (c.toNat - 87)
  else if 'A' ≤ c ∧ c ≤ 'F' then some (c.toNat - 55)
  else none

/-- Read digits in front of which `soFar` was read. -/
def readFrom? (soFar : Nat) : List Char → Option Nat
  | [] => some soFar
  | c :: rest => (digit? c).bind fun d => readFrom? (soFar * 16 + d) rest

/-- The identifier of a number of at most 128 bits. -/
def ofBounded? (n : Nat) : Option Uuid :=
  if h : n < 340282366920938463463374607431768211456 then some ⟨n, h⟩ else none

/-- Read exactly 32 digits. -/
def ofDigits? (ds : List Char) : Option Uuid :=
  if ds.length = 32 then (readFrom? 0 ds).bind ofBounded? else none

/-- Read the grouped form. -/
def ofGrouped? (cs : List Char) : Option Uuid :=
  let ds := cs.take 8 ++ (cs.drop 9).take 4 ++ (cs.drop 14).take 4 ++ (cs.drop 19).take 4 ++
    cs.drop 24
  if cs.length = 36 ∧ cs[8]? = some '-' ∧ cs[13]? = some '-' ∧ cs[18]? = some '-' ∧
      cs[23]? = some '-' then ofDigits? ds
  else none

/-- The part of a text behind a given beginning. -/
def afterStart? (start cs : List Char) : Option (List Char) :=
  if start.isPrefixOf cs then some (cs.drop start.length) else none

/-- Read any of the four spellings. -/
def ofChars? (cs : List Char) : Option Uuid :=
  if cs.length = 32 then ofDigits? cs
  else if cs.length = 36 then ofGrouped? cs
  else if cs.length = 38 ∧ cs.head? = some '\x7b' ∧ cs.getLast? = some '\x7d' then
    ofGrouped? ((cs.drop 1).take 36)
  else if cs.length = 45 then
    ((afterStart? "urn:uuid:".toList cs).or (afterStart? "URN:UUID:".toList cs)).bind ofGrouped?
  else none

/-- Read any of the four spellings. -/
def ofText? (s : String) : Option Uuid := ofChars? s.toList

end Uuid

end Dispatch
