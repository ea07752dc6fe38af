/-!
# Unsigned numerals

Settings and limits are decimal numerals below a bound.  A numeral is read digit by digit, so the
first thing that goes wrong names the error: a numeral that outgrows the bound before a stray
character is too large, and one that meets the stray character first is not a numeral.
-/

namespace Dispatch

/-- Why a text is not a numeral below the bound. -/
inductive NumeralError where
  | empty
  | invalidDigit
  | tooLarge
deriving DecidableEq, Repr

/-- The wording of a numeral error. -/
def NumeralError.message : NumeralError → String
  | .empty => "cannot parse integer from empty string"
  | .invalidDigit => "invalid digit found in string"
  | .tooLarge => "number too large to fit in target type"

namespace Numeral

/-- The greatest number of a 64-bit word. -/
def maxWord : Nat := 18446744073709551615

/-- The greatest number of a signed 64-bit word. -/
def maxSigned : Nat := 9223372036854775807

/-- The value of an ASCII digit. -/
def digit? (c : Char) : Option Nat :=
  if '0' ≤ c ∧ c ≤ '9' then some (c.toNat - '0'.toNat) else none

/-- Read on with the digits read so far. -/
def readFrom (bound : Nat) (soFar : Nat) : List Char → Except NumeralError Nat
  | [] => .ok soFar
  | c :: rest =>
    match digit? c with
    | none => .error .invalidDigit
    | some d =>
      let value := soFar * 10 + d
      if bound < value then .error .tooLarge else readFrom bound value rest

/-- Read a numeral of at least one digit, at most `bound`. -/
def readDigits (bound : Nat) : List Char → Except NumeralError Nat
  | [] => .error .empty
  | cs => readFrom bound 0 cs

/-- Read a numeral that may carry a plus sign. -/
def read (bound : Nat) : List Char → Except NumeralError Nat
  | ['+'] => .error .invalidDigit
  | '+' :: digits => readDigits bound digits
  | cs => readDigits bound cs

end Numeral

end Dispatch
