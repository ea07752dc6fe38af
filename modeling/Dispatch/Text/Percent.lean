import Dispatch.Text.Utf8
import Dispatch.Uuid

/-!
# Percent-encoded text

A byte may be written as a percent sign and two hexadecimal digits.  A percent sign that no two
digits follow stands for itself.
-/

namespace Dispatch.Text

/-- The value of the hexadecimal digit that a byte is. -/
def hexByte? (b : UInt8) : Option Nat := Uuid.digit? (Char.ofNat b.toNat)

/-- The bytes that percent-encoded bytes stand for. -/
def percentDecode : List UInt8 → List UInt8
  | [] => []
  | b :: rest =>
    if b = 0x25 then
      match rest with
      | h :: l :: after =>
        match hexByte? h, hexByte? l with
        | some h, some l => UInt8.ofNat (h * 16 + l) :: percentDecode after
        | _, _ => b :: percentDecode (h :: l :: after)
      | [l] => [b, l]
      | [] => [b]
    else b :: percentDecode rest

end Dispatch.Text
