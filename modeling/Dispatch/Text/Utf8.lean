/-!
# UTF-8, read strictly and leniently

A sequence of bytes is cut into pieces: well-formed characters, and the longest beginnings of
characters that break off.  A strict reader wants no broken piece; a lenient one writes a
replacement character for each.  The pieces cover the bytes in order, which `follow_length` is the
reason for.
-/

namespace Dispatch.Text

/-- What the first byte of a character of several bytes announces. -/
structure Lead where
  /-- How many bytes follow. -/
  count : Nat
  /-- The bounds of the first byte that follows; the others lie between `0x80` and `0xBF`. -/
  low : Nat
  high : Nat
  /-- The bits that the first byte contributes. -/
  bits : Nat

/-- Read a first byte.  The bounds exclude overlong forms, surrogates and what is beyond the last
code point. -/
def lead? (b : Nat) : Option Lead :=
  if b < 0x80 then some ⟨0, 0, 0, b⟩
  else if b < 0xC2 then none
  else if b < 0xE0 then some ⟨1, 0x80, 0xBF, b - 0xC0⟩
  else if b = 0xE0 then some ⟨2, 0xA0, 0xBF, 0⟩
  else if b = 0xED then some ⟨2, 0x80, 0x9F, 0xD⟩
  else if b < 0xF0 then some ⟨2, 0x80, 0xBF, b - 0xE0⟩
  else if b = 0xF0 then some ⟨3, 0x90, 0xBF, 0⟩
  else if b < 0xF4 then some ⟨3, 0x80, 0xBF, b - 0xF0⟩
  else if b = 0xF4 then some ⟨3, 0x80, 0x8F, 4⟩
  else none

/-- Take the bytes that follow a first byte, as long as they are in bounds: the code point, unless
one is missing, and what is left. -/
def follow (low high bits : Nat) : Nat → List UInt8 → Option Nat × List UInt8
  | 0, rest => (some bits, rest)
  | _ + 1, [] => (none, [])
  | count + 1, b :: rest =>
    if low ≤ b.toNat ∧ b.toNat ≤ high then
      follow 0x80 0xBF (bits * 64 + (b.toNat - 0x80)) count rest
    else (none, b :: rest)

theorem follow_length (low high bits count : Nat) (bytes : List UInt8) :
    (follow low high bits count bytes).2.length ≤ bytes.length := by
  induction bytes generalizing low high bits count with
  | nil => cases count <;> simp [follow]
  | cons b rest ih =>
    cases count with
    | zero => simp [follow]
    | succ n =>
      rw [follow]
      split
      · exact Nat.le_succ_of_le (ih ..)
      · simp

/-- The pieces of a sequence of bytes; a broken one has no character. -/
def pieces : List UInt8 → List (Option Char)
  | [] => []
  | b :: rest =>
    match lead? b.toNat with
    | none => none :: pieces rest
    | some l =>
      let r := follow l.low l.high l.bits l.count rest
      r.1.map Char.ofNat :: pieces r.2
termination_by bytes => bytes.length
decreasing_by
  · simp
  · exact Nat.lt_succ_of_le (follow_length ..)

/-- The bytes of a text. -/
def bytes (s : String) : List UInt8 := s.toUTF8.toList

/-- The text, unless a piece is broken. -/
def ofBytes? (bs : List UInt8) : Option String :=
  ((pieces bs).mapM id).map String.ofList

/-- The text, with a replacement character for every broken piece. -/
def ofBytesLenient (bs : List UInt8) : String :=
  String.ofList ((pieces bs).map (·.getD '\uFFFD'))

end Dispatch.Text
