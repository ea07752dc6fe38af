import Dispatch.Proofs.Uuid.Text
import Dispatch.Text.Percent
import Dispatch.Text.Utf8
import Mathlib.Tactic.IntervalCases

/-!
# Texts as bytes and read back

The bytes of a character are one piece, whatever follows them: the first byte announces how many
there are and bounds the second, and the code points that no character has are exactly those
outside these bounds (`Text.pieces_append`).  So the bytes of a text read as the text
(`Text.ofBytes?_bytes`).  With every byte written as a percent sign and two digits, they still do
(`Text.ofBytes?_percentEncode`).
-/

namespace Dispatch.Text

variable {n count low high bits : Nat}

/-! ## First bytes -/

theorem lead?_two (hlow : 2 ≤ n) (hhigh : n < 32) :
    lead? (n + 192) = some ⟨1, 0x80, 0xBF, n⟩ := by
  interval_cases n <;> rfl

/-- Overlong forms and surrogates are excluded by the second byte. -/
theorem lead?_three (hn : n < 16) :
    lead? (n + 224) =
      some ⟨2, if n = 0 then 0xA0 else 0x80, if n = 13 then 0x9F else 0xBF, n⟩ := by
  interval_cases n <;> rfl

/-- Overlong forms and what is beyond the last code point are excluded by the second byte. -/
theorem lead?_four (hn : n < 5) :
    lead? (n + 240) =
      some ⟨3, if n = 0 then 0x90 else 0x80, if n = 4 then 0x8F else 0xBF, n⟩ := by
  interval_cases n <;> rfl

/-! ## Pieces -/

theorem follow_cons (hn : n < 64) (hlow : low ≤ n + 128) (hhigh : n + 128 ≤ high)
    (rest : List UInt8) :
    follow low high bits (count + 1) (UInt8.ofNat (n + 128) :: rest) =
      follow 0x80 0xBF (bits * 64 + n) count rest := by
  have htoNat : (UInt8.ofNat (n + 128)).toNat = n + 128 := by
    rw [UInt8.toNat_ofNat', Nat.mod_eq_of_lt (by omega)]
  rw [follow, htoNat, if_pos ⟨hlow, hhigh⟩, Nat.add_sub_cancel]

theorem follow_zero (rest : List UInt8) : follow low high bits 0 rest = (some bits, rest) := by
  cases rest <;> rfl

theorem pieces_cons (hn : n < 256) (hlead : lead? n = some ⟨count, low, high, bits⟩)
    (rest : List UInt8) :
    pieces (UInt8.ofNat n :: rest) =
      (follow low high bits count rest).1.map Char.ofNat ::
        pieces (follow low high bits count rest).2 := by
  rw [pieces, UInt8.toNat_ofNat', Nat.mod_eq_of_lt hn, hlead]

theorem utf8EncodeChar_eq (c : Char) :
    String.utf8EncodeChar c =
      if c.toNat ≤ 0x7F then [UInt8.ofNat c.toNat]
      else if c.toNat ≤ 0x7FF then
        [UInt8.ofNat (c.toNat / 64 % 32 + 192), UInt8.ofNat (c.toNat % 64 + 128)]
      else if c.toNat ≤ 0xFFFF then
        [UInt8.ofNat (c.toNat / 4096 % 16 + 224), UInt8.ofNat (c.toNat / 64 % 64 + 128),
          UInt8.ofNat (c.toNat % 64 + 128)]
      else
        [UInt8.ofNat (c.toNat / 262144 % 8 + 240), UInt8.ofNat (c.toNat / 4096 % 64 + 128),
          UInt8.ofNat (c.toNat / 64 % 64 + 128), UInt8.ofNat (c.toNat % 64 + 128)] :=
  rfl

/-- The bytes of a character are one piece. -/
theorem pieces_append (c : Char) (rest : List UInt8) :
    pieces (String.utf8EncodeChar c ++ rest) = some c :: pieces rest := by
  have hvalid : c.toNat < 0xD800 ∨ 0xDFFF < c.toNat ∧ c.toNat < 0x110000 := c.valid
  have hpiece : ∀ n, n = c.toNat →
      (some n).map Char.ofNat :: pieces rest = some c :: pieces rest := by
    rintro _ rfl
    rw [Option.map_some, Char.ofNat_toNat]
  rw [utf8EncodeChar_eq]
  split_ifs with hone htwo hthree
  all_goals simp only [List.cons_append, List.nil_append]
  · have hlead : lead? c.toNat = some ⟨0, 0, 0, c.toNat⟩ := if_pos (by omega)
    rw [pieces_cons (by omega) hlead, follow_zero]
    exact hpiece _ rfl
  · have hlead := lead?_two (n := c.toNat / 64 % 32) (by omega) (by omega)
    rw [pieces_cons (by omega) hlead, follow_cons (by omega) (by omega) (by omega), follow_zero]
    exact hpiece _ (by omega)
  · have hlead := lead?_three (n := c.toNat / 4096 % 16) (by omega)
    rw [pieces_cons (by omega) hlead, follow_cons (by omega) (by split <;> omega)
      (by split <;> omega), follow_cons (by omega) (by omega) (by omega), follow_zero]
    exact hpiece _ (by omega)
  · have hlead := lead?_four (n := c.toNat / 262144 % 8) (by omega)
    rw [pieces_cons (by omega) hlead, follow_cons (by omega) (by split <;> omega)
      (by split <;> omega), follow_cons (by omega) (by omega) (by omega),
      follow_cons (by omega) (by omega) (by omega), follow_zero]
    exact hpiece _ (by omega)

/-! ## Bytes of a text -/

theorem toList_loop_eq (bs : ByteArray) (i : Nat) (done : List UInt8) :
    ByteArray.toList.loop bs i done = done.reverse ++ bs.data.toList.drop i := by
  fun_induction ByteArray.toList.loop bs i done with
  | case1 i done hi ih =>
    have hlt : i < bs.data.toList.length := hi
    have hget : bs.get! i = bs.data.toList[i] := getElem!_pos bs.data i hi
    rw [ih, List.drop_eq_getElem_cons hlt, hget,
      List.reverse_cons, List.append_assoc, List.singleton_append]
  | case2 i done hi =>
    have hge : bs.data.toList.length ≤ i := Nat.le_of_not_lt hi
    rw [List.drop_of_length_le hge, List.append_nil]

/-- The bytes of a text are those of its characters, one after the other. -/
theorem bytes_eq (s : String) : bytes s = s.toList.flatMap String.utf8EncodeChar := by
  rw [bytes, String.toUTF8_eq_toByteArray, ← String.utf8Encode_toList, List.utf8Encode,
    ByteArray.toList, toList_loop_eq, List.toList_data_toByteArray]
  rfl

theorem pieces_bytes (s : String) : pieces (bytes s) = s.toList.map some := by
  rw [bytes_eq]
  induction s.toList with
  | nil => rw [List.flatMap_nil, pieces]; rfl
  | cons c cs ih => rw [List.flatMap_cons, pieces_append, ih, List.map_cons]

theorem ofBytes?_bytes (s : String) : ofBytes? (bytes s) = some s := by
  have hall : ∀ cs : List Char, (cs.map some).mapM id = some cs := by
    intro cs
    induction cs with
    | nil => rfl
    | cons c cs ih => rw [List.map_cons, List.mapM_cons, ih]; rfl
  rw [ofBytes?, pieces_bytes, hall, Option.map_some, String.ofList_toList]

/-! ## Percent signs -/

/-- A byte as a percent sign and two digits. -/
def percentByte (b : UInt8) : List Char :=
  ['%', Uuid.digitChar (b.toNat / 16), Uuid.digitChar (b.toNat % 16)]

/-- A text with every byte as a percent sign and two digits. -/
def percentEncode (s : String) : List Char := (bytes s).flatMap percentByte

theorem percentEncode_empty : percentEncode "" = [] := by
  rw [percentEncode, bytes_eq]
  rfl

theorem mem_percentEncode {s : String} {c : Char} (hc : c ∈ percentEncode s) :
    c = '%' ∨ ∃ n < 16, c = Uuid.digitChar n := by
  obtain ⟨b, -, hc⟩ := List.mem_flatMap.mp hc
  have hb : b.toNat < 256 := b.toNat_lt
  simp only [percentByte, List.mem_cons, List.not_mem_nil, or_false] at hc
  rcases hc with rfl | rfl | rfl
  · exact .inl rfl
  · exact .inr ⟨_, by omega, rfl⟩
  · exact .inr ⟨_, by omega, rfl⟩

/-- The byte of a digit reads as the digit. -/
theorem hexByte?_digitChar (hn : n < 16) :
    ∃ b, String.utf8EncodeChar (Uuid.digitChar n) = [b] ∧ hexByte? b = some n := by
  have hall : ∀ n : Fin 16, String.utf8EncodeChar (Uuid.digitChar n) =
      [UInt8.ofNat (Uuid.digitChar n).toNat] ∧
      hexByte? (UInt8.ofNat (Uuid.digitChar n).toNat) = some n.val := by decide
  exact ⟨_, hall ⟨n, hn⟩⟩

theorem percentDecode_percentByte (b : UInt8) (rest : List UInt8) :
    percentDecode ((percentByte b).flatMap String.utf8EncodeChar ++ rest) =
      b :: percentDecode rest := by
  have hb : b.toNat < 256 := b.toNat_lt
  obtain ⟨high, hhigh, hreadHigh⟩ := hexByte?_digitChar (n := b.toNat / 16) (by omega)
  obtain ⟨low, hlow, hreadLow⟩ := hexByte?_digitChar (n := b.toNat % 16) (by omega)
  have hsign : String.utf8EncodeChar '%' = [0x25] := rfl
  rw [percentByte, List.flatMap_cons, List.flatMap_cons, List.flatMap_singleton, hsign, hhigh,
    hlow]
  show percentDecode (0x25 :: high :: low :: rest) = _
  rw [percentDecode, if_pos rfl, hreadHigh, hreadLow]
  show UInt8.ofNat (b.toNat / 16 * 16 + b.toNat % 16) :: _ = _
  rw [Nat.div_add_mod', UInt8.ofNat_toNat]

theorem percentDecode_flatMap (bs : List UInt8) :
    percentDecode ((bs.flatMap percentByte).flatMap String.utf8EncodeChar) = bs := by
  induction bs with
  | nil => rfl
  | cons b bs ih => rw [List.flatMap_cons, List.flatMap_append, percentDecode_percentByte, ih]

theorem ofBytes?_percentEncode (s : String) :
    ofBytes? (percentDecode (bytes (String.ofList (percentEncode s)))) = some s := by
  rw [bytes_eq (String.ofList _), String.toList_ofList, percentEncode, percentDecode_flatMap,
    ofBytes?_bytes]

end Dispatch.Text
