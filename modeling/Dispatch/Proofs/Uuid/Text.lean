import Dispatch.Id
import Dispatch.Proofs.Text.Trim
import Mathlib.Algebra.Group.Nat.Defs
import Mathlib.Data.List.Basic

/-!
# Identifiers read back

The written form of an identifier is its 32 hexadecimal digits in groups.  Each digit reads as its
value, the digits read as the number, and the groups read as the digits, so the written form reads
as the identifier (`Uuid.ofText?_text`).  It holds no blanks, and trimming leaves it alone, so the
identity of a job reads back too, and no two identities are written alike (`JobId.text_inj`).
-/

namespace Dispatch

namespace Uuid

/-! ## Digits -/

theorem digit?_digitChar {n : Nat} (h : n < 16) : digit? (digitChar n) = some n := by
  have hall : ∀ n : Fin 16, digit? (digitChar n) = some n.val := by decide
  exact hall ⟨n, h⟩

/-- A digit is no blank. -/
theorem isBlank_digitChar {n : Nat} (h : n < 16) : Text.isBlank (digitChar n) = false := by
  have hall : ∀ n : Fin 16, Text.isBlank (digitChar n) = false := by decide
  exact hall ⟨n, h⟩

@[simp]
theorem length_lowDigits (n count : Nat) : (lowDigits n count).length = count := by
  induction count generalizing n with
  | zero => rfl
  | succ count ih => simp [lowDigits, ih]

/-- Digits are read one after the other. -/
theorem readFrom?_append (soFar : Nat) (cs ds : List Char) :
    readFrom? soFar (cs ++ ds) = (readFrom? soFar cs).bind fun n => readFrom? n ds := by
  induction cs generalizing soFar with
  | nil => rfl
  | cons c cs ih =>
    rw [List.cons_append, readFrom?, readFrom?]
    cases digit? c with
    | none => rfl
    | some d => exact ih _

/-- The lowest digits read as what is left of the number. -/
theorem readFrom?_lowDigits (soFar n count : Nat) :
    readFrom? soFar (lowDigits n count) = some (soFar * 16 ^ count + n % 16 ^ count) := by
  induction count generalizing n with
  | zero => simp [lowDigits, readFrom?, Nat.mod_one]
  | succ count ih =>
    rw [lowDigits, readFrom?_append, ih, Option.bind_some, readFrom?,
      digit?_digitChar (Nat.mod_lt n (by decide)), Option.bind_some, readFrom?]
    rw [Nat.pow_succ', Nat.mod_mul, Nat.add_mul, Nat.mul_assoc, Nat.mul_comm (16 ^ count) 16,
      Nat.add_assoc, Nat.add_comm (n % 16), Nat.mul_comm 16 (n / 16 % 16 ^ count)]

theorem length_digits (u : Uuid) : u.digits.length = 32 := length_lowDigits _ _

theorem ofDigits?_digits (u : Uuid) : ofDigits? u.digits = some u := by
  have hpow : (16 : Nat) ^ 32 = 340282366920938463463374607431768211456 := rfl
  rw [ofDigits?, if_pos u.length_digits, digits, readFrom?_lowDigits, hpow, Nat.zero_mul,
    Nat.zero_add, Nat.mod_eq_of_lt u.bounded, Option.bind_some, ofBounded?, dif_pos u.bounded]

/-! ## Groups -/

/-- Groups of 8, 4, 4, 4 and 12 characters between hyphens read as the characters. -/
theorem ofGrouped?_groups {a b c d e : List Char} (ha : a.length = 8) (hb : b.length = 4)
    (hc : c.length = 4) (hd : d.length = 4) (he : e.length = 12) :
    ofGrouped? (a ++ '-' :: (b ++ '-' :: (c ++ '-' :: (d ++ '-' :: e)))) =
      ofDigits? (a ++ b ++ c ++ d ++ e) := by
  simp [ofGrouped?, List.drop_append, List.drop_of_length_le, ha, hb, hc, hd, he]

theorem length_hyphenate {ds : List Char} (h : ds.length = 32) : (hyphenate ds).length = 36 := by
  simp [hyphenate, h]

theorem ofGrouped?_hyphenate {ds : List Char} (h : ds.length = 32) :
    ofGrouped? (hyphenate ds) = ofDigits? ds := by
  have hgroups := ofGrouped?_groups (a := ds.take 8) (b := (ds.drop 8).take 4)
    (c := (ds.drop 12).take 4) (d := (ds.drop 16).take 4) (e := ds.drop 20)
    (by simp [h]) (by simp [h]) (by simp [h]) (by simp [h]) (by simp [h])
  -- the groups are the characters, one group after the other
  have hjoined : ds.take 8 ++ (ds.drop 8).take 4 ++ (ds.drop 12).take 4 ++ (ds.drop 16).take 4 ++
      ds.drop 20 = ds := by
    rw [← List.take_add, ← List.take_add, ← List.take_add, List.take_append_drop]
  rw [hjoined] at hgroups
  rw [← hgroups]
  simp [hyphenate]

/-! ## The written form -/

theorem ofText?_text (u : Uuid) : ofText? u.text = some u := by
  have hlength : u.chars.length = 36 := length_hyphenate u.length_digits
  rw [ofText?, text, String.toList_ofList, ofChars?, if_neg (by omega), if_pos hlength, chars,
    ofGrouped?_hyphenate u.length_digits, ofDigits?_digits]

theorem exists_of_mem_lowDigits {n count : Nat} {c : Char} (hc : c ∈ lowDigits n count) :
    ∃ d < 16, c = digitChar d := by
  induction count generalizing n with
  | zero => cases hc
  | succ count ih =>
    rw [lowDigits, List.mem_append, List.mem_singleton] at hc
    rcases hc with hc | rfl
    · exact ih hc
    · exact ⟨n % 16, Nat.mod_lt n (by decide), rfl⟩

theorem mem_hyphenate {ds : List Char} {c : Char} (hc : c ∈ hyphenate ds) : c ∈ ds ∨ c = '-' := by
  simp only [hyphenate, List.mem_append, List.mem_cons] at hc
  rcases hc with (((hc | rfl | hc) | rfl | hc) | rfl | hc) | rfl | hc
  · exact .inl (List.mem_of_mem_take hc)
  · exact .inr rfl
  · exact .inl (List.mem_of_mem_drop (List.mem_of_mem_take hc))
  · exact .inr rfl
  · exact .inl (List.mem_of_mem_drop (List.mem_of_mem_take hc))
  · exact .inr rfl
  · exact .inl (List.mem_of_mem_drop (List.mem_of_mem_take hc))
  · exact .inr rfl
  · exact .inl (List.mem_of_mem_drop hc)

/-- The written form holds no blanks. -/
theorem not_isBlank_chars {u : Uuid} {c : Char} (hc : c ∈ u.chars) : Text.isBlank c = false := by
  rcases mem_hyphenate hc with hc | rfl
  · obtain ⟨d, hd, rfl⟩ := exists_of_mem_lowDigits hc
    exact isBlank_digitChar hd
  · decide

end Uuid

namespace JobId

theorem ofText?_text (id : JobId) : ofText? id.text = some id := by
  have htrim : Text.trim id.text = id.text := by
    rw [Text.trim, text, Uuid.text, String.toList_ofList,
      Text.trimChars_of_bare (Text.bare_of_not_isBlank fun _ => Uuid.not_isBlank_chars)]
  rw [ofText?, htrim, text, Uuid.ofText?_text]
  rfl

/-- No two identities are written alike. -/
theorem text_inj {a b : JobId} : a.text = b.text ↔ a = b := by
  refine ⟨fun h => ?_, congrArg text⟩
  have hread := congrArg ofText? h
  rw [ofText?_text, ofText?_text] at hread
  exact Option.some.inj hread

/-- No two jobs have their leases under one key. -/
theorem leaseKey_inj {a b : JobId} : a.leaseKey = b.leaseKey ↔ a = b := by
  refine ⟨fun h => ?_, congrArg leaseKey⟩
  exact text_inj.1 (String.append_right_inj _ |>.1 h)

end JobId

end Dispatch
