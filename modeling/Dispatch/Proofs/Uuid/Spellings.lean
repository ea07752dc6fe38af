import Dispatch.Proofs.Text.Case
import Dispatch.Proofs.Text.Trim
import Dispatch.Proofs.Uuid.Text
import Dispatch.Uuid.Spelling
import Mathlib.Data.List.SplitLengths

/-!
# The spellings of an identifier

An identifier is spelled by the 32 digits of its number in base sixteen, each of them in either
case: alone, in groups between hyphens, in groups within braces, or in groups behind a scheme
(`Uuid.IsSpelling`).  The reader accepts these texts for the identifier and no others
(`Uuid.ofChars?_eq_some_iff`): from the right, a digit that it accepts is the last digit of the
number, and a text with hyphens in the right places is the groups of the characters around them.
Whatever way an identifier is written in, it is spelled (`Uuid.isSpelling_spell`); the written form
is the grouped spelling in lower case (`Uuid.text_eq_ofList`).
-/

namespace Dispatch

namespace Uuid

variable {u : Uuid} {ds cs : List Char} {c : Char} {n d : Nat}

/-! ## The 32 digits -/

/-- The number in base sixteen, with zeros in front up to 32 digits. -/
def hex (u : Uuid) : List Char := (Nat.toDigits 16 u.value).leftpad 32 '0'

theorem digitChar_eq (h : n < 16) : digitChar n = n.digitChar := by
  have hall : ∀ n : Fin 16, digitChar n = Nat.digitChar n := by decide
  exact hall ⟨n, h⟩

theorem leftpad_concat (count : Nat) (ds : List Char) (a c : Char) :
    (ds ++ [c]).leftpad (count + 1) a = ds.leftpad count a ++ [c] := by
  unfold List.leftpad
  rw [List.length_append, List.length_singleton, Nat.add_sub_add_right, List.append_assoc]

/-- The lowest digits of a number that has no more are the number in base sixteen. -/
theorem lowDigits_eq_leftpad {count : Nat} (h : n < 16 ^ (count + 1)) :
    lowDigits n (count + 1) = (Nat.toDigits 16 n).leftpad (count + 1) '0' := by
  induction count generalizing n with
  | zero =>
    have hn : n < 16 := h
    rw [lowDigits, lowDigits, Nat.mod_eq_of_lt hn, digitChar_eq hn, Nat.toDigits_of_lt_base hn]
    rfl
  | succ count ih =>
    have hrest : n / 16 < 16 ^ (count + 1) :=
      Nat.div_lt_of_lt_mul (by rwa [← Nat.pow_succ'])
    rw [lowDigits, ih hrest, digitChar_eq (Nat.mod_lt n (by decide)),
      Nat.toDigits_eq_if (by decide) (n := n), ← leftpad_concat]
    split
    case isTrue hn =>
      -- of a number of one digit the rest is zero, which is one of the zeros in front
      rw [Nat.div_eq_of_lt hn, Nat.mod_eq_of_lt hn, Nat.toDigits_zero, leftpad_concat]
      show List.replicate count '0' ++ ['0'] ++ [n.digitChar] = _
      rw [← List.replicate_succ']
      rfl
    case isFalse => rfl

theorem digits_eq_hex (u : Uuid) : u.digits = u.hex := lowDigits_eq_leftpad u.bounded

theorem length_hex (u : Uuid) : u.hex.length = 32 := by
  rw [← digits_eq_hex, length_digits]

theorem length_of_spells (h : Text.Spells u.hex ds) : ds.length = 32 := by
  rw [← h.length_eq, length_hex]

/-! ## Digits read -/

theorem toNat_digitChar (h : n < 16) :
    (digitChar n).toNat = if n < 10 then 48 + n else 87 + n := by
  have hall : ∀ n : Fin 16, (digitChar n).toNat =
      if n.val < 10 then 48 + n.val else 87 + n.val := by decide
  exact hall ⟨n, h⟩

theorem digit?_eq_some_iff :
    digit? c = some d ↔ d < 16 ∧ (c = digitChar d ∨ c = (digitChar d).toUpper) := by
  have hzero : ('0' ≤ c ∧ c ≤ '9') ↔ 48 ≤ c.toNat ∧ c.toNat ≤ 57 := Iff.rfl
  have hlower : ('a' ≤ c ∧ c ≤ 'f') ↔ 97 ≤ c.toNat ∧ c.toNat ≤ 102 := Iff.rfl
  have hupper : ('A' ≤ c ∧ c ≤ 'F') ↔ 65 ≤ c.toNat ∧ c.toNat ≤ 70 := Iff.rfl
  simp only [digit?, hzero, hlower, hupper, ← Char.toNat_inj, Text.toNat_toUpper]
  by_cases hd : d < 16
  case pos =>
    rw [toNat_digitChar hd]
    split_ifs <;> simp only [Option.some.injEq, false_iff] <;> omega
  case neg =>
    refine iff_of_false (fun h => ?_) fun h => hd h.1
    split_ifs at h <;> simp only [Option.some.injEq] at h <;> omega

/-- What is read of a text of digits is the number that has them as its lowest and no others. -/
theorem readFrom?_eq_some_iff :
    readFrom? 0 ds = some n ↔
      n < 16 ^ ds.length ∧ Text.Spells (lowDigits n ds.length) ds := by
  induction ds using List.reverseRecOn generalizing n with
  | nil =>
    rw [readFrom?, List.length_nil, lowDigits, Option.some.injEq, Nat.pow_zero, Nat.lt_one_iff]
    exact ⟨fun h => ⟨h.symm, .nil⟩, fun h => h.1.symm⟩
  | append_singleton ds c ih =>
    rw [readFrom?_append, List.length_append, List.length_singleton, lowDigits,
      Text.spells_concat, Nat.pow_succ]
    simp only [Option.bind_eq_some_iff, readFrom?, ih, digit?_eq_some_iff, Option.some.injEq]
    constructor
    · rintro ⟨m, ⟨hm, hrest⟩, d, ⟨hd, hc⟩, rfl⟩
      have hdiv : (m * 16 + d) / 16 = m := by omega
      have hmod : (m * 16 + d) % 16 = d := by omega
      rw [hdiv, hmod]
      exact ⟨by omega, hrest, hc⟩
    · rintro ⟨hn, hrest, hc⟩
      refine ⟨n / 16, ⟨by omega, hrest⟩, n % 16, ⟨Nat.mod_lt n (by decide), hc⟩, ?_⟩
      omega

theorem ofBounded?_eq_some_iff : ofBounded? n = some u ↔ n = u.value := by
  unfold ofBounded?
  split
  case isTrue h => rw [Option.some.injEq, mk.injEq]
  case isFalse h => exact ⟨nofun, fun heq => absurd (heq ▸ u.bounded) h⟩

/-- Digits are accepted for an identifier if they are its own in either case. -/
theorem ofDigits?_eq_some_iff : ofDigits? ds = some u ↔ Text.Spells u.hex ds := by
  unfold ofDigits?
  split
  case isTrue h =>
    simp only [Option.bind_eq_some_iff, readFrom?_eq_some_iff, ofBounded?_eq_some_iff, h]
    rw [← digits_eq_hex, digits]
    constructor
    · rintro ⟨_, ⟨-, hspells⟩, rfl⟩
      exact hspells
    · exact fun hspells => ⟨u.value, ⟨u.bounded, hspells⟩, rfl⟩
  case isFalse h =>
    refine iff_of_false ?_ fun hspells => h (length_of_spells hspells)
    rw [eq_comm]
    exact Option.some_ne_none u

/-! ## Groups read -/

/-- Characters in groups of 8, 4, 4, 4 and 12 between hyphens. -/
def inGroups (ds : List Char) : List Char := ['-'].intercalate ([8, 4, 4, 4, 12].splitLengths ds)

theorem inGroups_eq_hyphenate (h : ds.length = 32) : inGroups ds = hyphenate ds := by
  have hlast : (ds.drop 20).take 12 = ds.drop 20 := List.take_of_length_le (by simp [h])
  simp [inGroups, hyphenate, List.intercalate, List.intersperse, hlast]

theorem length_inGroups (h : Text.Spells u.hex ds) : (inGroups ds).length = 36 := by
  have hds := length_of_spells h
  rw [inGroups_eq_hyphenate hds, length_hyphenate hds]

theorem chars_eq_inGroups (u : Uuid) : u.chars = inGroups u.hex := by
  rw [chars, digits_eq_hex, inGroups_eq_hyphenate u.length_hex]

theorem hyphenate_groups {a b c d e : List Char} (ha : a.length = 8) (hb : b.length = 4)
    (hc : c.length = 4) (hd : d.length = 4) :
    hyphenate (a ++ b ++ c ++ d ++ e) =
      a ++ '-' :: (b ++ '-' :: (c ++ '-' :: (d ++ '-' :: e))) := by
  simp [hyphenate, List.drop_append, List.drop_of_length_le, ha, hb, hc, hd]

/-- What stands before a place, at it and behind it. -/
theorem exists_cut {place : Nat} (h : cs[place]? = some c) :
    ∃ front back, front.length = place ∧ cs = front ++ c :: back := by
  obtain ⟨hplace, rfl⟩ := List.getElem?_eq_some_iff.mp h
  refine ⟨cs.take place, cs.drop (place + 1), List.length_take_of_le hplace.le, ?_⟩
  rw [← List.drop_eq_getElem_cons hplace, List.take_append_drop]

/-- A text of 36 characters with hyphens in the right places is the groups around them. -/
theorem exists_groups (hlength : cs.length = 36) (h₁ : cs[8]? = some '-')
    (h₂ : cs[13]? = some '-') (h₃ : cs[18]? = some '-') (h₄ : cs[23]? = some '-') :
    ∃ a b c d e : List Char, a.length = 8 ∧ b.length = 4 ∧ c.length = 4 ∧ d.length = 4 ∧
      e.length = 12 ∧ cs = a ++ '-' :: (b ++ '-' :: (c ++ '-' :: (d ++ '-' :: e))) := by
  obtain ⟨a, cs, ha, rfl⟩ := exists_cut h₁
  replace h₂ : cs[4]? = some '-' := by simpa [List.getElem?_append_right, ha] using h₂
  replace h₃ : cs[9]? = some '-' := by simpa [List.getElem?_append_right, ha] using h₃
  replace h₄ : cs[14]? = some '-' := by simpa [List.getElem?_append_right, ha] using h₄
  obtain ⟨b, cs, hb, rfl⟩ := exists_cut h₂
  replace h₃ : cs[4]? = some '-' := by simpa [List.getElem?_append_right, hb] using h₃
  replace h₄ : cs[9]? = some '-' := by simpa [List.getElem?_append_right, hb] using h₄
  obtain ⟨c, cs, hc, rfl⟩ := exists_cut h₃
  replace h₄ : cs[4]? = some '-' := by simpa [List.getElem?_append_right, hc] using h₄
  obtain ⟨d, e, hd, rfl⟩ := exists_cut h₄
  simp only [List.length_append, List.length_cons] at hlength
  exact ⟨a, b, c, d, e, ha, hb, hc, hd, by omega, rfl⟩

theorem ofGrouped?_eq_some_iff :
    ofGrouped? cs = some u ↔ ∃ ds, Text.Spells u.hex ds ∧ cs = inGroups ds := by
  constructor
  · intro h
    obtain ⟨⟨hlength, h₁, h₂, h₃, h₄⟩, -⟩ : _ ∧ _ = some u := Option.ite_none_right_eq_some.mp h
    obtain ⟨a, b, c, d, e, ha, hb, hc, hd, he, rfl⟩ := exists_groups hlength h₁ h₂ h₃ h₄
    rw [ofGrouped?_groups ha hb hc hd he, ofDigits?_eq_some_iff] at h
    refine ⟨_, h, ?_⟩
    rw [inGroups_eq_hyphenate (length_of_spells h), hyphenate_groups ha hb hc hd]
  · rintro ⟨ds, h, rfl⟩
    have hds := length_of_spells h
    rw [inGroups_eq_hyphenate hds, ofGrouped?_hyphenate hds, ofDigits?_eq_some_iff]
    exact h

/-! ## All spellings read -/

/-- The schemes that may stand in front. -/
def schemes : List String := ["urn:uuid:", "URN:UUID:"]

/-- The spellings of an identifier: its 32 digits, each in either case, alone, in groups, in groups
within braces, or in groups behind one of the schemes. -/
inductive IsSpelling (schemes : List String) (u : Uuid) : List Char → Prop
  | plain {ds : List Char} (digits : Text.Spells u.hex ds) : IsSpelling schemes u ds
  | grouped {ds : List Char} (digits : Text.Spells u.hex ds) :
      IsSpelling schemes u (inGroups ds)
  | braced {ds : List Char} (digits : Text.Spells u.hex ds) :
      IsSpelling schemes u ('\x7b' :: (inGroups ds ++ ['\x7d']))
  | urn {scheme : String} {ds : List Char} (known : scheme ∈ schemes)
      (digits : Text.Spells u.hex ds) : IsSpelling schemes u (scheme.toList ++ inGroups ds)

theorem afterStart?_eq_some_iff {start rest : List Char} :
    afterStart? start cs = some rest ↔ cs = start ++ rest := by
  unfold afterStart?
  rw [Option.ite_none_right_eq_some, List.isPrefixOf_iff_prefix, Option.some.injEq]
  constructor
  · rintro ⟨⟨tail, rfl⟩, rfl⟩
    rw [List.drop_left]
  · rintro rfl
    exact ⟨List.prefix_append _ _, List.drop_left⟩

/-- The two schemes differ in their first letters. -/
theorem afterScheme?_eq_some_iff {rest : List Char} :
    (afterStart? "urn:uuid:".toList cs).or (afterStart? "URN:UUID:".toList cs) = some rest ↔
      ∃ scheme ∈ schemes, cs = scheme.toList ++ rest := by
  rw [Option.or_eq_some_iff, afterStart?_eq_some_iff, afterStart?_eq_some_iff]
  simp only [schemes, List.mem_cons, List.not_mem_nil, or_false, exists_eq_or_imp, exists_eq_left]
  refine or_congr_right (and_iff_right_of_imp ?_)
  rintro rfl
  rfl

theorem length_scheme {scheme : String} (h : scheme ∈ schemes) : scheme.toList.length = 9 := by
  have hall : ∀ scheme ∈ schemes, scheme.toList.length = 9 := by decide
  exact hall scheme h

/-- A text of 38 characters in braces is the braces around the other 36. -/
theorem eq_braced (hlength : cs.length = 38) (hopen : cs.head? = some '\x7b')
    (hclose : cs.getLast? = some '\x7d') :
    cs = '\x7b' :: ((cs.drop 1).take 36 ++ ['\x7d']) := by
  obtain ⟨front, rfl⟩ := List.getLast?_eq_some_iff.mp hclose
  cases front with
  | nil => cases hlength
  | cons c inner =>
    have hinner : inner.length = 36 := by simpa using hlength
    obtain rfl : c = '\x7b' := by simpa using hopen
    simp [hinner]

/-- A text is accepted for an identifier if it is one of its spellings. -/
theorem ofChars?_eq_some_iff : ofChars? cs = some u ↔ IsSpelling schemes u cs := by
  constructor
  · intro h
    unfold ofChars? at h
    split_ifs at h with hplain hgrouped hbraced hurn
    · exact .plain (ofDigits?_eq_some_iff.mp h)
    · obtain ⟨ds, hds, rfl⟩ := ofGrouped?_eq_some_iff.mp h
      exact .grouped hds
    · obtain ⟨ds, hds, hinner⟩ := ofGrouped?_eq_some_iff.mp h
      rw [eq_braced hbraced.1 hbraced.2.1 hbraced.2.2, hinner]
      exact .braced hds
    · obtain ⟨rest, hrest, hread⟩ := Option.bind_eq_some_iff.mp h
      obtain ⟨scheme, hscheme, rfl⟩ := afterScheme?_eq_some_iff.mp hrest
      obtain ⟨ds, hds, rfl⟩ := ofGrouped?_eq_some_iff.mp hread
      exact .urn hscheme hds
  · intro h
    unfold ofChars?
    cases h with
    | plain hds =>
      rw [if_pos (length_of_spells hds), ofDigits?_eq_some_iff]
      exact hds
    | grouped hds =>
      have hlength := length_inGroups hds
      rw [if_neg (by omega), if_pos hlength]
      exact ofGrouped?_eq_some_iff.mpr ⟨_, hds, rfl⟩
    | @braced ds hds =>
      have hlength := length_inGroups hds
      have hlast : ('\x7b' :: (inGroups ds ++ ['\x7d'])).getLast? = some '\x7d' := by
        rw [← List.cons_append, List.getLast?_concat]
      rw [if_neg (by simp [hlength]), if_neg (by simp [hlength]),
        if_pos ⟨by simp [hlength], rfl, hlast⟩]
      refine ofGrouped?_eq_some_iff.mpr ⟨ds, hds, ?_⟩
      simp [hlength]
    | @urn scheme ds hscheme hds =>
      have hlength : (scheme.toList ++ inGroups ds).length = 45 := by
        rw [List.length_append, length_scheme hscheme, length_inGroups hds]
      rw [if_neg (by omega), if_neg (by omega), if_neg (by omega), if_pos hlength,
        afterScheme?_eq_some_iff.mpr ⟨scheme, hscheme, rfl⟩, Option.bind_some]
      exact ofGrouped?_eq_some_iff.mpr ⟨ds, hds, rfl⟩

/-- Every way to write an identifier is a spelling of it. -/
theorem isSpelling_spell (u : Uuid) (way : Spelling) : IsSpelling schemes u (u.spell way) := by
  have hdigits : Text.Spells u.hex u.hex := Text.spells_self _
  cases way with
  | grouped =>
    show IsSpelling schemes u u.chars
    rw [chars_eq_inGroups]
    exact .grouped hdigits
  | capital =>
    have hcapitals : Text.Spells u.hex (u.hex.map Char.toUpper) :=
      List.forall₂_map_right_iff.mpr (List.forall₂_same.mpr fun _ _ => .inr rfl)
    have hgroups : u.chars.map Char.toUpper = inGroups (u.hex.map Char.toUpper) := by
      rw [inGroups_eq_hyphenate (length_of_spells hcapitals), chars, digits_eq_hex]
      simp [hyphenate, List.map_take, List.map_drop]
    show IsSpelling schemes u (u.chars.map Char.toUpper)
    rw [hgroups]
    exact .grouped hcapitals
  | digits =>
    show IsSpelling schemes u u.digits
    rw [digits_eq_hex]
    exact .plain hdigits
  | braced =>
    show IsSpelling schemes u ('\x7b' :: (u.chars ++ ['\x7d']))
    rw [chars_eq_inGroups]
    exact .braced hdigits
  | urn =>
    show IsSpelling schemes u ("urn:uuid:".toList ++ u.chars)
    rw [chars_eq_inGroups]
    exact .urn List.mem_cons_self hdigits

/-- A text longer than the other spellings starts with a scheme. -/
theorem IsSpelling.exists_scheme {schemes : List String}
    (h : IsSpelling schemes u cs) (hlength : 38 < cs.length) :
    ∃ scheme ∈ schemes, scheme.toList <+: cs := by
  cases h with
  | plain hds => rw [length_of_spells hds] at hlength; omega
  | grouped hds => rw [length_inGroups hds] at hlength; omega
  | braced hds => simp [length_inGroups hds] at hlength
  | urn hscheme hds => exact ⟨_, hscheme, List.prefix_append _ _⟩

/-! ## Blanks around a spelling -/

theorem not_isBlank_of_spells (h : Text.Spells u.hex ds) (hc : c ∈ ds) :
    Text.isBlank c = false := by
  obtain ⟨w, hw, hor⟩ := Text.exists_of_spells h hc
  rw [← digits_eq_hex] at hw
  obtain ⟨d, hd, rfl⟩ := exists_of_mem_lowDigits hw
  have hcapital : ∀ d : Fin 16, Text.isBlank (digitChar d).toUpper = false := by decide
  rcases hor with rfl | rfl
  · exact isBlank_digitChar hd
  · exact hcapital ⟨d, hd⟩

theorem not_isBlank_of_inGroups (h : Text.Spells u.hex ds) (hc : c ∈ inGroups ds) :
    Text.isBlank c = false := by
  rw [inGroups_eq_hyphenate (length_of_spells h)] at hc
  rcases mem_hyphenate hc with hc | rfl
  · exact not_isBlank_of_spells h hc
  · decide

/-- A spelling holds no blanks, whatever its scheme, if the scheme holds none. -/
theorem IsSpelling.not_isBlank {schemes : List String}
    (hschemes : ∀ scheme ∈ schemes, scheme.toList.any Text.isBlank = false)
    (h : IsSpelling schemes u cs) : ∀ c ∈ cs, Text.isBlank c = false := by
  intro c hc
  cases h with
  | plain hds => exact not_isBlank_of_spells hds hc
  | grouped hds => exact not_isBlank_of_inGroups hds hc
  | braced hds =>
    simp only [List.mem_cons, List.mem_append, List.not_mem_nil, or_false] at hc
    rcases hc with rfl | hc | rfl
    · decide
    · exact not_isBlank_of_inGroups hds hc
    · decide
  | urn hscheme hds =>
    rcases List.mem_append.mp hc with hc | hc
    · exact Bool.eq_false_of_not_eq_true (List.any_eq_false.mp (hschemes _ hscheme) c hc)
    · exact not_isBlank_of_inGroups hds hc

/-- A text is a spelling of the identifier with blanks around it. -/
def IsSpelledBy (schemes : List String) (u : Uuid) (s : String) : Prop :=
  ∃ cs, IsSpelling schemes u cs ∧ Text.Padded cs s.toList

/-- A text is a spelling with blanks around it if it is one without them. -/
theorem isSpelledBy_iff {schemes : List String} {s : String}
    (hschemes : ∀ scheme ∈ schemes, scheme.toList.any Text.isBlank = false) :
    u.IsSpelledBy schemes s ↔ IsSpelling schemes u (Text.trimChars s.toList) := by
  constructor
  · rintro ⟨cs, hspelling, hpadded⟩
    have hbare := Text.bare_of_not_isBlank (hspelling.not_isBlank hschemes)
    rwa [Text.trimChars_of_padded hbare hpadded]
  · exact fun hspelling => ⟨_, hspelling, Text.padded_trimChars _⟩

theorem ofText?_trim_eq_some_iff {s : String} :
    ofText? (Text.trim s) = some u ↔ u.IsSpelledBy schemes s := by
  rw [ofText?, Text.trim, String.toList_ofList, ofChars?_eq_some_iff, isSpelledBy_iff (by decide)]

theorem text_eq_ofList (u : Uuid) : u.text = String.ofList (inGroups u.hex) := by
  rw [text, chars_eq_inGroups]

end Uuid

end Dispatch
