import Dispatch.Json.Printer
import Dispatch.Json.Reader
import Dispatch.Proofs.Text.Bytes
import Mathlib.Tactic.SplitIfs

/-!
# Strings are read back

Each character is written as one piece: as itself, behind a backslash, or, if it is a control
without a letter, by its number.  So a reader gets the characters back one by one
(`text?_stringChars`), and no string depends on what follows its closing quote.  A reader that is
given bytes reads those of a text as the text (`Doc.readFirstBytes?_bytes`), and a string with bytes
in it that are no characters as one that denotes no text (`text?_strayBytes`).
-/

namespace Dispatch.Json.Reader

/-- The character is a control that is written by its number. -/
def IsNumbered (c : Char) : Prop :=
  c.toNat < 0x20 ∧ c ≠ '\x08' ∧ c ≠ '\x0c' ∧ c ≠ '\n' ∧ c ≠ '\r' ∧ c ≠ '\t'

instance (c : Char) : Decidable (IsNumbered c) := inferInstanceAs (Decidable (_ ∧ _))

/-- The piece that a character is read back as. -/
def pieceOf (c : Char) : Piece := if IsNumbered c then .unit c.toNat else .char c

/-- The number of a control fits into the last two of the four digits. -/
theorem numberedControl_ofNat : ∀ n < 32,
    numberedControl (Char.ofNat n) =
      ['\\', 'u', '0', '0', Nat.digitChar (n / 16), Nat.digitChar (n % 16)] ∧
    hexUnit? '0' '0' (Nat.digitChar (n / 16)) (Nat.digitChar (n % 16)) = some n := by
  decide +kernel

variable (soFar : List Piece) (rest : List Char)

theorem pieces?_numberedControl {c : Char} (hc : c.toNat < 0x20) :
    pieces? soFar (numberedControl c ++ rest) = pieces? (.unit c.toNat :: soFar) rest := by
  obtain ⟨hchars, hunit⟩ := numberedControl_ofNat c.toNat hc
  rw [Char.ofNat_toNat] at hchars
  rw [hchars]
  have hstep : pieces? soFar ('\\' :: 'u' :: '0' :: '0' :: Nat.digitChar (c.toNat / 16) ::
      Nat.digitChar (c.toNat % 16) :: rest) = _ := pieces?.eq_def _ _
  simp only [hunit] at hstep
  exact hstep

/-- A character that is neither a quote, a backslash nor a control stands for itself. -/
theorem pieces?_plain {c : Char} (hquote : c ≠ '"') (hslash : c ≠ '\\') (hc : ¬c.toNat < 0x20) :
    pieces? soFar (c :: rest) = pieces? (.char c :: soFar) rest := by
  conv => lhs; unfold pieces?
  split
  case h_1 heq => cases heq
  case h_2 heq => exact absurd (List.cons.inj heq).1 hquote
  case h_3 heq => exact absurd (List.cons.inj heq).1 hslash
  case h_4 heq => exact absurd (List.cons.inj heq).1 hslash
  case h_5 heq =>
    obtain ⟨rfl, rfl⟩ := List.cons.inj heq
    rw [if_neg (not_or.mpr ⟨hc, hslash⟩)]

/-- A written character is read as its piece. -/
theorem pieces?_stringChar (c : Char) :
    pieces? soFar (stringChar c ++ rest) = pieces? (pieceOf c :: soFar) rest := by
  unfold stringChar
  split_ifs with hquote hslash hb hf hn hr ht hc
  · subst hquote
    rfl
  · subst hslash
    rfl
  · subst hb
    rfl
  · subst hf
    rfl
  · subst hn
    rfl
  · subst hr
    rfl
  · subst ht
    rfl
  · rw [pieces?_numberedControl soFar rest hc, pieceOf, if_pos ⟨hc, hb, hf, hn, hr, ht⟩]
  · rw [pieceOf, if_neg (fun h => hc h.1)]
    exact pieces?_plain soFar rest hquote hslash hc

theorem pieces?_flatMap (cs : List Char) :
    pieces? soFar (cs.flatMap stringChar ++ rest) =
      pieces? ((cs.map pieceOf).reverse ++ soFar) rest := by
  induction cs generalizing soFar with
  | nil => rfl
  | cons c cs ih =>
    rw [List.flatMap_cons, List.append_assoc, pieces?_stringChar, ih, List.map_cons,
      List.reverse_cons, List.append_assoc, List.singleton_append]

theorem pieces?_stringChars (cs : List Char) :
    pieces? soFar (cs.flatMap stringChar ++ '"' :: rest) =
      some (soFar.reverse ++ cs.map pieceOf, rest) := by
  rw [pieces?_flatMap, pieces?, List.reverse_append, List.reverse_reverse]

/-- A unit that is no half of a pair is a character of its own. -/
theorem join?_unit {n : Nat} (hn : n < 0xD800) (ps : List Piece) :
    join? (.unit n :: ps) = (join? ps).map (Char.ofNat n :: ·) := by
  have hhigh : isHigh n = false := by
    rw [isHigh, Bool.and_eq_false_iff, decide_eq_false_iff_not]
    exact .inl (by omega)
  have hlow : isLow n = false := by
    rw [isLow, Bool.and_eq_false_iff, decide_eq_false_iff_not]
    exact .inl (by omega)
  match ps with
  | [] => simp [join?, hhigh, hlow]
  | .char _ :: _ => simp [join?, hhigh, hlow]
  | .unit _ :: _ => simp [join?, hhigh, hlow]

theorem join?_pieceOf (cs : List Char) : join? (cs.map pieceOf) = some cs := by
  induction cs with
  | nil => rfl
  | cons c cs ih =>
    rw [List.map_cons, pieceOf]
    split
    case isTrue h =>
      have := h.1
      rw [join?_unit (by omega), ih, Char.ofNat_toNat]
      rfl
    case isFalse h =>
      rw [join?, ih]
      rfl

/-- A written string is read back, and what follows its closing quote is left. -/
theorem text?_stringChars (s : String) :
    text? (s.toList.flatMap stringChar ++ '"' :: rest) = some (some s, rest) := by
  rw [text?, pieces?_stringChars]
  simp only [List.reverse_nil, List.nil_append, Option.map_some, join?_pieceOf,
    String.ofList_toList]

theorem toList_stringText (s : String) :
    (stringText s).toList = '"' :: (s.toList.flatMap stringChar ++ ['"']) := by
  simp only [stringText, String.toList_append, String.toList_ofList]
  rfl

/-! ## Bytes that are no characters -/

/-- What stands for stray bytes is read as two halves of pairs that do not belong together. -/
theorem pieces?_strayBytes (soFar : List Piece) (cs : List Char) :
    pieces? soFar (Doc.strayBytes ++ cs) =
      pieces? (.unit 0xD800 :: .unit 0xD800 :: .char '\ufffd' :: soFar) cs := rfl

theorem join?_unit_halves (n : Nat) (after : List Piece) :
    join? (.unit n :: .unit 0xD800 :: .unit 0xD800 :: after) = none := by
  have halves : join? (.unit 0xD800 :: .unit 0xD800 :: after) = none := rfl
  rw [join?, halves, Option.map_none]
  split_ifs with hhigh hlow
  · cases hlow
  · rfl
  · rfl
  · rfl

/-- With two such halves in it, a string denotes no text, whatever stands around them. -/
theorem join?_halves (before after : List Piece) :
    join? (before ++ .unit 0xD800 :: .unit 0xD800 :: after) = none := by
  fun_induction join? before with
  | case1 => rfl
  | case2 c rest ih => rw [List.cons_append, join?, ih, Option.map_none]
  | case3 h l rest hhigh hlow ih =>
    rw [List.cons_append, List.cons_append, join?, if_pos hhigh, if_pos hlow, ih, Option.map_none]
  | case4 h l rest hhigh hlow =>
    rw [List.cons_append, List.cons_append, join?, if_pos hhigh, if_neg hlow]
  | case5 h l rest hhigh hlow =>
    rw [List.cons_append, List.cons_append, join?, if_neg hhigh, if_pos hlow]
  | case6 h l rest hhigh hlow ih =>
    rw [List.cons_append, List.cons_append, join?, if_neg hhigh, if_neg hlow, ← List.cons_append,
      ih, Option.map_none]
  | case7 n rest alone half =>
    match rest with
    | [] => exact join?_unit_halves n after
    | .char c :: rest => rw [List.cons_append, List.cons_append, join?, if_pos half]; simp
    | .unit l :: rest => cases alone l rest rfl
  | case8 n rest alone half ih =>
    match rest with
    | [] => exact join?_unit_halves n after
    | .char c :: rest =>
      rw [List.cons_append, List.cons_append, join?, if_neg half, ← List.cons_append, ih,
        Option.map_none]
      simp
    | .unit l :: rest => cases alone l rest rfl

/-- A string with stray bytes is read to its closing quote, but denotes no text. -/
theorem text?_strayBytes (s t : String) :
    text? (s.toList.flatMap stringChar ++ (Doc.strayBytes ++
      (t.toList.flatMap stringChar ++ '"' :: rest))) = some (none, rest) := by
  rw [text?, pieces?_flatMap, pieces?_strayBytes, pieces?_stringChars, Option.map_some]
  simp only [List.append_nil, List.reverse_cons, List.reverse_reverse, List.append_assoc,
    List.cons_append, List.nil_append]
  rw [← List.singleton_append, ← List.append_assoc, join?_halves]
  rfl

end Dispatch.Json.Reader

namespace Dispatch.Doc

/-- The bytes of a text are read as the text. -/
theorem readFirstBytes?_bytes (s : String) : readFirstBytes? (Text.bytes s) = readFirst? s := by
  have hsame : ∀ cs : List Char, (cs.map some).flatMap
      (fun c => (c.map ([·])).getD strayBytes) = cs := by
    intro cs
    rw [List.flatMap_map]
    exact List.flatMap_singleton' cs
  rw [readFirstBytes?, Text.pieces_bytes, hsame, String.ofList_toList]

end Dispatch.Doc
