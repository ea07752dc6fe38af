import Dispatch.Proofs.Number.Shortest

/-!
# Numerals and what a reader makes of them

A numeral is a whole part, a fraction and an exponent, of which the last two may be missing.  A
reader collects it into a decimal before it values it (`numeral?_of_spells`), and of the text of a
binary64 number it collects the shortest decimal, written out when it is a short whole one
(`leaf?_text`).  No two numbers have the same text (`text_injective`).  A number whose text has at
most 53 bits and a power of ten that is a number reads back as itself (`readsBack_of_short`).
-/

namespace Dispatch

/-! ## Numerals -/

namespace Json.Reader

/-- The decimal of a numeral without its sign, whether the numeral is a whole number, and what
follows it. -/
def numeral? (cs : List Char) : Option (Decimal × Bool × List Char) := do
  let (whole, cs) := digits cs
  if whole.isEmpty ∨ (whole.head? = some '0' ∧ 1 < whole.length) then none
  let (part, cs) ← fraction? cs
  let (exponent, cs) ← exponent? cs
  if part.isEmpty ∧ exponent.isNone then return (Decimal.pushWhole {} whole, true, cs)
  else return (((Decimal.pushWhole {} whole).pushFraction part).shift (exponent.getD 0), false, cs)

/-- A reader values the decimal that it has collected. -/
theorem magnitude?_eq (negative : Bool) (cs : List Char) :
    magnitude? negative cs = (numeral? cs).map fun (decimal, isWhole, rest) =>
      (if isWhole then wholeNumber negative decimal else float negative decimal, rest) := by
  simp only [magnitude?, numeral?]
  generalize digits cs = d
  split
  · rfl
  · cases fraction? d.2 with
    | none => rfl
    | some f =>
      simp only [Option.bind_eq_bind, Option.bind_some]
      cases exponent? f.2 with
      | none => rfl
      | some e =>
        simp only [Option.bind_some]
        split
        · rfl
        · rfl

/-- A fraction, if there is one. -/
def fractionText (part : List Char) : List Char := if part = [] then [] else '.' :: part

/-- An exponent, if there is one. -/
def exponentText : Option ℤ → List Char
  | none => []
  | some e => 'e' :: (toString e).toList

/-- No numeral goes on with this text. -/
def EndsNumber (rest : List Char) : Prop :=
  ∀ c ∈ rest.head?, isDigit c = false ∧ c ≠ '.' ∧ c ≠ 'e' ∧ c ≠ 'E'

theorem EndsNumber.stopsDigits {rest : List Char} (h : EndsNumber rest) : StopsDigits rest :=
  fun c hc => (h c hc).1

theorem fraction?_spelled {part rest : List Char} (hpart : AllDigits part)
    (hstop : StopsDigits rest) (hpoint : ∀ c ∈ rest.head?, c ≠ '.') :
    fraction? (fractionText part ++ rest) = some (part, rest) := by
  unfold fractionText
  split
  case isTrue h =>
    subst h
    cases rest with
    | nil => rfl
    | cons c rest =>
      rw [List.nil_append]
      unfold fraction?
      split
      case h_1 heq => exact absurd (List.cons.inj heq).1 (hpoint c rfl)
      case h_2 => rfl
  case isFalse h =>
    show (let p := digits (part ++ rest); if p.1.isEmpty then none else some (p.1, p.2)) = _
    rw [digits_append hpart hstop]
    simp [h]

theorem toString_ofNat (n : ℕ) : (toString (n : ℤ)).toList = Nat.toDigits 10 n := by
  rw [Int.toString_eq_repr]
  exact Nat.toList_repr

theorem toString_neg {n : ℕ} (hn : 0 < n) :
    (toString (-n : ℤ)).toList = '-' :: Nat.toDigits 10 n := by
  obtain ⟨m, rfl⟩ : ∃ m, n = m + 1 := ⟨n - 1, by omega⟩
  rw [Int.toString_eq_repr, show (-((m + 1 : ℕ) : ℤ)) = Int.negSucc m from rfl]
  show ("-" ++ (m + 1).repr).toList = _
  rw [String.toList_append, Nat.toList_repr]
  rfl

theorem isEmpty_toDigits (n : ℕ) : (Nat.toDigits 10 n).isEmpty = false := by
  rw [List.isEmpty_eq_false_iff]
  exact Nat.toDigits_ne_nil

theorem exponent?_spelled (e : Option ℤ) {rest : List Char} (hrest : EndsNumber rest) :
    exponent? (exponentText e ++ rest) = some (e, rest) := by
  cases e with
  | none =>
    cases rest with
    | nil => rfl
    | cons c rest =>
      obtain ⟨-, -, he, hE⟩ := hrest c rfl
      simp [exponentText, exponent?, he, hE]
  | some e =>
    have hread (n : ℕ) := digits_append (allDigits_toDigits n) hrest.stopsDigits
    rcases Int.lt_or_le e 0 with hneg | hnonneg
    · obtain ⟨n, hn, rfl⟩ : ∃ n : ℕ, 0 < n ∧ e = -n := ⟨e.natAbs, by omega, by omega⟩
      simp only [exponentText, toString_neg hn, List.cons_append, exponent?, true_or, if_true,
        hread n, isEmpty_toDigits, Bool.false_eq_true, if_false, natOf_toDigits]
    · obtain ⟨n, rfl⟩ := Int.eq_ofNat_of_zero_le hnonneg
      -- The first digit is neither sign.
      obtain ⟨c, ds, hds⟩ := List.exists_cons_of_ne_nil (Nat.toDigits_ne_nil (n := n) (b := 10))
      have hc : isDigit c = true := allDigits_toDigits n c (hds ▸ List.mem_cons_self)
      have hminus : c ≠ '-' := by
        rintro rfl
        exact absurd hc (by decide)
      have hplus : c ≠ '+' := by
        rintro rfl
        exact absurd hc (by decide)
      have hread := hread n
      rw [hds, List.cons_append] at hread
      simp only [exponentText, toString_ofNat, hds, List.cons_append, exponent?, true_or, if_true]
      split
      case h_1 heq => exact absurd (List.cons.inj heq).1 hminus
      case h_2 heq => exact absurd (List.cons.inj heq).1 hplus
      case h_3 =>
        simp only [hread, ← hds, isEmpty_toDigits, Bool.false_eq_true, if_false, natOf_toDigits]

/-- What starts with a digit is a number without sign. -/
theorem leaf?_of_isDigit {c : Char} (hc : isDigit c = true) (cs : List Char) :
    leaf? (c :: cs) = magnitude? false (c :: cs) := by
  unfold leaf?
  split
  case h_6 => rfl
  all_goals
    rename_i heq
    obtain rfl := (List.cons.inj heq).1
    exact absurd hc (by decide)

/-- The parts of a numeral and the decimal that they make. -/
structure Spells (whole part : List Char) (e : Option ℤ) (decimal : Decimal) : Prop where
  whole_digits : AllDigits whole
  whole_ne : whole ≠ []
  lead : whole.head? = some '0' → whole.length ≤ 1
  part_digits : AllDigits part
  fits : Nat.ofDigitChars 10 (whole ++ part) 0 ≤ Numeral.maxWord
  collected : decimal = ⟨Nat.ofDigitChars 10 (whole ++ part) 0, e.getD 0 - part.length⟩

/-- Digits stop at an exponent, and a fraction does not start there. -/
theorem exponentText_stops (e : Option ℤ) {rest : List Char} (hrest : EndsNumber rest) :
    StopsDigits (exponentText e ++ rest) ∧ ∀ c ∈ (exponentText e ++ rest).head?, c ≠ '.' := by
  cases e with
  | none => exact ⟨hrest.stopsDigits, fun c hc => (hrest c hc).2.1⟩
  | some e =>
    have hfirst : ∀ c ∈ (exponentText (some e) ++ rest).head?, c = 'e' := by
      intro c hc
      simpa [exponentText, eq_comm] using hc
    constructor
    · intro c hc
      rw [hfirst c hc]
      decide
    · intro c hc
      rw [hfirst c hc]
      decide

theorem fractionText_stops (part : List Char) {rest : List Char} (hrest : StopsDigits rest) :
    StopsDigits (fractionText part ++ rest) := by
  unfold fractionText
  split
  · exact hrest
  · intro c hc
    obtain rfl : '.' = c := by simpa using hc
    decide

/-- A reader collects the decimal that a numeral spells. -/
theorem numeral?_of_spells {whole part rest : List Char} {e : Option ℤ} {decimal : Decimal}
    (h : Spells whole part e decimal) (hrest : EndsNumber rest) :
    numeral? (whole ++ (fractionText part ++ (exponentText e ++ rest))) =
      some (decimal, decide (part = [] ∧ e = none), rest) := by
  obtain ⟨hwhole, hne, hlead, hpart, hword, rfl⟩ := h
  have htail := exponentText_stops e hrest
  have hstop := fractionText_stops part htail.1
  have hpush : Decimal.pushWhole {} whole = ⟨Nat.ofDigitChars 10 whole 0, 0⟩ := by
    apply Decimal.pushWhole_eq
    apply le_trans _ hword
    rw [Nat.ofDigitChars_append]
    exact le_ofDigitChars _ _
  have hpushPart : (⟨Nat.ofDigitChars 10 whole 0, 0⟩ : Decimal).pushFraction part =
      ⟨Nat.ofDigitChars 10 (whole ++ part) 0, 0 - part.length⟩ := by
    rw [Nat.ofDigitChars_append] at hword ⊢
    exact Decimal.pushFraction_eq part _ hword
  have hstart : ¬(whole = [] ∨ (whole.head? = some '0' ∧ 1 < whole.length)) := by
    rintro (h | ⟨h, hlong⟩)
    · exact hne h
    · have := hlead h
      omega
  simp only [numeral?, digits_append hwhole hstop, List.isEmpty_iff, if_neg hstart,
    fraction?_spelled hpart htail.1 htail.2, exponent?_spelled e hrest, hpush, hpushPart,
    Option.bind_eq_bind, Option.bind_some, Option.isNone_iff_eq_none, Decimal.shift,
    Option.pure_def]
  split
  case isTrue h =>
    obtain ⟨rfl, rfl⟩ := h
    simp
  case isFalse h =>
    simp only [h, decide_false]
    congr 3
    ring

/-! ## Integers -/

section Integer

variable {rest : List Char}

theorem numeral?_toDigits {n : ℕ} (hn : n ≤ Numeral.maxWord) (hrest : EndsNumber rest) :
    numeral? (Nat.toDigits 10 n ++ rest) = some (⟨n, 0⟩, true, rest) := by
  have hspells : Spells (Nat.toDigits 10 n) [] none ⟨n, 0⟩ := by
    have hval := Nat.ofDigitChars_toDigits (n := n) (b := 10) (by decide) (by decide)
    refine ⟨allDigits_toDigits n, Nat.toDigits_ne_nil, ?_, allDigits_nil, ?_, ?_⟩
    · intro hzero
      rcases Nat.eq_zero_or_pos n with rfl | hpos
      · decide
      · exact absurd hzero (head?_toDigits hpos)
    · rwa [List.append_nil, hval]
    · rw [List.append_nil, hval]
      rfl
  exact numeral?_of_spells hspells hrest

/-- A character that a number starts with. -/
def StartsNumber (c : Char) : Prop := isDigit c = true ∨ c = '-'

/-- What a number starts with is told apart from everything else that matters to a reader. -/
theorem StartsNumber.ne {c x : Char} (h : StartsNumber c) (hx : isDigit x = false) (hx' : x ≠ '-') :
    c ≠ x := by
  rintro rfl
  rcases h with h | h
  · rw [hx] at h
    cases h
  · exact hx' h

theorem StartsNumber.isSpace_eq {c : Char} (h : StartsNumber c) : isSpace c = false := by
  simp [isSpace, h.ne (x := ' ') (by decide) (by decide),
    h.ne (x := '\n') (by decide) (by decide), h.ne (x := '\t') (by decide) (by decide),
    h.ne (x := '\r') (by decide) (by decide)]

theorem toString_cons (i : ℤ) : ∃ c cs, (toString i).toList = c :: cs ∧ StartsNumber c := by
  rcases Int.lt_or_le i 0 with hneg | hnonneg
  · obtain ⟨n, hn, rfl⟩ : ∃ n : ℕ, 0 < n ∧ i = -n := ⟨i.natAbs, by omega, by omega⟩
    exact ⟨_, _, toString_neg hn, .inr rfl⟩
  · obtain ⟨n, rfl⟩ := Int.eq_ofNat_of_zero_le hnonneg
    obtain ⟨c, cs, hcs⟩ := List.exists_cons_of_ne_nil (Nat.toDigits_ne_nil (n := n) (b := 10))
    exact ⟨c, cs, (toString_ofNat n).trans hcs,
      .inl (allDigits_toDigits n c (hcs ▸ List.mem_cons_self))⟩

/-- An integer of a word is read back. -/
theorem leaf?_int {i : ℤ} (hlow : -9223372036854775808 ≤ i) (hhigh : i ≤ 18446744073709551615)
    (hrest : EndsNumber rest) : leaf? ((toString i).toList ++ rest) = some (.int i, rest) := by
  rcases Int.lt_or_le i 0 with hneg | hnonneg
  · obtain ⟨n, hn, rfl⟩ : ∃ n : ℕ, 0 < n ∧ i = -n := ⟨i.natAbs, by omega, by omega⟩
    have hword : n ≤ Numeral.maxWord := by
      unfold Numeral.maxWord
      omega
    rw [toString_neg hn, List.cons_append]
    show magnitude? true (Nat.toDigits 10 n ++ rest) = _
    rw [magnitude?_eq, numeral?_toDigits hword hrest]
    simp only [Option.map_some, if_true, wholeNumber, ne_eq, not_true_eq_false, if_false]
    rw [if_pos (by omega)]
  · obtain ⟨n, rfl⟩ := Int.eq_ofNat_of_zero_le hnonneg
    have hword : n ≤ Numeral.maxWord := by
      unfold Numeral.maxWord
      omega
    obtain ⟨c, ds, hds⟩ := List.exists_cons_of_ne_nil (Nat.toDigits_ne_nil (n := n) (b := 10))
    have hc : isDigit c = true := allDigits_toDigits n c (hds ▸ List.mem_cons_self)
    rw [toString_ofNat, hds, List.cons_append, leaf?_of_isDigit hc, ← List.cons_append, ← hds,
      magnitude?_eq, numeral?_toDigits hword hrest]
    rfl

end Integer

end Json.Reader

/-! ## The texts of binary64 numbers -/

namespace Double

open Json.Reader

/-- The decimal that is written: the shortest one, with its zeros and one more if it is a whole
number below `10 ^ 16`. -/
def written (d : Double) : Decimal :=
  if d.mantissa = 0 then ⟨0, -1⟩
  else
    let (digits, k) := d.shortest
    let c := Nat.ofDigitChars 10 digits 0
    if 0 ≤ k ∧ digits.length + k ≤ 16 then ⟨c * 10 ^ (k.toNat + 1), -1⟩ else ⟨c, k⟩

/-- The sign of a number that has one. -/
def signText (d : Double) : List Char := if d.negative then ['-'] else []

/-- The text of a number without its sign. -/
def bodyText (d : Double) : List Char :=
  if d.mantissa = 0 then ['0', '.', '0']
  else
    let (digits, k) := d.shortest
    let point : ℤ := digits.length + k
    if 0 ≤ k ∧ point ≤ 16 then digits ++ List.replicate k.toNat '0' ++ ['.', '0']
    else if 0 < point ∧ point ≤ 16 then
      digits.take point.toNat ++ ['.'] ++ digits.drop point.toNat
    else if -5 < point ∧ point ≤ 0 then
      ['0', '.'] ++ List.replicate (-point).toNat '0' ++ digits
    else
      let tail := digits.drop 1
      digits.take 1 ++ (if tail.isEmpty then [] else '.' :: tail) ++
        ['e'] ++ (toString (point - 1)).toList

theorem toList_text (d : Double) : d.text.toList = d.signText ++ d.bodyText := by
  have htext : d.text = String.ofList (d.signText ++ d.bodyText) := by
    by_cases hm : d.mantissa = 0
    · simp only [text, bodyText, signText, if_pos hm]
    · simp only [text, bodyText, signText, if_neg hm]
  rw [htext, String.toList_ofList]

/-! ### Ways to write digits -/

/-- The characters are the decimal digits of a positive number. -/
structure IsDigitsOf (ds : List Char) (c : ℕ) : Prop where
  digits : AllDigits ds
  ne : ds ≠ []
  lead : ds.head? ≠ some '0'
  value : Nat.ofDigitChars 10 ds 0 = c
  lt_pow : c < 10 ^ ds.length

theorem isDigitsOf_toDigits {c : ℕ} (hpos : 0 < c) : IsDigitsOf (Nat.toDigits 10 c) c where
  digits := allDigits_toDigits c
  ne := Nat.toDigits_ne_nil
  lead := head?_toDigits hpos
  value := Nat.ofDigitChars_toDigits (by decide) (by decide)
  lt_pow := (toDigits_length_bounds hpos).2

namespace IsDigitsOf

variable {ds : List Char} {c : ℕ} {k : ℤ}

/-- A whole number is written out. -/
theorem spells_whole (h : IsDigitsOf ds c) (hk : 0 ≤ k) (hlen : ds.length + k ≤ 16) :
    Spells (ds ++ List.replicate k.toNat '0') ['0'] none ⟨c * 10 ^ (k.toNat + 1), -1⟩ := by
  have hvalue : Nat.ofDigitChars 10 (ds ++ List.replicate k.toNat '0' ++ ['0']) 0 =
      c * 10 ^ (k.toNat + 1) := by
    rw [List.append_assoc, ← List.replicate_succ', Nat.ofDigitChars_append, h.value,
      Nat.ofDigitChars_replicate_zero, mul_comm]
  have hsmall : c * 10 ^ (k.toNat + 1) ≤ 10 ^ 17 := by
    calc c * 10 ^ (k.toNat + 1) ≤ 10 ^ ds.length * 10 ^ (k.toNat + 1) :=
          Nat.mul_le_mul_right _ h.lt_pow.le
      _ = 10 ^ (ds.length + (k.toNat + 1)) := (pow_add _ _ _).symm
      _ ≤ 10 ^ 17 := Nat.pow_le_pow_right (by decide) (by omega)
  refine ⟨h.digits.append (allDigits_replicate _), by simp [h.ne], ?_, allDigits_zero, ?_, ?_⟩
  · rw [List.head?_append_of_ne_nil _ h.ne]
    exact fun hzero => absurd hzero h.lead
  · rw [hvalue]
    exact le_trans hsmall (by decide)
  · rw [hvalue]
    rfl

/-- The point stands among the digits. -/
theorem spells_point (h : IsDigitsOf ds c) (hfits : c ≤ Numeral.maxWord) (hk : k < 0)
    (hpoint : 0 < ds.length + k) :
    Spells (ds.take (ds.length + k).toNat) (ds.drop (ds.length + k).toNat) none ⟨c, k⟩ := by
  refine ⟨fun c hc => h.digits c (List.mem_of_mem_take hc), ?_, ?_,
    fun c hc => h.digits c (List.mem_of_mem_drop hc), ?_, ?_⟩
  · rw [Ne, List.take_eq_nil_iff, not_or]
    exact ⟨by omega, h.ne⟩
  · rw [List.head?_take, if_neg (by omega)]
    exact fun hzero => absurd hzero h.lead
  · rw [List.take_append_drop, h.value]
    exact hfits
  · rw [List.take_append_drop, h.value, List.length_drop]
    congr 1
    simp only [Option.getD_none]
    omega

/-- Zeros stand between the point and the digits. -/
theorem spells_zeros (h : IsDigitsOf ds c) (hfits : c ≤ Numeral.maxWord)
    (hpoint : ds.length + k ≤ 0) :
    Spells ['0'] (List.replicate (-((ds.length : ℤ) + k)).toNat '0' ++ ds) none ⟨c, k⟩ := by
  have hvalue : Nat.ofDigitChars 10
      (['0'] ++ (List.replicate (-((ds.length : ℤ) + k)).toNat '0' ++ ds)) 0 = c := by
    rw [← List.append_assoc, Nat.ofDigitChars_append, Nat.ofDigitChars_append,
      Nat.ofDigitChars_replicate_zero]
    exact h.value
  refine ⟨allDigits_zero, by decide, fun _ => le_rfl,
    (allDigits_replicate _).append h.digits, ?_, ?_⟩
  · rw [hvalue]
    exact hfits
  · rw [hvalue]
    congr 1
    simp only [Option.getD_none, List.length_append, List.length_replicate]
    omega

/-- One digit stands before the point and the exponent behind the others. -/
theorem spells_exponent {first : Char} {tail : List Char} (h : IsDigitsOf (first :: tail) c)
    (hfits : c ≤ Numeral.maxWord) :
    Spells [first] tail (some ((first :: tail).length + k - 1)) ⟨c, k⟩ := by
  refine ⟨fun c hc => h.digits c (List.mem_cons.mpr (.inl (List.mem_singleton.mp hc))),
    by simp, fun _ => le_rfl, fun c hc => h.digits c (List.mem_cons_of_mem _ hc), ?_, ?_⟩
  · rw [List.singleton_append, h.value]
    exact hfits
  · rw [List.singleton_append, h.value]
    congr 1
    simp only [Option.getD_some, List.length_cons]
    push_cast
    ring

end IsDigitsOf

/-- The text without its sign is a numeral with a fraction or an exponent that spells the decimal.
-/
theorem bodyText_spells (d : Double) : ∃ (whole part : List Char) (e : Option ℤ),
    d.bodyText = whole ++ (fractionText part ++ exponentText e) ∧
      ¬(part = [] ∧ e = none) ∧ Spells whole part e d.written := by
  unfold bodyText written
  split
  case isTrue hm =>
    refine ⟨['0'], ['0'], none, by simp [fractionText, exponentText], by simp, ?_⟩
    exact ⟨allDigits_zero, by decide, fun _ => le_rfl, allDigits_zero, by decide, by decide⟩
  case isFalse hm =>
    obtain ⟨c, k, hshort, hpos, hle, -⟩ := shortest_spec (Nat.pos_of_ne_zero hm)
    have hfits : c ≤ Numeral.maxWord := le_trans hle (by decide)
    have hds := isDigitsOf_toDigits hpos
    simp only [hshort, hds.value]
    generalize Nat.toDigits 10 c = ds at *
    have hlen : 0 < ds.length := List.length_pos_iff.mpr hds.ne
    split
    case isTrue hwhole =>
      refine ⟨_, _, _, ?_, by simp, hds.spells_whole hwhole.1 hwhole.2⟩
      simp [fractionText, exponentText, List.append_assoc]
    case isFalse hwhole =>
      split
      case isTrue hpoint =>
        have hlong : (ds.length + k).toNat < ds.length := by omega
        refine ⟨_, _, _, ?_, ?_, hds.spells_point hfits (by omega) hpoint.1⟩
        · rw [fractionText, if_neg (by simpa using hlong)]
          simp [exponentText, List.append_assoc]
        · rintro ⟨hnil, -⟩
          rw [List.drop_eq_nil_iff] at hnil
          omega
      case isFalse hpoint =>
        split
        case isTrue hzeros =>
          refine ⟨_, _, _, ?_, by simp [hds.ne], hds.spells_zeros hfits hzeros.2⟩
          rw [fractionText, if_neg (by simp [hds.ne])]
          simp [exponentText]
        case isFalse hzeros =>
          obtain ⟨first, tail, rfl⟩ := List.exists_cons_of_ne_nil hds.ne
          refine ⟨_, _, _, ?_, by simp, hds.spells_exponent hfits⟩
          simp only [List.drop_one, List.tail_cons, List.isEmpty_iff, fractionText, exponentText]
          split <;> simp

/-! ### The decimal and the number -/

theorem written_of_zero {d : Double} (hm : d.mantissa = 0) : d.written = ⟨0, -1⟩ := by
  rw [written, if_pos hm]

/-- Zero has one canonical form for each sign. -/
theorem eq_of_zero {d d' : Double} (hm : d.mantissa = 0) (hm' : d'.mantissa = 0)
    (hsign : d.negative = d'.negative) : d = d' := by
  obtain ⟨-, -, -, hfull⟩ := d.canonical
  obtain ⟨-, -, -, hfull'⟩ := d'.canonical
  obtain ⟨s, m, e, hc⟩ := d
  obtain ⟨s', m', e', hc'⟩ := d'
  simp only at hm hm' hsign hfull hfull'
  obtain rfl : e = -1074 := by omega
  obtain rfl : e' = -1074 := by omega
  simp only [hm, hm', hsign]

/-- The decimal that is written of a number that is not zero lies in its basin. -/
theorem written_spec {d : Double} (hm : 0 < d.mantissa) :
    0 < d.written.significand ∧ d.Near d.written.value := by
  obtain ⟨c, k, hshort, hpos, -, hnear⟩ := shortest_spec hm
  have hc := Nat.ofDigitChars_toDigits (n := c) (b := 10) (by decide) (by decide)
  rw [written, if_neg hm.ne', hshort]
  simp only [hc]
  split
  case isTrue h =>
    refine ⟨Nat.mul_pos hpos (Nat.pow_pos (by decide)), ?_⟩
    have hval : ((c * 10 ^ (k.toNat + 1) : ℕ) : ℚ) * 10 ^ (-1 : ℤ) = c * 10 ^ k := by
      push_cast
      rw [pow_succ, ← zpow_natCast, Int.toNat_of_nonneg h.1]
      norm_num
      ring
    rw [Decimal.value, hval]
    exact hnear
  case isFalse h => exact ⟨hpos, hnear⟩

/-! ### Reading a text -/

section Read

variable {rest : List Char}

theorem numeral?_bodyText (d : Double) (hrest : EndsNumber rest) :
    numeral? (d.bodyText ++ rest) = some (d.written, false, rest) := by
  obtain ⟨whole, part, e, hbody, hreal, hspells⟩ := d.bodyText_spells
  have hread := numeral?_of_spells hspells hrest
  rw [decide_eq_false hreal] at hread
  rw [hbody, List.append_assoc, List.append_assoc]
  exact hread

theorem bodyText_cons (d : Double) : ∃ c cs, d.bodyText = c :: cs ∧ isDigit c = true := by
  obtain ⟨whole, part, e, hbody, -, hspells⟩ := d.bodyText_spells
  obtain ⟨c, cs, rfl⟩ := List.exists_cons_of_ne_nil hspells.whole_ne
  exact ⟨c, cs ++ (fractionText part ++ exponentText e), by rw [hbody, List.cons_append],
    hspells.whole_digits c List.mem_cons_self⟩

theorem text_cons (d : Double) : ∃ c cs, d.text.toList = c :: cs ∧ StartsNumber c := by
  obtain ⟨c, cs, hbody, hc⟩ := d.bodyText_cons
  rw [toList_text, signText, hbody]
  split
  · exact ⟨_, _, rfl, .inr rfl⟩
  · exact ⟨_, _, rfl, .inl hc⟩

/-- What a reader of the text gives: the value of the decimal that is written. -/
def reread? (d : Double) : Option Double := d.written.toDouble? d.negative

/-- The number is read back from its text. -/
def ReadsBack (d : Double) : Prop := d.reread? = some d

instance (d : Double) : Decidable d.ReadsBack := inferInstanceAs (Decidable (_ = _))

/-- A number is read back from its text if the decimal that is written has at most 53 bits and a
power of ten that is a number. -/
theorem readsBack_of_short {d : Double} (hbits : d.written.significand ≤ 9007199254740992)
    (hlow : -22 ≤ d.written.exponent) (hhigh : d.written.exponent ≤ 22) :
    d.ReadsBack := by
  unfold ReadsBack reread?
  rcases Nat.eq_zero_or_pos d.mantissa with hm | hm
  · rw [written_of_zero hm]
    have hzero : (⟨0, -1⟩ : Decimal).toDouble? d.negative =
        some { zero with negative := d.negative } := by
      cases d.negative <;> decide +kernel
    rw [hzero, Option.some.injEq]
    exact eq_of_zero rfl hm rfl
  · obtain ⟨hpos, hnear⟩ := written_spec hm
    exact Decimal.toDouble?_of_near hpos hbits hlow hhigh hm hnear

theorem leaf?_text (d : Double) (hrest : EndsNumber rest) :
    leaf? (d.text.toList ++ rest) = some ((d.reread?.map Doc.float).getD .unreadable, rest) := by
  have hmagnitude : magnitude? d.negative (d.bodyText ++ rest) =
      some ((d.reread?.map Doc.float).getD .unreadable, rest) := by
    rw [magnitude?_eq, d.numeral?_bodyText hrest]
    rfl
  obtain ⟨c, cs, hbody, hc⟩ := d.bodyText_cons
  rw [toList_text, signText]
  split
  case isTrue hneg =>
    rw [hneg] at hmagnitude
    exact hmagnitude
  case isFalse hneg =>
    rw [Bool.not_eq_true] at hneg
    rw [hneg] at hmagnitude
    rw [List.nil_append, hbody, List.cons_append, leaf?_of_isDigit hc, ← List.cons_append, ← hbody,
      hmagnitude]

/-- Numbers with the same text, whatever follows it, are the same. -/
theorem text_injective {d d' : Double} (h : d.text = d'.text) : d = d' := by
  have hchars : d.signText ++ d.bodyText = d'.signText ++ d'.bodyText := by
    rw [← toList_text, ← toList_text, h]
  -- A sign is not a digit, so the signs agree and so do the numerals.
  have hparts : d.negative = d'.negative ∧ d.bodyText = d'.bodyText := by
    obtain ⟨c, cs, hbody, hc⟩ := d.bodyText_cons
    obtain ⟨c', cs', hbody', hc'⟩ := d'.bodyText_cons
    rw [hbody, hbody'] at hchars ⊢
    unfold signText at hchars
    cases hs : d.negative <;> cases hs' : d'.negative <;> simp only [hs, hs'] at hchars
    · exact ⟨rfl, hchars⟩
    · obtain rfl : c = '-' := (List.cons.inj hchars).1
      exact absurd hc (by decide)
    · obtain rfl : '-' = c' := (List.cons.inj hchars).1
      exact absurd hc' (by decide)
    · exact ⟨rfl, (List.cons.inj hchars).2⟩
  obtain ⟨hsign, hbody⟩ := hparts
  have hends : EndsNumber [] := fun c hc => absurd hc (by simp)
  have hwritten : d.written = d'.written := by
    have hread := d.numeral?_bodyText hends
    rw [hbody, d'.numeral?_bodyText hends] at hread
    exact (Prod.ext_iff.mp (Option.some.inj hread)).1.symm
  rcases Nat.eq_zero_or_pos d.mantissa with hm | hm
  · rcases Nat.eq_zero_or_pos d'.mantissa with hm' | hm'
    · exact eq_of_zero hm hm' hsign
    · have hpos := (written_spec hm').1
      rw [← hwritten, written_of_zero hm] at hpos
      exact absurd hpos (by decide)
  · rcases Nat.eq_zero_or_pos d'.mantissa with hm' | hm'
    · have hpos := (written_spec hm).1
      rw [hwritten, written_of_zero hm'] at hpos
      exact absurd hpos (by decide)
    · exact Near.unique hm hm' (written_spec hm).2 (hwritten ▸ (written_spec hm').2) hsign

end Read

end Double

end Dispatch
