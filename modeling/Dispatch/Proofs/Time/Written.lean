import Dispatch.Proofs.Text.Trim
import Dispatch.Proofs.Time.Span

/-!
# Spans as they are written

A span is written as a numeral and, after any blanks, the name of a unit, which may be left out for
seconds; blanks may stand around both (`Span.IsWritten`).  The count is at most what a word holds,
and so are the seconds of minutes and hours.  Reading accepts these texts and no others, and gives
the number of units that is written (`Span.parse_exact`).

Both directions go through one equation: what is read of a text is settled by the digits behind its
first blanks and by what is left of the rest when that is trimmed (`Span.parse_of_parts`).
-/

namespace Dispatch

/-- A unit of time. -/
inductive TimeUnit where
  | millisecond
  | second
  | minute
  | hour

namespace TimeUnit

/-- The names of a unit.  Seconds may go without one. -/
def names : TimeUnit → List String
  | millisecond => ["ms"]
  | second => ["s", ""]
  | minute => ["m"]
  | hour => ["h"]

/-- The nanoseconds of a unit. -/
def nanos : TimeUnit → ℕ
  | millisecond => 1000000
  | second => 1000000000
  | minute => 60 * 1000000000
  | hour => 3600 * 1000000000

/-- A word holds so many units, and the seconds of so many minutes or hours. -/
def Counts (unit : TimeUnit) (n : ℕ) : Prop :=
  n ≤ Numeral.maxWord ∧
    match unit with
    | millisecond | second => True
    | minute => 60 * n ≤ Numeral.maxWord
    | hour => 3600 * n ≤ Numeral.maxWord

/-- Names have neither blanks nor digits. -/
theorem plain_of_mem_names {unit : TimeUnit} {name : String} (h : name ∈ unit.names) :
    ∀ c ∈ name.toList, Text.isBlank c = false ∧ c.isDigit = false := by
  have hall : ∀ name ∈ unit.names,
      name.toList.any (fun c => Text.isBlank c || c.isDigit) = false := by
    cases unit <;> decide
  intro c hc
  have hneither := List.any_eq_false.mp (hall name h) c hc
  simpa only [Bool.or_eq_true, not_or, Bool.not_eq_true] using hneither

end TimeUnit

theorem Text.isBlank_of_isDigit {c : Char} (h : c.isDigit = true) : isBlank c = false := by
  simp only [Char.isDigit, Bool.and_eq_true, decide_eq_true_eq, ge_iff_le,
    UInt32.le_iff_toNat_le] at h
  have hlow : 48 ≤ c.toNat := h.1
  have hhigh : c.toNat ≤ 57 := h.2
  simp only [isBlank, Bool.or_eq_false_iff, Bool.and_eq_false_iff, decide_eq_false_iff_not,
    beq_eq_false_iff_ne]
  omega

/-- Zeros in front of digits do not matter. -/
theorem Numeral.readDigits_zeros {bound : ℕ} {digits : List Char} (hne : digits ≠ []) (k : ℕ) :
    readDigits bound (List.replicate k '0' ++ digits) = readDigits bound digits := by
  have hfrom (cs : List Char) (h : cs ≠ []) : readDigits bound cs = readFrom bound 0 cs := by
    cases cs with
    | nil => cases h rfl
    | cons c cs => rfl
  rw [hfrom _ (List.append_ne_nil_of_right_ne_nil _ hne), hfrom _ hne]
  induction k with
  | zero => rfl
  | succ k ih =>
    rw [List.replicate_succ, List.cons_append, ← ih, readFrom, digit?_eq, if_pos (by decide)]
    exact if_neg (Nat.not_lt_zero bound)

namespace Span

variable {raw : String} {s : Span} {n : ℕ} {name : String} {front digits rest : List Char}

/-- A text is the numeral of a count and the name of a unit, between and around which blanks may
stand, and the span is so many of the unit. -/
def IsWritten (cs : List Char) (s : Span) : Prop :=
  ∃ (digits gap : List Char) (name : String) (unit : TimeUnit) (n : ℕ),
    Text.Padded (digits ++ gap ++ name.toList) cs ∧
      Numeral.Denotes digits n ∧ Text.Blanks gap ∧ name ∈ unit.names ∧ unit.Counts n ∧
      s = ⟨n * unit.nanos⟩

/-- A count that a word holds is read with the name of a unit just if the unit is counted so far. -/
theorem ofUnit_eq_ok_iff (hn : n ≤ Numeral.maxWord) :
    ofUnit n name = .ok s ↔
      ∃ unit : TimeUnit, name ∈ unit.names ∧ unit.Counts n ∧ s = ⟨n * unit.nanos⟩ := by
  constructor
  · intro h
    unfold ofUnit countSeconds at h
    split_ifs at h with hmilli hsecond hminute hcount hhour hcount
    · cases h
      exact ⟨.millisecond, by simp [hmilli, TimeUnit.names], ⟨hn, trivial⟩, rfl⟩
    · cases h
      exact ⟨.second, by simp [TimeUnit.names, hsecond.symm], ⟨hn, trivial⟩, rfl⟩
    · cases h
      have hseconds : 60 * n ≤ Numeral.maxWord := by rwa [mul_comm]
      refine ⟨.minute, by simp [hminute, TimeUnit.names], ⟨hn, hseconds⟩, ?_⟩
      rw [ofSeconds, TimeUnit.nanos, mul_assoc]
    · cases h
      have hseconds : 3600 * n ≤ Numeral.maxWord := by rwa [mul_comm]
      refine ⟨.hour, by simp [hhour, TimeUnit.names], ⟨hn, hseconds⟩, ?_⟩
      rw [ofSeconds, TimeUnit.nanos, mul_assoc]
  · rintro ⟨unit, hname, ⟨-, hcount⟩, rfl⟩
    cases unit with
    | millisecond =>
      obtain rfl := List.mem_singleton.mp hname
      rfl
    | second =>
      rcases List.mem_pair.mp hname with rfl | rfl <;> rfl
    | minute =>
      obtain rfl := List.mem_singleton.mp hname
      show (if n * 60 ≤ Numeral.maxWord then _ else _) = _
      rw [if_pos (by rwa [mul_comm]), ofSeconds, TimeUnit.nanos, mul_assoc]
    | hour =>
      obtain rfl := List.mem_singleton.mp hname
      show (if n * 3600 ≤ Numeral.maxWord then _ else _) = _
      rw [if_pos (by rwa [mul_comm]), ofSeconds, TimeUnit.nanos, mul_assoc]

/-- What is read of a text of some digits behind blanks. -/
theorem parse_of_parts (hraw : raw.toList = front ++ digits ++ rest) (hfront : Text.Blanks front)
    (hdigits : ∀ c ∈ digits, c.isDigit = true) (hne : digits ≠ [])
    (hrest : ∀ c ∈ rest.head?, c.isDigit = false) :
    parse raw = match Numeral.readDigits Numeral.maxWord digits with
      | .error cause => .error (.numeral cause)
      | .ok value => ofUnit value (String.ofList (Text.trimChars rest)) := by
  have htrim : Text.trimChars raw.toList = digits ++ rest.rdropWhile Text.isBlank := by
    rw [hraw, List.append_assoc, Text.trimChars_blanks_append hfront,
      Text.trimChars_append (fun c hc => Text.isBlank_of_isDigit (hdigits c hc)) hne]
  have hstops : ∀ c ∈ (rest.rdropWhile Text.isBlank).head?, isDigit c = false := by
    intro c hc
    rw [isDigit_eq]
    obtain ⟨back, -, hsplit⟩ := Text.exists_blanks_back rest
    refine hrest c ?_
    rw [hsplit, List.head?_append, hc]
    rfl
  have hall : ∀ c ∈ digits, isDigit c = true := fun c hc => (isDigit_eq c).trans (hdigits c hc)
  obtain ⟨htake, hdrop⟩ := while_append hall hstops
  unfold parse
  dsimp only
  rw [htrim, htake, hdrop, Text.trimChars_rdropWhile]
  exact if_neg (by simpa using hne)

theorem isWritten_of_parse (h : parse raw = .ok s) : IsWritten raw.toList s := by
  unfold parse at h
  dsimp only at h
  split_ifs at h
  split at h
  · cases h
  · rename_i n hn
    obtain ⟨hdenotes, hbound⟩ := Numeral.readDigits_eq_ok_iff.mp hn
    obtain ⟨unit, hname, hcounts, hs⟩ := (ofUnit_eq_ok_iff hbound).mp h
    obtain ⟨front, back, hfront, hback, hraw⟩ := Text.padded_trimChars raw.toList
    obtain ⟨gap, tail, hgap, htail, hrest⟩ :=
      Text.padded_trimChars ((Text.trimChars raw.toList).dropWhile isDigit)
    refine ⟨_, gap, _, unit, n, ⟨front, tail ++ back, hfront, ?_, ?_⟩, hdenotes, hgap, hname,
      hcounts, hs⟩
    · intro c hc
      rcases List.mem_append.mp hc with hc | hc
      · exact htail c hc
      · exact hback c hc
    · have hsplit := List.takeWhile_append_dropWhile (p := isDigit) (l := Text.trimChars raw.toList)
      rw [hrest] at hsplit
      conv_lhs => rw [hraw, ← hsplit]
      simp

theorem parse_of_isWritten (h : IsWritten raw.toList s) : parse raw = .ok s := by
  obtain ⟨digits, gap, name, unit, n, ⟨front, back, hfront, hback, hraw⟩, hdenotes, hgap, hname,
    hcounts, rfl⟩ := h
  have hplain := TimeUnit.plain_of_mem_names hname
  have hblank : ∀ {c}, Text.isBlank c = true → c.isDigit = false := by
    intro c hc
    by_contra hdigit
    rw [Text.isBlank_of_isDigit (Bool.not_eq_false _ ▸ hdigit)] at hc
    cases hc
  have hrest : ∀ c ∈ (gap ++ name.toList ++ back).head?, c.isDigit = false := by
    intro c hc
    have hmem := List.mem_of_mem_head? hc
    simp only [List.mem_append] at hmem
    rcases hmem with (hmem | hmem) | hmem
    · exact hblank (hgap c hmem)
    · exact (hplain c hmem).2
    · exact hblank (hback c hmem)
  have htrim : Text.trimChars (gap ++ name.toList ++ back) = name.toList :=
    Text.trimChars_of_padded (Text.bare_of_not_isBlank fun c hc => (hplain c hc).1)
      ⟨gap, back, hgap, hback, rfl⟩
  have hparts : raw.toList = front ++ digits ++ (gap ++ name.toList ++ back) := by
    simp only [hraw, List.append_assoc]
  rw [parse_of_parts hparts hfront hdenotes.2.1 hdenotes.1 hrest,
    Numeral.readDigits_eq_ok_iff.mpr ⟨hdenotes, hcounts.1⟩]
  dsimp only
  rw [htrim, String.ofList_toList]
  exact (ofUnit_eq_ok_iff hcounts.1).mpr ⟨unit, hname, hcounts, rfl⟩

/-- Zeros in front of a numeral make no difference, whatever follows it. -/
theorem parse_zeros {c : Char} (hfront : Text.Blanks front) (hc : c.isDigit = true) (k : ℕ)
    (rest : List Char) :
    parse (String.ofList (front ++ List.replicate k '0' ++ c :: rest)) =
      parse (String.ofList (front ++ c :: rest)) := by
  obtain ⟨digits, tail, hsplit, hdigits, hne, htail⟩ : ∃ digits tail,
      c :: rest = digits ++ tail ∧ (∀ d ∈ digits, d.isDigit = true) ∧ digits ≠ [] ∧
        ∀ d ∈ tail.head?, d.isDigit = false := by
    refine ⟨(c :: rest).takeWhile Char.isDigit, (c :: rest).dropWhile Char.isDigit,
      List.takeWhile_append_dropWhile.symm, fun d => List.mem_takeWhile_imp, ?_, ?_⟩
    · rw [List.takeWhile_cons_of_pos hc]
      exact List.cons_ne_nil _ _
    · intro d hd
      have hhead := List.head?_dropWhile_not Char.isDigit (c :: rest)
      rw [hd] at hhead
      simpa using hhead
  have hzeros : ∀ d ∈ List.replicate k '0' ++ digits, d.isDigit = true := by
    intro d hd
    rcases List.mem_append.mp hd with hd | hd
    · rw [List.eq_of_mem_replicate hd]
      rfl
    · exact hdigits d hd
  have hne' := List.append_ne_nil_of_right_ne_nil (List.replicate k '0') hne
  rw [hsplit, parse_of_parts (by simp) hfront hzeros hne' htail, Numeral.readDigits_zeros hne,
    parse_of_parts (by simp) hfront hdigits hne htail]

/-- A text is read as a span if and only if the span is written so.  What is read is never beyond
the longest span, so it is the exact number of units, and zeros in front of the numeral make no
difference. -/
theorem parse_exact (raw : String) :
    (∀ s, parse raw = .ok s ↔ IsWritten raw.toList s) ∧
      (∀ s, parse raw = .ok s → s ≤ longest) ∧
      ∀ front c rest, raw.toList = front ++ c :: rest → Text.Blanks front → c.isDigit = true →
        ∀ k, parse (String.ofList (front ++ List.replicate k '0' ++ c :: rest)) = parse raw := by
  refine ⟨fun s => ⟨isWritten_of_parse, parse_of_isWritten⟩, ?_, ?_⟩
  · intro s h
    exact (writable_parse h).2.trans (by decide)
  · intro front c rest hraw hfront hc k
    rw [parse_zeros hfront hc, ← hraw, String.ofList_toList]

/-- An hour between blanks of several kinds, with any number of zeros in front. -/
theorem parse_exact_hour :
    let raw := "\u3000\t1\u2009h\n"
    IsWritten raw.toList (ofSeconds 3600) ∧ ofSeconds 3600 ≤ longest ∧
      ∀ k, parse (String.ofList (['\u3000', '\t'] ++ List.replicate k '0' ++
        '1' :: ['\u2009', 'h', '\n'])) = .ok (ofSeconds 3600) := by
  intro raw
  have hread : parse "\u3000\t1\u2009h\n" = .ok (ofSeconds 3600) := by decide
  obtain ⟨hwritten, hlongest, hzeros⟩ := parse_exact raw
  refine ⟨(hwritten _).mp hread, hlongest _ hread, fun k => ?_⟩
  rw [← hread]
  exact hzeros _ _ _ (by decide) (by decide) (by decide) k

/-- The least number of minutes whose seconds are too many for a word. -/
example : parse "307445734561825861m" = .error .overflow := by rfl

end Span

end Dispatch
