import Dispatch.Proofs.Number.Digits
import Dispatch.Proofs.Time.Calendar
import Dispatch.Proofs.Time.Span
import Dispatch.Time.Rfc3339
import Mathlib.Tactic.SplitIfs

/-!
# Times are read back

The text of a time in the years of four digits and outside leap seconds is read as that time, down
to the nanosecond (`Timestamp.read?_text`): each number is written with as many digits as the reader
takes, and the date is that of the day from which it was made.
-/

namespace Dispatch

/-! ## Numbers of fixed width -/

namespace Span

variable {width n : ℕ}

theorem length_padded (hwidth : 0 < width) (hn : n < 10 ^ width) :
    (padded width n).length = width := by
  have := (Nat.length_toDigits_le_iff (by decide) hwidth).mpr hn
  rw [padded, List.length_append, List.length_replicate]
  omega

theorem ofDigitChars_padded (width n : ℕ) : Nat.ofDigitChars 10 (padded width n) 0 = n := by
  rw [padded, Nat.ofDigitChars_append, Nat.ofDigitChars_replicate_zero]
  exact Nat.ofDigitChars_toDigits (by decide) (by decide)

theorem isDigit_of_mem_padded {c : Char} (hc : c ∈ padded width n) : isDigit c = true := by
  have hdigit : Json.Reader.isDigit c = true := by
    rcases List.mem_append.mp hc with h | h
    · exact Json.Reader.allDigits_replicate _ c h
    · exact Json.Reader.allDigits_toDigits n c h
  have hrange : '0' ≤ c ∧ c ≤ '9' := by
    simpa [Json.Reader.isDigit] using hdigit
  rw [isDigit, Numeral.digit?, if_pos hrange, Option.isSome_some]

end Span

/-! ## Parts of a text -/

namespace Timestamp

section Parts

variable {width n : ℕ} {rest : List Char}

theorem takeNumeral?_padded (hwidth : 0 < width) (hn : n < 10 ^ width)
    (hmax : n ≤ Numeral.maxSigned)
    (hrest : ∀ c ∈ rest.head?, Span.isDigit c = false) :
    takeNumeral? (Span.padded width n ++ rest) = some (n, rest) := by
  have hdigits : ∀ c ∈ Span.padded width n, Span.isDigit c = true :=
    fun c => Span.isDigit_of_mem_padded
  obtain ⟨htake, hdrop⟩ := while_append hdigits hrest
  have hread : Numeral.readDigits Numeral.maxSigned (Span.padded width n) = .ok n := by
    have hne : Span.padded width n ≠ [] := by
      rw [← List.length_pos_iff_ne_nil, Span.length_padded hwidth hn]
      exact hwidth
    have hall : ∀ c ∈ Span.padded width n, c.isDigit = true := by
      intro c hc
      rw [← Span.isDigit_eq]
      exact hdigits c hc
    exact Numeral.readDigits_eq_ok_iff.2 ⟨⟨hne, hall, Span.ofDigitChars_padded width n⟩, hmax⟩
  rw [takeNumeral?, htake, hdrop, hread]

theorem takeUpTo?_padded (hwidth : 0 < width) (hn : n < 10 ^ width) (hmax : n ≤ Numeral.maxSigned)
    (rest : List Char) :
    takeUpTo? width (Span.padded width n ++ rest) = some (n, rest) := by
  have hlen := Span.length_padded hwidth hn
  have htake : (Span.padded width n ++ rest).take width = Span.padded width n ++ [] := by
    rw [List.append_nil, List.take_append_of_le_length hlen.ge, List.take_of_length_le hlen.le]
  have hdrop : (Span.padded width n ++ rest).drop width = rest := by
    rw [List.drop_append_of_le_length hlen.ge, List.drop_of_length_le hlen.le, List.nil_append]
  rw [takeUpTo?, htake, takeNumeral?_padded hwidth hn hmax (by simp), hdrop]
  rfl

/-- A digit is not blank. -/
theorem skip_padded (hwidth : 0 < width) (hn : n < 10 ^ width) (rest : List Char) :
    skip (Span.padded width n ++ rest) = Span.padded width n ++ rest ∧
      ∃ c cs, Span.padded width n ++ rest = c :: cs ∧ Span.isDigit c = true := by
  have hlen := Span.length_padded hwidth hn
  obtain ⟨c, ds, hds⟩ := List.exists_cons_of_length_pos (l := Span.padded width n) (by omega)
  have hmem : c ∈ Span.padded width n := hds ▸ List.mem_cons_self
  have hc : Span.isDigit c = true := Span.isDigit_of_mem_padded hmem
  refine ⟨?_, c, ds ++ rest, by rw [hds, List.cons_append], hc⟩
  have hrange : '0' ≤ c ∧ c ≤ '9' := by
    rw [Span.isDigit, Numeral.digit?] at hc
    by_contra h
    rw [if_neg h] at hc
    cases hc
  have hblank : ¬Text.isBlank c = true := by
    have hlow : 48 ≤ c.toNat := hrange.1
    have hhigh : c.toNat ≤ 57 := hrange.2
    simp only [Text.isBlank, Bool.or_eq_true, Bool.and_eq_true, decide_eq_true_eq, beq_iff_eq]
    omega
  rw [skip, hds, List.cons_append, List.dropWhile_cons_of_neg hblank]

theorem takePart?_padded (hn : n < 100) :
    takePart? (Span.padded 2 n ++ rest) = some (n, rest) := by
  rw [takePart?, (skip_padded (by decide) hn rest).1]
  have hmax : n ≤ Numeral.maxSigned := by
    unfold Numeral.maxSigned
    omega
  exact takeUpTo?_padded (by decide) hn hmax rest

theorem takeNext?_padded {mark : Char} (hmark : Text.isBlank mark = false) (hn : n < 100) :
    takeNext? mark (mark :: (Span.padded 2 n ++ rest)) = some (n, rest) := by
  rw [takeNext?, skip, List.dropWhile_cons_of_neg (by simp [hmark])]
  simp only [takeMark?, if_true, Option.bind_eq_bind, Option.bind_some]
  exact takePart?_padded hn

theorem takeYear?_padded (hn : n ≤ 9999) :
    takeYear? (Span.padded 4 n ++ rest) = some ((n : ℤ), rest) := by
  have hlt : n < 10 ^ 4 := by omega
  have hmax : n ≤ Numeral.maxSigned := by
    unfold Numeral.maxSigned
    omega
  obtain ⟨hskip, c, cs, hcs, hc⟩ := skip_padded (by decide) hlt rest
  have hread := takeUpTo?_padded (by decide) hlt hmax rest
  rw [takeYear?, hskip]
  rw [hcs] at hread ⊢
  split
  case h_1 heq =>
    obtain rfl := (List.cons.inj heq).1
    exact absurd hc (by decide)
  case h_2 heq =>
    obtain rfl := (List.cons.inj heq).1
    exact absurd hc (by decide)
  case h_3 =>
    rw [hread]
    rfl

theorem takeFraction?_padded (hwidth : 0 < width) (hwidth' : width ≤ 9) (hn : n < 10 ^ width) :
    takeFraction? ('.' :: (Span.padded width n ++ ['Z'])) =
      some (n * 10 ^ (9 - width), ['Z']) := by
  have hdigits : ∀ c ∈ Span.padded width n, Span.isDigit c = true :=
    fun c => Span.isDigit_of_mem_padded
  have hlen := Span.length_padded hwidth hn
  have hmax : n ≤ Numeral.maxSigned := by
    have : 10 ^ width ≤ 10 ^ 9 := Nat.pow_le_pow_right (by decide) hwidth'
    unfold Numeral.maxSigned
    omega
  obtain ⟨htake, hdrop⟩ := while_append hdigits
    (show ∀ c ∈ ['Z'].head?, Span.isDigit c = false from fun _ h => Option.some.inj h ▸ rfl)
  have hnumeral := takeNumeral?_padded hwidth hn hmax
    (show ∀ c ∈ [].head?, Span.isDigit c = false by simp)
  rw [List.append_nil] at hnumeral
  simp only [takeFraction?, htake, hdrop]
  rw [List.take_of_length_le (by omega), hnumeral, hlen]
  rfl

/-- The fraction is read back, whether it has 0, 3, 6 or 9 digits. -/
theorem takeFraction?_fractionDigits {nanos : ℕ} (hn : nanos < 1000000000) :
    takeFraction? (fractionDigits nanos ++ ['Z']) = some (nanos, ['Z']) := by
  unfold fractionDigits
  split
  case isTrue h =>
    subst h
    rfl
  case isFalse h =>
    split
    case isTrue h3 =>
      rw [List.cons_append, takeFraction?_padded (by decide) (by decide) (by omega)]
      simp only [Option.some.injEq, Prod.mk.injEq, and_true]
      omega
    case isFalse h3 =>
      split
      case isTrue h6 =>
        rw [List.cons_append, takeFraction?_padded (by decide) (by decide) (by omega)]
        simp only [Option.some.injEq, Prod.mk.injEq, and_true]
        omega
      case isFalse h6 =>
        rw [List.cons_append, takeFraction?_padded (by decide) (by decide) (by omega)]
        simp

end Parts

/-! ## Whole texts -/

/-- A time that is written with a year of four digits and is in no leap second. -/
structure Plain (t : Timestamp) : Prop where
  steady : t.leap = false
  low : 0 ≤ t.time.date.year
  high : t.time.date.year ≤ 9999

theorem yearDigits_eq {year : ℤ} (hlow : 0 ≤ year) (hhigh : year ≤ 9999) :
    yearDigits year = Span.padded 4 year.toNat := by
  rw [yearDigits, if_pos ⟨hlow, hhigh⟩, show year.natAbs = year.toNat by omega]

/-- A date of the calendar has a month of the year and a day of a month. -/
theorem month_day_of_exists {d : Calendar.Date} (h : d.Exists) :
    1 ≤ d.month ∧ d.month ≤ 12 ∧ 1 ≤ d.day ∧ d.day ≤ 31 := by
  obtain ⟨hlow, hhigh⟩ := h
  unfold Calendar.daysInMonth at hhigh
  split_ifs at hhigh
  all_goals omega

/-- The days of the years of four digits are far from the ends of the calendar. -/
theorem toDays_bounds {d : Calendar.Date} (h : d.Exists) (hlow : 0 ≤ d.year)
    (hhigh : d.year ≤ 9999) :
    -800000 ≤ d.toDays ∧ d.toDays ≤ 3000000 := by
  obtain ⟨hmonth, hmonth', hday, hday'⟩ := month_day_of_exists h
  unfold Calendar.Date.toDays
  simp only
  split_ifs
  all_goals omega

section Parts

variable (t : Time)

theorem secondOfDay_lt : t.secondOfDay < 86400 := by
  unfold Time.secondOfDay
  omega

theorem fraction_lt : t.fraction < 1000000000 := by
  unfold Time.fraction
  omega

/-- Days, seconds of the day and nanoseconds make up the time. -/
theorem time_of_parts : (⟨(t.seconds / 86400 * 86400 + ((t.secondOfDay / 3600 * 3600 +
    t.secondOfDay / 60 % 60 * 60 + min (t.secondOfDay % 60) 59 : ℕ) : ℤ) - 0) * 1000000000 +
      t.fraction⟩ : Time) = t := by
  have hofDay : (t.secondOfDay : ℤ) = t.seconds % 86400 := by
    unfold Time.secondOfDay
    omega
  have hfraction : (t.fraction : ℤ) = t.nanos % 1000000000 := by
    unfold Time.fraction
    omega
  have hseconds : t.seconds = t.nanos / 1000000000 := rfl
  have hclock : t.secondOfDay / 3600 * 3600 + t.secondOfDay / 60 % 60 * 60 +
      min (t.secondOfDay % 60) 59 = t.secondOfDay := by omega
  rw [hclock]
  apply congrArg Time.mk
  show _ = t.nanos
  omega

/-- The times of the years of four digits are times of the calendar. -/
theorem time_bounds (hfirst : -800000 ≤ t.seconds / 86400) (hlast : t.seconds / 86400 ≤ 3000000) :
    Time.earliest ≤ t ∧ t < Time.horizon := by
  have hseconds : t.seconds = t.nanos / 1000000000 := rfl
  have hstart : Calendar.Date.toDays ⟨Time.firstYear, 1, 1⟩ = -96465292 := by decide
  have hend : Calendar.Date.toDays ⟨Time.lastYear + 1, 1, 1⟩ = 95026237 := by decide
  constructor
  · show Calendar.Date.toDays ⟨Time.firstYear, 1, 1⟩ * 86400000000000 ≤ t.nanos
    omega
  · show t.nanos < Calendar.Date.toDays ⟨Time.lastYear + 1, 1, 1⟩ * 86400000000000
    omega

end Parts

/-- The day and the time of day that a time is written with give the time back. -/
theorem assemble?_parts {t : Timestamp} (h : t.Plain) :
    assemble? t.time.date (t.time.secondOfDay / 3600) (t.time.secondOfDay / 60 % 60)
      (t.time.secondOfDay % 60) t.time.fraction 0 = some t := by
  obtain ⟨hsteady, hlow, hhigh⟩ := h
  have hexists : t.time.date.Exists := Calendar.exists_ofDays _
  have hdays : t.time.date.toDays = t.time.seconds / 86400 := Calendar.toDays_ofDays _
  obtain ⟨hfirst, hlast⟩ := toDays_bounds hexists hlow hhigh
  rw [hdays] at hfirst hlast
  have hofDay := secondOfDay_lt t.time
  have hguard : t.time.date.Exists ∧ Time.firstYear ≤ t.time.date.year ∧
      t.time.date.year ≤ Time.lastYear ∧ t.time.secondOfDay / 3600 < 24 ∧
      t.time.secondOfDay / 60 % 60 < 60 ∧ t.time.secondOfDay % 60 ≤ 60 := by
    unfold Time.firstYear Time.lastYear
    exact ⟨hexists, by omega, by omega, by omega, by omega, by omega⟩
  have hsecond : decide (t.time.secondOfDay % 60 = 60) = false := decide_eq_false (by omega)
  rw [assemble?, if_pos hguard]
  simp only [hdays, time_of_parts, hsecond]
  rw [if_pos (time_bounds t.time hfirst hlast), of?,
    dif_pos (fun hfalse => absurd hfalse (by decide))]
  obtain ⟨time, leap, hleap⟩ := t
  simp only at hsteady
  simp only [hsteady]

/-- The text of a time is read as that time. -/
theorem read?_text {t : Timestamp} (h : t.Plain) : read? t.text = some t := by
  have hexists : t.time.date.Exists := Calendar.exists_ofDays _
  obtain ⟨-, hmonth, -, hday⟩ := month_day_of_exists hexists
  have hyear : (t.time.date.year.toNat : ℤ) = t.time.date.year := Int.toNat_of_nonneg h.low
  have hofDay := secondOfDay_lt t.time
  have hfraction := fraction_lt t.time
  have hparts := assemble?_parts h
  obtain ⟨hsteady, hlow, hhigh⟩ := h
  rw [read?, text, String.toList_ofList, chars, hsteady, yearDigits_eq hlow hhigh]
  simp only [List.append_assoc, List.cons_append, Bool.false_eq_true, if_false, add_zero]
  rw [readChars?, takeYear?_padded (by omega)]
  simp only [Option.bind_eq_bind, Option.bind_some]
  rw [takeNext?_padded (by decide) (by omega)]
  simp only [Option.bind_some]
  rw [takeNext?_padded (by decide) (by omega)]
  simp only [Option.bind_some]
  rw [takePart?_padded (by omega)]
  simp only [Option.bind_some]
  rw [takeNext?_padded (by decide) (by omega)]
  simp only [Option.bind_some]
  rw [takeNext?_padded (by decide) (by omega)]
  simp only [Option.bind_some]
  rw [takeFraction?_fractionDigits hfraction]
  rw [hyear]
  exact hparts

end Timestamp

end Dispatch
