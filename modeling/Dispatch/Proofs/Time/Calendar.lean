import Dispatch.Time.Calendar
import Mathlib.Tactic.IntervalCases
import Mathlib.Tactic.Ring

/-!
# Days and dates

Every day has a date that exists, and the date gives the day back.  An era of 400 years is cut into
centuries, these into groups of four years and these into years; all cuts but the last of their kind
are of one length, and the day left over at the end of the longer ones is a 29 February.
-/

namespace Dispatch.Calendar

/-- A day of an era: the century, the group of four years in it, the year in that and the day of
that year, which is a 366th only before the next 1 March of a leap year. -/
structure Cycles (dayOfEra c q s doy : ℤ) : Prop where
  century : 0 ≤ c ∧ c ≤ 3
  group : 0 ≤ q ∧ q ≤ 24
  year : 0 ≤ s ∧ s ≤ 3
  day : 0 ≤ doy ∧ doy ≤ 365
  last : doy = 365 → s = 3 ∧ (q ≠ 24 ∨ c = 3)
  sum : dayOfEra = 36524 * c + 1461 * q + 365 * s + doy

theorem exists_cycles {dayOfEra : ℤ} (hlow : 0 ≤ dayOfEra) (hhigh : dayOfEra < 146097) :
    ∃ c q s doy, Cycles dayOfEra c q s doy := by
  obtain ⟨c, hc⟩ : ∃ c, c = min 3 (dayOfEra / 36524) := ⟨_, rfl⟩
  obtain ⟨q, hq⟩ : ∃ q, q = (dayOfEra - 36524 * c) / 1461 := ⟨_, rfl⟩
  obtain ⟨s, hs⟩ : ∃ s, s = min 3 ((dayOfEra - 36524 * c - 1461 * q) / 365) := ⟨_, rfl⟩
  refine ⟨c, q, s, dayOfEra - 36524 * c - 1461 * q - 365 * s, ?_, ?_, ?_, ?_, ?_, ?_⟩
  all_goals omega

section Cycles

variable {dayOfEra c q s doy : ℤ}

/-- The corrections for leap days leave 365 days for each year. -/
theorem Cycles.yearOfEra (h : Cycles dayOfEra c q s doy) :
    (dayOfEra - dayOfEra / 1460 + dayOfEra / 36524 - dayOfEra / 146096) / 365 =
      100 * c + 4 * q + s := by
  obtain ⟨hc, hq, hs, hdoy, hlast, hsum⟩ := h
  have hgroups : dayOfEra / 1460 = 25 * c + q ∨ dayOfEra / 1460 = 25 * c + q + 1 := by omega
  have hcenturies : dayOfEra / 36524 = c ∨ (dayOfEra / 36524 = 4 ∧ dayOfEra = 146096) := by omega
  have hera : dayOfEra / 146096 = 0 ∨ (dayOfEra / 146096 = 1 ∧ dayOfEra = 146096) := by omega
  omega

theorem Cycles.dayOfYear (h : Cycles dayOfEra c q s doy) :
    dayOfEra - (365 * (100 * c + 4 * q + s) + (100 * c + 4 * q + s) / 4 -
      (100 * c + 4 * q + s) / 100) = doy := by
  obtain ⟨hc, hq, hs, hdoy, hlast, hsum⟩ := h
  have hfour : (100 * c + 4 * q + s) / 4 = 25 * c + q := by omega
  have hhundred : (100 * c + 4 * q + s) / 100 = c := by omega
  omega

end Cycles

/-- The date of a day of a year that starts in March. -/
def Date.civil (y doy : ℤ) : Date :=
  let m := (5 * doy + 2) / 153
  ⟨if m < 10 then y else y + 1, (if m < 10 then m + 3 else m - 9).toNat,
    (doy - (153 * m + 2) / 5 + 1).toNat⟩

theorem ofDays_eq (days : ℤ) : ∃ era c q s doy,
    Cycles (days + 719468 - era * 146097) c q s doy ∧
      Date.ofDays days = Date.civil (100 * c + 4 * q + s + era * 400) doy := by
  obtain ⟨era, hera⟩ : ∃ era, era = (days + 719468) / 146097 := ⟨_, rfl⟩
  obtain ⟨c, q, s, doy, h⟩ :=
    exists_cycles (show 0 ≤ days + 719468 - era * 146097 by omega) (by omega)
  refine ⟨era, c, q, s, doy, h, ?_⟩
  obtain ⟨m, hm⟩ : ∃ m, m = (5 * doy + 2) / 153 := ⟨_, rfl⟩
  have hrange : 0 ≤ m ∧ m ≤ 11 := by
    have := h.day
    omega
  simp only [Date.ofDays, Date.civil, ← hera, h.yearOfEra, h.dayOfYear, ← hm]
  clear h hera hm
  congr 1
  by_cases hm10 : m < 10
  · rw [if_pos hm10, if_pos hm10, if_neg (by omega), add_zero]
  · rw [if_neg hm10, if_neg hm10, if_pos (by omega)]

/-- The days before a year that starts in March and those of the year. -/
theorem toDays_civil {y doy : ℤ} (hdoy : 0 ≤ doy ∧ doy ≤ 365) :
    (Date.civil y doy).toDays = y / 400 * 146097 + ((y - y / 400 * 400) * 365 +
      (y - y / 400 * 400) / 4 - (y - y / 400 * 400) / 100 + doy) - 719468 := by
  obtain ⟨m, hm⟩ : ∃ m, m = (5 * doy + 2) / 153 := ⟨_, rfl⟩
  have hrange : 0 ≤ m ∧ m ≤ 11 := by omega
  have hday : 0 ≤ doy - (153 * m + 2) / 5 := by omega
  simp only [Date.civil, Date.toDays, ← hm]
  clear hm
  have hmonth : (((if m < 10 then m + 3 else m - 9).toNat : ℤ) + 9) % 12 = m := by
    split <;> omega
  have hyear : (if (if m < 10 then m + 3 else m - 9).toNat ≤ 2 then
      (if m < 10 then y else y + 1) - 1 else if m < 10 then y else y + 1) = y := by
    by_cases hm10 : m < 10
    · rw [if_pos hm10, if_pos hm10, if_neg (by omega)]
    · rw [if_neg hm10, if_neg hm10, if_pos (by omega)]
      omega
  have hday' : ((doy - (153 * m + 2) / 5 + 1).toNat : ℤ) = doy - (153 * m + 2) / 5 + 1 := by omega
  rw [hmonth, hyear, hday']
  ring

/-- A date gives its day back. -/
theorem toDays_ofDays (days : ℤ) : (Date.ofDays days).toDays = days := by
  obtain ⟨era, c, q, s, doy, h, hdate⟩ := ofDays_eq days
  obtain ⟨hc, hq, hs, hdoy, -, hsum⟩ := h
  have hera : (100 * c + 4 * q + s + era * 400) / 400 = era := by omega
  have hfour : (100 * c + 4 * q + s) / 4 = 25 * c + q := by omega
  have hhundred : (100 * c + 4 * q + s) / 100 = c := by omega
  rw [hdate, toDays_civil hdoy, hera, Int.add_sub_cancel, hfour, hhundred]
  omega

/-- A day of a year that starts in March has a date in the calendar. -/
theorem exists_civil {y doy : ℤ} (hdoy : 0 ≤ doy ∧ doy ≤ 365)
    (hlast : doy = 365 → isLeap (y + 1) = true) : (Date.civil y doy).Exists := by
  obtain ⟨m, hm⟩ : ∃ m, m = (5 * doy + 2) / 153 := ⟨_, rfl⟩
  have hrange : 0 ≤ m ∧ m ≤ 11 := by omega
  simp only [Date.civil, Date.Exists, ← hm]
  refine ⟨by omega, ?_⟩
  -- The month decides: February is the last one.
  by_cases hfeb : m = 11
  · subst hfeb
    show (doy - (153 * 11 + 2) / 5 + 1).toNat ≤ if isLeap (y + 1) then 29 else 28
    split
    · omega
    · have : doy ≠ 365 := fun h => by simp_all
      omega
  · obtain ⟨hlow, hhigh⟩ := hrange
    have hm10 : m ≤ 10 := by omega
    clear hlast hfeb hhigh
    interval_cases m <;> simp only [daysInMonth] <;> norm_num <;> omega

/-- The date of a day is in the calendar. -/
theorem exists_ofDays (days : ℤ) : (Date.ofDays days).Exists := by
  obtain ⟨era, c, q, s, doy, h, hdate⟩ := ofDays_eq days
  rw [hdate]
  apply exists_civil h.day
  intro h365
  obtain ⟨hc, hq, hs, -, hlast, -⟩ := h
  have := hlast h365
  simp only [isLeap, Bool.and_eq_true, Bool.or_eq_true, decide_eq_true_eq, ne_eq]
  omega

end Dispatch.Calendar
