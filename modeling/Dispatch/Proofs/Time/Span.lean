import Dispatch.Proofs.Number.Numeral
import Dispatch.Time.Span

/-!
# Which spans can be written

A unit counts whole milliseconds, and no numeral counts more than a word of seconds, so a span that
was read is a whole number of milliseconds and is not the longest span (`Span.Writable`).  This is
why the longest span can stand for a product that is beyond it: it is still longer than whatever was
read (`Span.Writable.lt_times_iff`).
-/

namespace Dispatch.Span

variable {raw unit : String} {s : Span} {value size : ℕ}

theorem isDigit_eq (c : Char) : isDigit c = c.isDigit := by
  rw [isDigit, Numeral.digit?_eq]
  split_ifs with h
  · rw [h, Option.isSome_some]
  · rw [Bool.not_eq_true] at h
    rw [h, Option.isSome_none]

/-- Whole milliseconds, and no more of them than a word of seconds has. -/
def Writable (s : Span) : Prop :=
  s.nanos % 1000000 = 0 ∧ s.nanos ≤ Numeral.maxWord * 1000000000

instance (s : Span) : Decidable s.Writable := inferInstanceAs (Decidable (_ ∧ _))

theorem writable_ofMillis (hvalue : value ≤ Numeral.maxWord) : (ofMillis value).Writable := by
  unfold ofMillis
  exact ⟨Nat.mul_mod_left value 1000000, Nat.mul_le_mul hvalue (by decide)⟩

theorem writable_ofSeconds (hvalue : value ≤ Numeral.maxWord) : (ofSeconds value).Writable := by
  refine ⟨?_, Nat.mul_le_mul_right 1000000000 hvalue⟩
  show value * 1000000000 % 1000000 = 0
  omega

theorem writable_countSeconds (h : countSeconds value size = .ok s) : s.Writable := by
  unfold countSeconds at h
  split_ifs at h with hcount
  cases h
  exact writable_ofSeconds hcount

theorem writable_ofUnit (hvalue : value ≤ Numeral.maxWord) (h : ofUnit value unit = .ok s) :
    s.Writable := by
  unfold ofUnit at h
  split_ifs at h
  · cases h
    exact writable_ofMillis hvalue
  · cases h
    exact writable_ofSeconds hvalue
  · exact writable_countSeconds h
  · exact writable_countSeconds h

theorem writable_parse (h : parse raw = .ok s) : s.Writable := by
  simp only [parse] at h
  split_ifs at h
  split at h
  · cases h
  · rename_i value hvalue
    exact writable_ofUnit (Numeral.readDigits_eq_ok_iff.1 hvalue).2 h

/-- The comparison of a span that was read with a product is one of exact numbers. -/
theorem Writable.lt_times_iff (hs : s.Writable) (n : ℕ) (t : Span) :
    s < t.times n ↔ s.nanos < n * t.nanos := by
  have hshort : s.nanos < longest.nanos := Nat.lt_of_le_of_lt hs.2 (by decide)
  show s.nanos < min (n * t.nanos) longest.nanos ↔ _
  rw [lt_min_iff, and_iff_left hshort]

end Dispatch.Span
