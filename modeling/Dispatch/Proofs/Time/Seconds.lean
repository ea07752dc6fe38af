import Dispatch.Proofs.Number.Rounding
import Dispatch.Time.Instant

/-!
# What a number of seconds tells of a span

A span goes over the wire as a binary64 number of seconds, and whoever reads it there has no more
than that number.  Instants are whole nanoseconds, so those that lie the number of seconds back, or
longer, are those that lie the shortest span back that is at least as long
(`Time.le_secondsBack_iff`).  Of whole seconds that span is the one that was sent, as long as 53
bits hold them (`Span.told_ofSeconds`).  Other spans are rounded: a tenth of a second is sent as a
little more.
-/

namespace Dispatch

namespace Span

/-- The shortest span that is at least a number of seconds long. -/
def atLeast (d : Double) : Span := ⟨(d.ratio.1 * 1000000000 + d.ratio.2 - 1) / d.ratio.2⟩

/-- The span is what its number of seconds tells. -/
def Told (s : Span) : Prop := atLeast s.seconds = s

instance (s : Span) : Decidable s.Told := inferInstanceAs (Decidable (_ = _))

theorem atLeast_le_iff (d : Double) (n : ℕ) :
    (atLeast d).nanos ≤ n ↔ d.magnitude * 1000000000 ≤ n := by
  have hpos : (0 : ℚ) < d.ratio.2 := by exact_mod_cast d.ratio_pos
  calc (atLeast d).nanos ≤ n
      ↔ d.ratio.1 * 1000000000 ≤ n * d.ratio.2 := by
        rw [atLeast, Nat.div_le_iff_le_mul_add_pred d.ratio_pos, Nat.mul_comm d.ratio.2]
        have := d.ratio_pos
        omega
    _ ↔ (d.ratio.1 * 1000000000 : ℚ) ≤ n * d.ratio.2 := by exact_mod_cast Iff.rfl
    _ ↔ d.magnitude * 1000000000 ≤ n := by
        rw [← d.ratio_eq_magnitude, div_mul_eq_mul_div, div_le_iff₀ hpos]

theorem atLeast_eq {d : Double} {n : ℕ} (h : d.magnitude * 1000000000 = n) :
    atLeast d = ⟨n⟩ := by
  rw [show atLeast d = ⟨(atLeast d).nanos⟩ from rfl, Span.mk.injEq]
  apply Nat.le_antisymm
  · exact (atLeast_le_iff d n).2 h.le
  · have hself := (atLeast_le_iff d _).1 (Nat.le_refl (atLeast d).nanos)
    rw [h] at hself
    exact_mod_cast hself

/-! ## Whole seconds -/

/-- Adding nothing to a number rounds it to itself. -/
theorem addMagnitudes?_zero {d p : Double} (hm : 0 < d.mantissa) (hp : p.ratio.1 = 0) :
    d.addMagnitudes? p = some { d with negative := false } := by
  have hsum : ((d.ratio.1 * p.ratio.2 + p.ratio.1 * d.ratio.2 : ℕ) : ℚ) /
      (d.ratio.2 * p.ratio.2 : ℕ) = d.magnitude := by
    have hpos : (p.ratio.2 : ℚ) ≠ 0 := by exact_mod_cast p.ratio_pos.ne'
    rw [hp, Nat.zero_mul, Nat.add_zero, Nat.cast_mul, Nat.cast_mul, mul_div_mul_right _ _ hpos,
      d.ratio_eq_magnitude]
  exact Double.ofRatio?_of_near hm (Nat.mul_pos d.ratio_pos p.ratio_pos)
    (hsum ▸ Double.near_magnitude hm) false

/-- Whole seconds are told as long as 53 bits hold their number. -/
theorem told_ofSeconds {n : ℕ} (h : n < 9007199254740992) : (ofSeconds n).Told := by
  rcases Nat.eq_zero_or_pos n with rfl | hpos
  · decide +kernel
  obtain ⟨d, hd, hm, hvalue⟩ := Double.ofRatio?_dyadic (k := 0) (Nat.mul_one n).symm hpos h
    (by decide)
  have hwhole : (ofSeconds n).nanos / 1000000000 = n := Nat.mul_div_cancel n (by decide)
  have hpart : (ofSeconds n).nanos % 1000000000 = 0 := Nat.mul_mod_left n 1000000000
  have hseconds : (ofSeconds n).seconds = { d with negative := false } := by
    have hzero : Double.ofRatio? false 0 1000000000 = some .zero := by decide +kernel
    rw [seconds, hwhole, hpart, hd, hzero, Option.bind_some, Option.bind_some,
      addMagnitudes?_zero hm rfl, Option.getD_some]
  rw [Told, hseconds]
  apply atLeast_eq
  show d.magnitude * 1000000000 = ((n * 1000000000 : ℕ) : ℚ)
  rw [hvalue, Nat.cast_mul]
  norm_num

example : ¬(ofMillis 100).Told := by decide +kernel

example : (mk 100000000000000001).seconds = (ofSeconds 100000000).seconds := by decide +kernel

end Span

namespace Time

/-- The last instant that is at least a number of seconds before now. -/
def secondsBack (now : Time) (d : Double) : Time := ⟨now.nanos - (Span.atLeast d).nanos⟩

theorem le_secondsBack_iff (t now : Time) (d : Double) :
    t ≤ now.secondsBack d ↔ (t.nanos : ℚ) ≤ now.nanos - d.magnitude * 1000000000 := by
  show t.nanos ≤ now.nanos - ((Span.atLeast d).nanos : ℤ) ↔ _
  have hmagnitude : 0 ≤ d.magnitude * 1000000000 := by
    unfold Double.magnitude
    positivity
  rcases Int.lt_or_le now.nanos t.nanos with hlater | hearlier
  · have hlater' : (now.nanos : ℚ) < t.nanos := by exact_mod_cast hlater
    constructor
    · intro h
      omega
    · intro h
      linarith
  · obtain ⟨n, hn⟩ := Int.eq_ofNat_of_zero_le (Int.sub_nonneg.2 hearlier)
    have hn' : (now.nanos : ℚ) - t.nanos = n := by exact_mod_cast hn
    calc t.nanos ≤ now.nanos - (Span.atLeast d).nanos
        ↔ (Span.atLeast d).nanos ≤ n := by omega
      _ ↔ d.magnitude * 1000000000 ≤ n := Span.atLeast_le_iff d n
      _ ↔ (t.nanos : ℚ) ≤ now.nanos - d.magnitude * 1000000000 := by
          rw [← hn', le_sub_comm]

end Time

end Dispatch
