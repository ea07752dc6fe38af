import Dispatch.Number.Decimal
import Mathlib.Algebra.Order.Field.Power
import Mathlib.Data.Rat.Cast.Order
import Mathlib.Tactic.FieldSimp
import Mathlib.Tactic.Linarith
import Mathlib.Tactic.NormNum
import Mathlib.Tactic.Positivity
import Mathlib.Tactic.Ring

/-!
# Rounding to binary64

The rationals that round to a number make an interval around its magnitude, the number's basin.
Rounding a ratio that lies in the basin of a number gives that number (`ofRatio?_of_near`), so
basins of different magnitudes do not meet (`Near.unique`).  A product or quotient of numbers is
rounded once, and a number that is a whole multiple of a power of two below 53 bits is not rounded
at all; together they say what the value of a short decimal is (`Decimal.toDouble?_of_near`).
-/

namespace Dispatch.Double

/-- A power as the ratio of natural powers that the definitions are written with. -/
theorem zpow_eq_ratio (b : ℚ) (e : ℤ) : b ^ e = b ^ e.toNat / b ^ (-e).toNat := by
  obtain ⟨n, rfl | rfl⟩ := e.eq_nat_or_neg
  · simp
  · simp

/-- The number without its sign, as a rational. -/
def magnitude (d : Double) : ℚ := d.mantissa * 2 ^ d.exponent

theorem ratio_pos (d : Double) : 0 < d.ratio.2 := by
  unfold ratio
  split
  · exact Nat.one_pos
  · exact Nat.pow_pos (by decide)

theorem ratio_eq_magnitude (d : Double) : (d.ratio.1 : ℚ) / d.ratio.2 = d.magnitude := by
  unfold ratio magnitude
  split
  case isTrue h =>
    rw [zpow_eq_ratio, show (-d.exponent).toNat = 0 by omega]
    simp
  case isFalse h =>
    rw [zpow_eq_ratio, show d.exponent.toNat = 0 by omega]
    simp [div_eq_mul_inv]

/-! ## Orders of magnitude -/

section Order

variable {num den : ℕ}

theorem scaled_pos (num : ℕ) (hden : 0 < den) (e : ℤ) : 0 < (scaled num den e).2 := by
  unfold scaled
  split
  · exact Nat.mul_pos hden (Nat.pow_pos (by decide))
  · exact hden

theorem scaled_eq (num den : ℕ) (e : ℤ) :
    ((scaled num den e).1 : ℚ) / (scaled num den e).2 = num / den / 2 ^ e := by
  unfold scaled
  split
  case isTrue h =>
    rw [zpow_eq_ratio, show (-e).toNat = 0 by omega]
    simp [div_div]
  case isFalse h =>
    rw [zpow_eq_ratio, show e.toNat = 0 by omega]
    simp [div_eq_mul_inv, mul_right_comm]

/-- The lengths of numerator and denominator bound the ratio within a factor of four. -/
theorem log2_bounds (hnum : 0 < num) (hden : 0 < den) :
    (2 : ℚ) ^ ((num.log2 : ℤ) - den.log2 - 1) < num / den ∧
      (num : ℚ) / den < 2 ^ ((num.log2 : ℤ) - den.log2 + 1) := by
  have hd : (0 : ℚ) < den := by exact_mod_cast hden
  have hlow : (2 : ℚ) ^ num.log2 ≤ num := by exact_mod_cast Nat.log2_self_le hnum.ne'
  have hhigh : (num : ℚ) < 2 ^ (num.log2 + 1) := by exact_mod_cast Nat.lt_log2_self
  have hlow' : (2 : ℚ) ^ den.log2 ≤ den := by exact_mod_cast Nat.log2_self_le hden.ne'
  have hhigh' : (den : ℚ) < 2 ^ (den.log2 + 1) := by exact_mod_cast Nat.lt_log2_self
  constructor
  · have hpow : (2 : ℚ) ^ ((num.log2 : ℤ) - den.log2 - 1) = 2 ^ num.log2 / 2 ^ (den.log2 + 1) := by
      rw [sub_sub, zpow_sub₀ (by norm_num)]
      norm_cast
    rw [hpow, div_lt_div_iff₀ (by positivity) hd]
    calc (2 : ℚ) ^ num.log2 * den < 2 ^ num.log2 * 2 ^ (den.log2 + 1) := by gcongr
      _ ≤ num * 2 ^ (den.log2 + 1) := by gcongr
  · have hpow : (2 : ℚ) ^ ((num.log2 : ℤ) - den.log2 + 1) = 2 ^ (num.log2 + 1) / 2 ^ den.log2 := by
      rw [sub_add_eq_add_sub, zpow_sub₀ (by norm_num)]
      norm_cast
    rw [hpow, div_lt_div_iff₀ hd (by positivity)]
    calc (num : ℚ) * 2 ^ den.log2 < 2 ^ (num.log2 + 1) * 2 ^ den.log2 := by gcongr
      _ ≤ 2 ^ (num.log2 + 1) * den := by gcongr

theorem binaryOrder_bounds (hnum : 0 < num) (hden : 0 < den) :
    (2 : ℚ) ^ binaryOrder num den ≤ num / den ∧
      (num : ℚ) / den < 2 ^ (binaryOrder num den + 1) := by
  obtain ⟨hlow, hhigh⟩ := log2_bounds hnum hden
  unfold binaryOrder
  generalize (num.log2 : ℤ) - den.log2 = e at hlow hhigh ⊢
  have hs : (0 : ℚ) < (scaled num den e).2 := by exact_mod_cast scaled_pos num hden e
  have hpow : (0 : ℚ) < 2 ^ e := by positivity
  have heq := scaled_eq num den e
  simp only
  split
  case isTrue h =>
    have h' : ((scaled num den e).1 : ℚ) < (scaled num den e).2 := by exact_mod_cast h
    have hlt : (num : ℚ) / den / 2 ^ e < 1 := heq ▸ (div_lt_one hs).mpr h'
    rw [sub_add_cancel]
    exact ⟨hlow.le, (div_lt_one hpow).mp hlt⟩
  case isFalse h =>
    have h' : ((scaled num den e).2 : ℚ) ≤ (scaled num den e).1 := by exact_mod_cast not_lt.mp h
    have hle : 1 ≤ (num : ℚ) / den / 2 ^ e := heq ▸ (one_le_div hs).mpr h'
    exact ⟨(one_le_div hpow).mp hle, hhigh⟩

theorem le_binaryOrder_iff (hnum : 0 < num) (hden : 0 < den) (b : ℤ) :
    b ≤ binaryOrder num den ↔ (2 : ℚ) ^ b ≤ num / den := by
  obtain ⟨hlow, hhigh⟩ := binaryOrder_bounds hnum hden
  constructor
  · intro h
    exact le_trans (zpow_le_zpow_right₀ (by norm_num) h) hlow
  · intro h
    have hlt : (2 : ℚ) ^ b < 2 ^ (binaryOrder num den + 1) := lt_of_le_of_lt h hhigh
    have := (zpow_lt_zpow_iff_right₀ (by norm_num : (1 : ℚ) < 2)).mp hlt
    omega

end Order

/-! ## The nearest integer -/

/-- The integer is the one nearest to a rational, the even one of two. -/
structure Nearest (m : ℕ) (x : ℚ) : Prop where
  low : m - 1 / 2 ≤ x
  high : x ≤ m + 1 / 2
  strict : m % 2 = 1 → m - 1 / 2 < x ∧ x < m + 1 / 2

/-- The bounds on the ratio as bounds between integers. -/
theorem Nearest.bounds {num den m : ℕ} (hden : 0 < den) (h : Nearest m (num / den)) :
    2 * m * den ≤ 2 * num + den ∧ 2 * num ≤ (2 * m + 1) * den ∧
      (m % 2 = 1 → 2 * m * den < 2 * num + den ∧ 2 * num < (2 * m + 1) * den) := by
  have hd : (0 : ℚ) < den := by exact_mod_cast hden
  refine ⟨?_, ?_, ?_⟩
  · have hlow := h.low
    rw [le_div_iff₀ hd] at hlow
    have : (2 * m * den : ℚ) ≤ 2 * num + den := by linarith
    exact_mod_cast this
  · have hhigh := h.high
    rw [div_le_iff₀ hd] at hhigh
    have : (2 * num : ℚ) ≤ (2 * m + 1) * den := by linarith
    exact_mod_cast this
  · intro hodd
    obtain ⟨hl, hh⟩ := h.strict hodd
    rw [lt_div_iff₀ hd] at hl
    rw [div_lt_iff₀ hd] at hh
    have hl' : (2 * m * den : ℚ) < 2 * num + den := by linarith
    have hh' : (2 * num : ℚ) < (2 * m + 1) * den := by linarith
    exact ⟨by exact_mod_cast hl', by exact_mod_cast hh'⟩

theorem roundQuotient_of_nearest {num den m : ℕ} (hden : 0 < den) (h : Nearest m (num / den)) :
    roundQuotient num den = m := by
  have hsplit : den * (num / den) + num % den = num := Nat.div_add_mod num den
  have hrem : num % den < den := Nat.mod_lt num hden
  obtain ⟨hlow, hhigh, hstrict⟩ := h.bounds hden
  -- So the quotient is `m` or the number below it.
  unfold roundQuotient
  simp only
  generalize num / den = q at hsplit ⊢
  generalize num % den = r at hsplit hrem ⊢
  have hq : q = m ∨ q + 1 = m := by
    have hle : den * (2 * q) ≤ den * (2 * m + 1) := by nlinarith
    have hge : den * (2 * m) < den * (2 * q + 3) := by nlinarith
    have := Nat.le_of_mul_le_mul_left hle hden
    have := Nat.lt_of_mul_lt_mul_left hge
    omega
  rcases hq with rfl | rfl
  · have hdown : 2 * r ≤ den := by nlinarith
    have htie : q % 2 = 1 → 2 * r < den := by
      intro hodd
      nlinarith [hstrict hodd]
    split
    · rfl
    · have := Nat.mod_two_eq_zero_or_one q
      rw [if_neg (by omega)]
      omega
  · have hup : den ≤ 2 * r := by nlinarith
    have htie : (q + 1) % 2 = 1 → den < 2 * r := by
      intro hodd
      nlinarith [hstrict hodd]
    rw [if_neg (by omega)]
    split
    · rfl
    · have := Nat.mod_two_eq_zero_or_one q
      omega

/-! ## Basins -/

/-- The lower end of the basin in quarters of a unit in the last place. -/
def lowQuarters (d : Double) : ℕ :=
  if d.mantissa = 4503599627370496 ∧ d.exponent ≠ -1074 then 4 * d.mantissa - 1
  else 4 * d.mantissa - 2

/-- The lower end of the basin. -/
def lowEnd (d : Double) : ℚ := d.lowQuarters * 2 ^ (d.exponent - 2)

/-- The upper end of the basin. -/
def highEnd (d : Double) : ℚ := (4 * d.mantissa + 2 : ℕ) * 2 ^ (d.exponent - 2)

/-- A rational in the basin of a number; the ends belong to it if the mantissa is even. -/
structure Near (d : Double) (r : ℚ) : Prop where
  low : d.lowEnd ≤ r
  high : r ≤ d.highEnd
  strict : d.mantissa % 2 = 1 → d.lowEnd < r ∧ r < d.highEnd

section Basin

variable {d : Double}

theorem highEnd_eq (d : Double) : d.highEnd = (d.mantissa + 1 / 2) * 2 ^ d.exponent := by
  have hpow : (2 : ℚ) ^ (d.exponent - 2) = 2 ^ d.exponent / 4 := by
    rw [zpow_sub₀ (by norm_num)]
    norm_num
  rw [highEnd, hpow]
  push_cast
  ring

theorem lowEnd_eq (hm : 0 < d.mantissa) :
    d.lowEnd = (d.mantissa - if d.mantissa = 4503599627370496 ∧ d.exponent ≠ -1074 then 1 / 4
      else 1 / 2) * 2 ^ d.exponent := by
  have hpow : (2 : ℚ) ^ (d.exponent - 2) = 2 ^ d.exponent / 4 := by
    rw [zpow_sub₀ (by norm_num)]
    norm_num
  rw [lowEnd, lowQuarters, hpow]
  split
  · rw [Nat.cast_sub (by omega)]
    push_cast
    ring
  · rw [Nat.cast_sub (by omega)]
    push_cast
    ring

/-- Away from a power of two the basin reaches half a unit both ways; at a power of two it reaches
only a quarter down. -/
theorem lowEnd_le (hm : 0 < d.mantissa) : (d.mantissa - 1 / 2) * 2 ^ d.exponent ≤ d.lowEnd := by
  rw [lowEnd_eq hm]
  gcongr
  split <;> norm_num

theorem lowEnd_pos (hm : 0 < d.mantissa) : 0 < d.lowEnd := by
  have hm' : (1 : ℚ) ≤ d.mantissa := by exact_mod_cast hm
  apply lt_of_lt_of_le _ (lowEnd_le hm)
  have : (0 : ℚ) < d.mantissa - 1 / 2 := by linarith
  positivity

theorem Near.pos (hm : 0 < d.mantissa) {r : ℚ} (h : d.Near r) : 0 < r :=
  lt_of_lt_of_le (lowEnd_pos hm) h.low

theorem lowEnd_lt_magnitude (hm : 0 < d.mantissa) : d.lowEnd < d.magnitude := by
  have hu : (0 : ℚ) < 2 ^ d.exponent := by positivity
  rw [lowEnd_eq hm, magnitude]
  gcongr
  split <;> norm_num

theorem magnitude_lt_highEnd (d : Double) : d.magnitude < d.highEnd := by
  have hu : (0 : ℚ) < 2 ^ d.exponent := by positivity
  rw [highEnd_eq, magnitude]
  gcongr
  norm_num

/-- The magnitude itself is in the basin. -/
theorem near_magnitude (hm : 0 < d.mantissa) : d.Near d.magnitude :=
  ⟨(lowEnd_lt_magnitude hm).le, d.magnitude_lt_highEnd.le,
    fun _ => ⟨lowEnd_lt_magnitude hm, d.magnitude_lt_highEnd⟩⟩

variable {num den : ℕ}

/-- In units of the last place, the mantissa is the integer nearest to a rational in the basin. -/
theorem Near.nearest (hm : 0 < d.mantissa) {r : ℚ} (h : d.Near r) :
    Nearest d.mantissa (r / 2 ^ d.exponent) := by
  have hu : (0 : ℚ) < 2 ^ d.exponent := by positivity
  have hhigh := h.high
  rw [highEnd_eq, ← div_le_iff₀ hu] at hhigh
  refine ⟨(le_div_iff₀ hu).mpr (le_trans (lowEnd_le hm) h.low), hhigh, ?_⟩
  intro hodd
  obtain ⟨hl, hh⟩ := h.strict hodd
  rw [highEnd_eq, ← div_lt_iff₀ hu] at hh
  exact ⟨(lt_div_iff₀ hu).mpr (lt_of_le_of_lt (lowEnd_le hm) hl), hh⟩

theorem add_le_binaryOrder_iff (hnum : 0 < num) (hden : 0 < den) (k e : ℤ) :
    k + e ≤ binaryOrder num den ↔ (2 : ℚ) ^ k ≤ num / den / 2 ^ e := by
  have hu : (0 : ℚ) < 2 ^ e := by positivity
  rw [le_binaryOrder_iff hnum hden, zpow_add₀ (by norm_num), le_div_iff₀ hu]

/-- Below the powers of two that a full mantissa reaches, only the basin of the least full mantissa
lies, and there it lies on the finer grid. -/
theorem Near.grid_below (hm : 0 < d.mantissa) (hnum : 0 < num) (hden : 0 < den)
    (h : d.Near (num / den)) (he : d.exponent ≠ -1074)
    (hreach : (num : ℚ) / den / 2 ^ d.exponent < 4503599627370496) :
    d.mantissa = 4503599627370496 ∧ max (-1074) (binaryOrder num den - 52) = d.exponent - 1 ∧
      Nearest 9007199254740992 (num / den / 2 ^ (d.exponent - 1)) := by
  obtain ⟨-, hleast, -, hfull⟩ := d.canonical
  have hu : (0 : ℚ) < 2 ^ d.exponent := by positivity
  have hlow := (h.nearest hm).low
  have hlowEnd := h.low
  rw [lowEnd_eq hm, ← le_div_iff₀ hu] at hlowEnd
  have horder := fun k => add_le_binaryOrder_iff hnum hden k d.exponent
  have htwice : (num : ℚ) / den / 2 ^ (d.exponent - 1) = 2 * (num / den / 2 ^ d.exponent) := by
    rw [zpow_sub₀ (by norm_num)]
    field_simp
  rw [htwice]
  generalize (num : ℚ) / den / 2 ^ d.exponent = x at *
  have hleast52 : d.mantissa = 4503599627370496 := by
    by_contra hne
    have : (4503599627370497 : ℚ) ≤ d.mantissa := by exact_mod_cast (by omega : _ ≤ d.mantissa)
    linarith
  have hm' : (d.mantissa : ℚ) = 4503599627370496 := by exact_mod_cast hleast52
  rw [if_pos ⟨hleast52, he⟩, hm'] at hlowEnd
  have hup : 51 + d.exponent ≤ binaryOrder num den := by
    rw [horder]
    norm_num
    linarith
  have hdown : ¬52 + d.exponent ≤ binaryOrder num den := by
    rw [horder]
    norm_num
    exact hreach
  refine ⟨hleast52, by omega, ?_⟩
  exact ⟨by norm_num; linarith, by norm_num; linarith, fun hodd => absurd hodd (by decide)⟩

/-- A ratio in the basin is rounded on the grid of the number; or else the number is a power of two,
the ratio lies below it, and on the finer grid there it is rounded up to it. -/
theorem Near.grid (hm : 0 < d.mantissa) (hden : 0 < den) (h : d.Near (num / den)) :
    (max (-1074) (binaryOrder num den - 52) = d.exponent ∧
      Nearest d.mantissa (num / den / 2 ^ d.exponent)) ∨
    (d.mantissa = 4503599627370496 ∧
      max (-1074) (binaryOrder num den - 52) = d.exponent - 1 ∧
      Nearest 9007199254740992 (num / den / 2 ^ (d.exponent - 1))) := by
  obtain ⟨hbits, hleast, -, hfull⟩ := d.canonical
  have hnum : 0 < num := by
    rcases Nat.eq_zero_or_pos num with rfl | hpos
    · simpa using h.pos hm
    · exact hpos
  have hnear := h.nearest hm
  have horder := fun k => add_le_binaryOrder_iff hnum hden k d.exponent
  -- The ratio is below the 53rd power, so the grid is never coarser than that of the number.
  have hbelow : ¬53 + d.exponent ≤ binaryOrder num den := by
    rw [horder]
    have hhigh := hnear.high
    have : (d.mantissa : ℚ) ≤ 9007199254740991 := by exact_mod_cast Nat.le_of_lt_succ hbits
    norm_num
    linarith
  rcases eq_or_ne d.exponent (-1074) with he | he
  · exact .inl ⟨by omega, hnear⟩
  by_cases hreach : (2 : ℚ) ^ (52 : ℤ) ≤ num / den / 2 ^ d.exponent
  · have := (horder 52).mpr hreach
    exact .inl ⟨by omega, hnear⟩
  · have hreach' := lt_of_not_ge hreach
    norm_num at hreach'
    exact .inr (h.grid_below hm hnum hden he hreach')

/-- A ratio in the basin of a number is rounded to the number. -/
theorem ofRatio?_of_near (hm : 0 < d.mantissa) (hden : 0 < den) (h : d.Near (num / den))
    (negative : Bool) : ofRatio? negative num den = some { d with negative } := by
  have hnum : num ≠ 0 := by
    rintro rfl
    simpa using h.pos hm
  have hround (e : ℤ) {m : ℕ} (hn : Nearest m (num / den / 2 ^ e)) :
      roundQuotient (scaled num den e).1 (scaled num den e).2 = m :=
    roundQuotient_of_nearest (scaled_pos num hden e) (by rwa [scaled_eq])
  have hbits := d.canonical.1
  rcases h.grid hm hden with ⟨he, hn⟩ | ⟨hm52, he, hn⟩
  · have hq := hround _ hn
    simp only [ofRatio?, he, hq, if_neg hnum, if_neg hbits.ne, dif_pos d.canonical]
  · have hq := hround _ hn
    simp only [ofRatio?, he, hq, if_neg hnum, if_true, sub_add_cancel]
    rw [dif_pos (hm52 ▸ d.canonical)]
    simp only [hm52]

/-- Basins of different magnitudes do not meet. -/
theorem Near.unique {d' : Double} {r : ℚ} (hm : 0 < d.mantissa) (hm' : 0 < d'.mantissa)
    (h : d.Near r) (h' : d'.Near r) (hsign : d.negative = d'.negative) : d = d' := by
  have hr : ((r.num.toNat : ℕ) : ℚ) / r.den = r := by
    have hnum : ((r.num.toNat : ℕ) : ℤ) = r.num := by
      have := Rat.num_pos.mpr (h.pos hm)
      omega
    rw [show ((r.num.toNat : ℕ) : ℚ) = (r.num : ℚ) by exact_mod_cast hnum]
    exact Rat.num_div_den r
  rw [← hr] at h h'
  have hd := ofRatio?_of_near hm r.den_pos h d.negative
  rw [ofRatio?_of_near hm' r.den_pos h' d.negative] at hd
  obtain ⟨s, m, e, hc⟩ := d
  obtain ⟨s', m', e', hc'⟩ := d'
  simp only [Option.some.injEq, mk.injEq] at hd hsign ⊢
  exact ⟨hsign, hd.2.1.symm, hd.2.2.symm⟩

end Basin

/-! ## Numbers that are not rounded -/

section Exact

theorem exists_dyadic {a k : ℕ} (ha : 0 < a) (hbits : a < 9007199254740992) (hk : k ≤ 900) :
    ∃ d : Double, 0 < d.mantissa ∧ d.negative = false ∧ d.magnitude = a * 2 ^ k := by
  have hlog : a.log2 ≤ 52 := by
    have := (Nat.log2_lt ha.ne').mpr (show a < 2 ^ 53 by omega)
    omega
  have hlow : 2 ^ 52 ≤ a * 2 ^ (52 - a.log2) := by
    calc 2 ^ 52 = 2 ^ a.log2 * 2 ^ (52 - a.log2) := by rw [← pow_add]; congr 1; omega
      _ ≤ a * 2 ^ (52 - a.log2) := Nat.mul_le_mul_right _ (Nat.log2_self_le ha.ne')
  have hhigh : a * 2 ^ (52 - a.log2) < 2 ^ 53 := by
    calc a * 2 ^ (52 - a.log2) < 2 ^ (a.log2 + 1) * 2 ^ (52 - a.log2) :=
          Nat.mul_lt_mul_of_pos_right Nat.lt_log2_self (Nat.pow_pos (by decide))
      _ = 2 ^ 53 := by rw [← pow_add]; congr 1; omega
  have hcanonical : Canonical (a * 2 ^ (52 - a.log2)) (a.log2 - 52 + k) :=
    ⟨by omega, by omega, by omega, .inl (by omega)⟩
  refine ⟨⟨false, _, _, hcanonical⟩, Nat.mul_pos ha (Nat.pow_pos (by decide)), rfl, ?_⟩
  have hexp : ((52 - a.log2 : ℕ) : ℤ) + (a.log2 - 52 + k) = k := by omega
  show ((a * 2 ^ (52 - a.log2) : ℕ) : ℚ) * 2 ^ ((a.log2 : ℤ) - 52 + k) = a * 2 ^ k
  rw [Nat.cast_mul, mul_assoc, Nat.cast_pow, Nat.cast_ofNat, ← zpow_natCast (2 : ℚ) (52 - a.log2),
    ← zpow_add₀ (by norm_num), hexp, zpow_natCast]

/-- A natural number that is less than 53 bits above a power of two is valued exactly. -/
theorem ofRatio?_dyadic {n a k : ℕ} (hn : n = a * 2 ^ k) (ha : 0 < a)
    (hbits : a < 9007199254740992) (hk : k ≤ 900) :
    ∃ d : Double, ofRatio? false n 1 = some d ∧ 0 < d.mantissa ∧ d.magnitude = n := by
  obtain ⟨d, hm, hsign, hmag⟩ := exists_dyadic ha hbits hk
  have hval : d.magnitude = n := by
    rw [hmag, hn]
    push_cast
    rfl
  refine ⟨d, ?_, hm, hval⟩
  have hnear : d.Near ((n : ℚ) / (1 : ℕ)) := by
    rw [Nat.cast_one, div_one, ← hval]
    exact near_magnitude hm
  rw [ofRatio?_of_near hm Nat.one_pos hnear, ← hsign]

/-- Powers of ten up to the 22nd are numbers. -/
theorem tenTo_exact {n : ℕ} (hn : n ≤ 22) :
    0 < (tenTo n).mantissa ∧ (tenTo n).magnitude = 10 ^ n := by
  have hsplit : Nat.pow 10 n = 5 ^ n * 2 ^ n := by
    rw [← mul_pow]
    rfl
  have hfive : 5 ^ n < 9007199254740992 :=
    lt_of_le_of_lt (Nat.pow_le_pow_right (by decide) hn) (by decide)
  obtain ⟨d, hd, hm, hmag⟩ := ofRatio?_dyadic hsplit (Nat.pow_pos (by decide)) hfive (by omega)
  rw [tenTo, hd, Option.getD_some]
  refine ⟨hm, hmag.trans ?_⟩
  norm_cast

variable {a b d : Double}

theorem mulMagnitudes?_of_near (hm : 0 < d.mantissa) (h : d.Near (a.magnitude * b.magnitude)) :
    a.mulMagnitudes? b = some { d with negative := false } := by
  have hratio : ((a.ratio.1 * b.ratio.1 : ℕ) : ℚ) / (a.ratio.2 * b.ratio.2 : ℕ) =
      a.magnitude * b.magnitude := by
    rw [Nat.cast_mul, Nat.cast_mul, mul_div_mul_comm, ratio_eq_magnitude, ratio_eq_magnitude]
  exact ofRatio?_of_near hm (Nat.mul_pos a.ratio_pos b.ratio_pos) (hratio ▸ h) false

theorem divMagnitudes?_of_near (hm : 0 < d.mantissa) (hb : 0 < b.mantissa)
    (h : d.Near (a.magnitude / b.magnitude)) :
    a.divMagnitudes? b = some { d with negative := false } := by
  have hbpos : 0 < b.ratio.1 := by
    unfold ratio
    split
    · exact Nat.mul_pos hb (Nat.pow_pos (by decide))
    · exact hb
  have hratio : ((a.ratio.1 * b.ratio.2 : ℕ) : ℚ) / (a.ratio.2 * b.ratio.1 : ℕ) =
      a.magnitude / b.magnitude := by
    rw [Nat.cast_mul, Nat.cast_mul, ← div_div_div_eq, ratio_eq_magnitude, ratio_eq_magnitude]
  exact ofRatio?_of_near hm (Nat.mul_pos a.ratio_pos hbpos) (hratio ▸ h) false

/-- Scaling by a power of ten that is a number rounds once. -/
theorem scale?_of_near {e : ℤ} (ha : 0 < a.mantissa) (hm : 0 < d.mantissa) (hlow : -22 ≤ e)
    (hhigh : e ≤ 22) (h : d.Near (a.magnitude * 10 ^ e)) :
    a.scale? e = some { d with negative := false } := by
  rw [scale?, if_neg ha.ne', if_neg (by omega)]
  split
  case isTrue he =>
    obtain ⟨-, hten⟩ := tenTo_exact (n := e.toNat) (by omega)
    apply mulMagnitudes?_of_near hm
    rw [hten, ← zpow_natCast, Int.toNat_of_nonneg he]
    exact h
  case isFalse he =>
    obtain ⟨hpos, hten⟩ := tenTo_exact (n := (-e).toNat) (by omega)
    rw [if_pos (by omega)]
    apply divMagnitudes?_of_near hm hpos
    rw [hten, ← zpow_natCast, Int.toNat_of_nonneg (by omega), zpow_neg, div_inv_eq_mul]
    exact h

end Exact

end Dispatch.Double

namespace Dispatch.Decimal

/-- The number a decimal stands for. -/
def value (d : Decimal) : ℚ := d.significand * 10 ^ d.exponent

/-- A decimal of at most 53 bits and a power of ten that is a number is valued at the nearest
number. -/
theorem toDouble?_of_near {dec : Decimal} {d : Double} (hpos : 0 < dec.significand)
    (hbits : dec.significand ≤ 9007199254740992) (hlow : -22 ≤ dec.exponent)
    (hhigh : dec.exponent ≤ 22) (hm : 0 < d.mantissa) (h : d.Near dec.value) :
    dec.toDouble? d.negative = some d := by
  have hword : ∃ w : Double, Double.ofRatio? false dec.significand 1 = some w ∧ 0 < w.mantissa ∧
      w.magnitude = dec.significand := by
    rcases Nat.lt_or_ge dec.significand 9007199254740992 with hlt | hge
    · exact Double.ofRatio?_dyadic (k := 0) (by simp) hpos hlt (by decide)
    · exact Double.ofRatio?_dyadic (a := 1) (k := 53) (by omega) (by decide) (by decide) (by decide)
  obtain ⟨w, hw, hwm, hmag⟩ := hword
  have hscale : w.scale? dec.exponent = some { d with negative := false } :=
    Double.scale?_of_near hwm hm hlow hhigh (by rwa [hmag])
  simp only [toDouble?, hw, hscale, Option.bind_eq_bind, Option.bind_some, Option.pure_def]

end Dispatch.Decimal
