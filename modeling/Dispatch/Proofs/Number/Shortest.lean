import Dispatch.Number.Shortest
import Dispatch.Proofs.Number.Digits
import Dispatch.Proofs.Number.Rounding

/-!
# The shortest decimal lies in the basin

The search for the fewest digits is a search for a decimal in the basin, and it does not fail: at
seventeen digits the grid of decimals is finer than the basin is wide (`exists_neighbour?`).  So
what is written of a number that is not zero are the digits of some `c` of at most seventeen, and a
power `k`, with `c * 10 ^ k` in the basin (`shortest_spec`).
-/

namespace Dispatch.Double

/-! ## The basin in units -/

section Basin

variable (d : Double)

theorem basin_unit_pos : 0 < d.basin.unit := Nat.pow_pos (by decide)

private theorem over_unit (n : ℕ) :
    ((n * Nat.pow 2 (d.exponent - 2).toNat : ℕ) : ℚ) / d.basin.unit =
      n * 2 ^ (d.exponent - 2) := by
  rw [zpow_eq_ratio]
  simp [basin, mul_div_assoc]

theorem basin_low : (d.basin.low : ℚ) / d.basin.unit = d.lowEnd := d.over_unit _

theorem basin_high : (d.basin.high : ℚ) / d.basin.unit = d.highEnd := d.over_unit _

theorem basin_middle : (d.basin.middle : ℚ) / d.basin.unit = d.magnitude := by
  have hpow : (2 : ℚ) ^ (d.exponent - 2) = 2 ^ d.exponent / 4 := by
    rw [zpow_sub₀ (by norm_num)]
    norm_num
  rw [show (d.basin.middle : ℚ) / d.basin.unit = _ from d.over_unit (4 * d.mantissa), hpow,
    magnitude]
  push_cast
  ring

theorem basin_middle_pos {d : Double} (hm : 0 < d.mantissa) : 0 < d.basin.middle :=
  Nat.mul_pos (Nat.mul_pos (by decide) hm) (Nat.pow_pos (by decide))

/-- The test for a decimal decides whether it is in the basin. -/
theorem holds_iff (c : ℕ) (k : ℤ) : d.basin.holds c k = true ↔ d.Near (c * 10 ^ k) := by
  have hu : (0 : ℚ) < d.basin.unit := by exact_mod_cast d.basin_unit_pos
  have hs : (0 : ℚ) < (Nat.pow 10 (-k).toNat : ℕ) := by
    exact_mod_cast Nat.pow_pos (by decide)
  have hval : (c * 10 ^ k : ℚ) = (c * Nat.pow 10 k.toNat : ℕ) / (Nat.pow 10 (-k).toNat : ℕ) := by
    rw [zpow_eq_ratio]
    simp [mul_div_assoc]
  have hclosed : d.basin.closed = decide (d.mantissa % 2 = 0) := rfl
  have hlow : d.lowEnd ≤ c * 10 ^ k ↔ d.basin.low * Nat.pow 10 (-k).toNat ≤
      c * Nat.pow 10 k.toNat * d.basin.unit := by
    rw [← basin_low, hval, div_le_div_iff₀ hu hs]
    exact_mod_cast Iff.rfl
  have hhigh : c * 10 ^ k ≤ d.highEnd ↔ c * Nat.pow 10 k.toNat * d.basin.unit ≤
      d.basin.high * Nat.pow 10 (-k).toNat := by
    rw [← basin_high, hval, div_le_div_iff₀ hs hu]
    exact_mod_cast Iff.rfl
  have hlow' : d.lowEnd < c * 10 ^ k ↔ d.basin.low * Nat.pow 10 (-k).toNat <
      c * Nat.pow 10 k.toNat * d.basin.unit := by
    rw [← basin_low, hval, div_lt_div_iff₀ hu hs]
    exact_mod_cast Iff.rfl
  have hhigh' : c * 10 ^ k < d.highEnd ↔ c * Nat.pow 10 k.toNat * d.basin.unit <
      d.basin.high * Nat.pow 10 (-k).toNat := by
    rw [← basin_high, hval, div_lt_div_iff₀ hs hu]
    exact_mod_cast Iff.rfl
  unfold Basin.holds
  rcases Nat.mod_two_eq_zero_or_one d.mantissa with he | ho
  · simp only [hclosed, he, decide_true, if_true, Bool.and_eq_true, decide_eq_true_eq, ← hlow,
      ← hhigh]
    exact ⟨fun h => ⟨h.1, h.2, fun hodd => absurd hodd (by omega)⟩, fun h => ⟨h.low, h.high⟩⟩
  · simp only [hclosed, ho, Nat.one_ne_zero, decide_false, Bool.false_eq_true, if_false,
      Bool.and_eq_true, decide_eq_true_eq, ← hlow', ← hhigh']
    exact ⟨fun h => ⟨h.1.le, h.2.le, fun _ => h⟩, fun h => h.strict ho⟩

end Basin

/-! ## Decimal order -/

theorem decimalOrder_bounds {num den : ℕ} (hnum : 0 < num) (hden : 0 < den) :
    (10 : ℚ) ^ decimalOrder num den ≤ num / den ∧
      (num : ℚ) / den < 10 ^ (decimalOrder num den + 1) := by
  have hn : (0 : ℚ) < num := by exact_mod_cast hnum
  have hd : (0 : ℚ) < den := by exact_mod_cast hden
  unfold decimalOrder
  split
  case isTrue h =>
    have hq : 0 < num / den := Nat.div_pos h hden
    obtain ⟨hlow, hhigh⟩ := toDigits_length_bounds hq
    have hpos : 0 < (Nat.toDigits 10 (num / den)).length := Nat.length_toDigits_pos
    generalize (Nat.toDigits 10 (num / den)).length = l at hlow hhigh hpos
    have hexp : (l : ℤ) - 1 = (l - 1 : ℕ) := by omega
    rw [sub_add_cancel, hexp, zpow_natCast, zpow_natCast, le_div_iff₀ hd, div_lt_iff₀ hd]
    exact ⟨by exact_mod_cast (Nat.le_div_iff_mul_le hden).mp hlow,
      by exact_mod_cast (Nat.div_lt_iff_lt_mul hden).mp hhigh⟩
  case isFalse h =>
    have hq : 0 < (den - 1) / num := Nat.div_pos (by omega) hnum
    obtain ⟨hlow, hhigh⟩ := toDigits_length_bounds hq
    have hpos : 0 < (Nat.toDigits 10 ((den - 1) / num)).length := Nat.length_toDigits_pos
    generalize (Nat.toDigits 10 ((den - 1) / num)).length = l at hlow hhigh hpos
    have hbelow : 10 ^ (l - 1) * num < den := by
      have := (Nat.le_div_iff_mul_le hnum).mp hlow
      omega
    have habove : den ≤ 10 ^ l * num := by
      have := (Nat.div_lt_iff_lt_mul hnum).mp hhigh
      omega
    have hexp : -(l : ℤ) + 1 = -((l - 1 : ℕ) : ℤ) := by omega
    rw [hexp, zpow_neg, zpow_neg, zpow_natCast, zpow_natCast, inv_le_comm₀ (by positivity)
      (by positivity), inv_div, div_le_iff₀ hn, lt_inv_comm₀ (by positivity) (by positivity),
      inv_div, lt_div_iff₀ hn]
    exact ⟨by exact_mod_cast habove, by exact_mod_cast hbelow⟩

/-! ## The search -/

section Search

variable {d : Double}

/-- The order of a number. -/
def order (d : Double) : ℤ := decimalOrder d.basin.middle d.basin.unit

theorem order_bounds (hm : 0 < d.mantissa) :
    (10 : ℚ) ^ d.order ≤ d.magnitude ∧ d.magnitude < 10 ^ (d.order + 1) := by
  have h := decimalOrder_bounds (basin_middle_pos hm) d.basin_unit_pos
  rwa [basin_middle] at h

/-- The lower neighbour of the number on the grid of decimals with `n` digits. -/
def floorAt (d : Double) (n : ℕ) : ℕ :=
  d.basin.middle * Nat.pow 10 (-(d.order - n + 1)).toNat /
    (d.basin.unit * Nat.pow 10 (d.order - n + 1).toNat)

theorem neighbour?_eq (d : Double) (n : ℕ) :
    neighbour? d.basin d.order n =
      let k := d.order - n + 1
      let c := d.floorAt n
      match d.basin.holds c k && c != 0, d.basin.holds (c + 1) k with
      | true, true =>
        let down := d.basin.distance c k
        let up := d.basin.distance (c + 1) k
        some (if down < up ∨ (down = up ∧ c % 2 = 0) then c else c + 1, k)
      | true, false => some (c, k)
      | false, true => some (c + 1, k)
      | false, false => none := rfl

theorem floorAt_bounds (d : Double) (n : ℕ) :
    d.floorAt n * (10 : ℚ) ^ (d.order - n + 1) ≤ d.magnitude ∧
      d.magnitude < (d.floorAt n + 1 : ℕ) * (10 : ℚ) ^ (d.order - n + 1) := by
  unfold floorAt
  generalize d.order - n + 1 = k
  have hu := d.basin_unit_pos
  have hup : 0 < Nat.pow 10 k.toNat := Nat.pow_pos (by decide)
  have hdown : 0 < Nat.pow 10 (-k).toNat := Nat.pow_pos (by decide)
  have hstep : (10 : ℚ) ^ k = (Nat.pow 10 k.toNat : ℕ) / (Nat.pow 10 (-k).toNat : ℕ) := by
    rw [zpow_eq_ratio]
    simp
  have hdiv := Nat.div_add_mod (d.basin.middle * Nat.pow 10 (-k).toNat)
    (d.basin.unit * Nat.pow 10 k.toNat)
  have hmod := Nat.mod_lt (d.basin.middle * Nat.pow 10 (-k).toNat) (Nat.mul_pos hu hup)
  rw [hstep, ← basin_middle]
  generalize d.basin.middle * Nat.pow 10 (-k).toNat / (d.basin.unit * Nat.pow 10 k.toNat) = c
    at hdiv ⊢
  generalize d.basin.middle * Nat.pow 10 (-k).toNat % (d.basin.unit * Nat.pow 10 k.toNat) = r
    at hdiv hmod
  have hu' : (0 : ℚ) < d.basin.unit := by exact_mod_cast hu
  have hdown' : (0 : ℚ) < (Nat.pow 10 (-k).toNat : ℕ) := by exact_mod_cast hdown
  rw [← mul_div_assoc, ← mul_div_assoc, div_le_div_iff₀ hdown' hu', div_lt_div_iff₀ hu' hdown']
  refine ⟨?_, ?_⟩
  · have : c * Nat.pow 10 k.toNat * d.basin.unit ≤ d.basin.middle * Nat.pow 10 (-k).toNat := by
      nlinarith
    exact_mod_cast this
  · have : d.basin.middle * Nat.pow 10 (-k).toNat <
        (c + 1) * Nat.pow 10 k.toNat * d.basin.unit := by
      nlinarith
    exact_mod_cast this

theorem floorAt_lt (hm : 0 < d.mantissa) (n : ℕ) : d.floorAt n < 10 ^ n := by
  have hpow : (10 : ℚ) ^ (d.order + 1) = 10 ^ n * 10 ^ (d.order - n + 1) := by
    rw [← zpow_natCast, ← zpow_add₀ (by norm_num)]
    congr 1
    ring
  have hlt : d.floorAt n * (10 : ℚ) ^ (d.order - n + 1) < 10 ^ n * 10 ^ (d.order - n + 1) :=
    lt_of_le_of_lt (d.floorAt_bounds n).1 (hpow ▸ (order_bounds hm).2)
  have := lt_of_mul_lt_mul_right hlt (by positivity)
  exact_mod_cast this

/-- A decimal that the search accepts is positive, has at most `n` digits or is the next power of
ten, and lies in the basin. -/
theorem near_of_neighbour? (hm : 0 < d.mantissa) {n c : ℕ} {k : ℤ}
    (h : neighbour? d.basin d.order n = some (c, k)) :
    0 < c ∧ c ≤ 10 ^ n ∧ d.Near (c * 10 ^ k) := by
  have hlt := floorAt_lt hm n
  simp only [neighbour?_eq] at h
  have hdown : (d.basin.holds (d.floorAt n) (d.order - n + 1) && d.floorAt n != 0) = true →
      0 < d.floorAt n ∧ d.Near (d.floorAt n * 10 ^ (d.order - n + 1)) := by
    intro hb
    rw [Bool.and_eq_true, bne_iff_ne] at hb
    exact ⟨Nat.pos_of_ne_zero hb.2, (d.holds_iff _ _).mp hb.1⟩
  have hup := (d.holds_iff (d.floorAt n + 1) (d.order - n + 1)).mp
  split at h
  case h_1 hb hb' =>
    simp only [Option.some.injEq, Prod.mk.injEq] at h
    obtain ⟨hc, rfl⟩ := h
    split at hc
    · subst hc
      exact ⟨(hdown hb).1, hlt.le, (hdown hb).2⟩
    · subst hc
      exact ⟨Nat.succ_pos _, hlt, hup hb'⟩
  case h_2 hb hb' =>
    simp only [Option.some.injEq, Prod.mk.injEq] at h
    obtain ⟨rfl, rfl⟩ := h
    exact ⟨(hdown hb).1, hlt.le, (hdown hb).2⟩
  case h_3 hb hb' =>
    simp only [Option.some.injEq, Prod.mk.injEq] at h
    obtain ⟨rfl, rfl⟩ := h
    exact ⟨Nat.succ_pos _, hlt, hup hb'⟩
  case h_4 => cases h

/-- At seventeen digits one of the neighbours is in the basin: the grid there is finer than the
basin is wide. -/
theorem near_floorAt_or (hm : 0 < d.mantissa) :
    (0 < d.floorAt 17 ∧ d.Near (d.floorAt 17 * 10 ^ (d.order - (17 : ℕ) + 1))) ∨
      d.Near ((d.floorAt 17 + 1 : ℕ) * 10 ^ (d.order - (17 : ℕ) + 1)) := by
  obtain ⟨hfloor, hceil⟩ := d.floorAt_bounds 17
  have hpow : (10 : ℚ) ^ d.order = 10 ^ 16 * 10 ^ (d.order - (17 : ℕ) + 1) := by
    rw [← zpow_natCast, ← zpow_add₀ (by norm_num)]
    congr 1
    push_cast
    ring
  have hfine : 10 ^ 16 * (10 : ℚ) ^ (d.order - (17 : ℕ) + 1) ≤ d.magnitude :=
    hpow ▸ (order_bounds hm).1
  have hstep : (0 : ℚ) < 10 ^ (d.order - (17 : ℕ) + 1) := by positivity
  generalize (10 : ℚ) ^ (d.order - (17 : ℕ) + 1) = step at hfloor hceil hfine hstep ⊢
  have hpos : 0 < d.floorAt 17 := by
    rcases Nat.eq_zero_or_pos (d.floorAt 17) with h0 | hpos
    · rw [h0] at hceil
      push_cast at hceil
      linarith
    · exact hpos
  have hwide : step < d.highEnd - d.lowEnd := by
    have hbits : (d.mantissa : ℚ) ≤ 9007199254740991 := by
      exact_mod_cast Nat.le_of_lt_succ d.canonical.1
    have hu : (0 : ℚ) < 2 ^ d.exponent := by positivity
    rw [magnitude] at hfine
    rw [highEnd_eq, lowEnd_eq hm]
    generalize (2 : ℚ) ^ d.exponent = u at hfine hu ⊢
    split
    case isTrue h =>
      have hm52 : (d.mantissa : ℚ) = 4503599627370496 := by exact_mod_cast h.1
      rw [hm52] at hfine ⊢
      linarith
    case isFalse h => linarith [mul_le_mul_of_nonneg_right hbits hu.le]
  -- If the lower neighbour misses, the step to the upper one does not span the basin.
  push_cast at hceil ⊢
  rw [add_mul, one_mul] at hceil ⊢
  rcases lt_or_ge d.lowEnd (d.floorAt 17 * step) with hlow | hlow
  · have hhigh := lt_of_le_of_lt hfloor d.magnitude_lt_highEnd
    exact .inl ⟨hpos, hlow.le, hhigh.le, fun _ => ⟨hlow, hhigh⟩⟩
  · have hlow' := (lowEnd_lt_magnitude hm).trans hceil
    have hhigh' : d.floorAt 17 * step + step < d.highEnd := by linarith
    exact .inr ⟨hlow'.le, hhigh'.le, fun _ => ⟨hlow', hhigh'⟩⟩

theorem exists_neighbour? (hm : 0 < d.mantissa) : (neighbour? d.basin d.order 17).isSome := by
  simp only [neighbour?_eq]
  split
  case h_4 hdown hup =>
    rcases near_floorAt_or hm with ⟨hpos, h⟩ | h
    · rw [(d.holds_iff _ _).mpr h, Bool.true_and, bne_eq_false_iff_eq] at hdown
      omega
    · rw [(d.holds_iff _ _).mpr h] at hup
      cases hup
  all_goals rfl

/-- The search finds a decimal of at most seventeen digits in the basin. -/
theorem exists_found (hm : 0 < d.mantissa) : ∃ (c : ℕ) (k : ℤ),
    ((List.range 17).findSome? fun i => neighbour? d.basin d.order (i + 1)) = some (c, k) ∧
      0 < c ∧ c ≤ 10 ^ 17 ∧ d.Near (c * 10 ^ k) := by
  cases hfound : (List.range 17).findSome? fun i => neighbour? d.basin d.order (i + 1) with
  | none =>
    have h17 := List.findSome?_eq_none_iff.mp hfound 16 (by decide)
    have := exists_neighbour? hm
    rw [h17] at this
    cases this
  | some found =>
    obtain ⟨c, k⟩ := found
    obtain ⟨i, hi, hci⟩ := List.exists_of_findSome?_eq_some hfound
    obtain ⟨hpos, hle, hnear⟩ := near_of_neighbour? hm hci
    have hi' : i < 17 := List.mem_range.mp hi
    exact ⟨c, k, rfl, hpos, le_trans hle (Nat.pow_le_pow_right (by decide) (by omega)), hnear⟩

/-- What is written of a number that is not zero: the digits of a number of at most seventeen digits
and a power of ten, which together lie in the basin. -/
theorem shortest_spec (hm : 0 < d.mantissa) : ∃ (c : ℕ) (k : ℤ),
    d.shortest = (Nat.toDigits 10 c, k) ∧ 0 < c ∧ c ≤ 10 ^ 17 ∧ d.Near (c * 10 ^ k) := by
  obtain ⟨c, k, hfound, hpos, hle, hnear⟩ := exists_found hm
  obtain ⟨z, c', hc', hc⟩ := Nat.exists_eq_pow_mul_and_not_dvd hpos.ne' 10 (by decide)
  have hne : c' % 10 ≠ 0 := fun h => hc' (Nat.dvd_of_mod_eq_zero h)
  have hc : c = c' * 10 ^ z := by rw [hc, mul_comm]
  have hlen : ((Nat.toDigits 10 c).length - (Nat.toDigits 10 c').length : ℕ) = z := by
    rw [hc, toDigits_mul_pow (by omega), List.length_append, List.length_replicate]
    omega
  refine ⟨c', k + z, ?_, by omega, ?_, ?_⟩
  · have hkept := dropZeros_toDigits hne z
    rw [← hc] at hkept
    unfold order at hfound
    simp only [shortest, hfound, Option.getD_some, hkept, hlen]
  · have := Nat.le_mul_of_pos_right c' (Nat.pow_pos (n := z) (by decide : 0 < 10))
    omega
  · rw [hc] at hnear
    push_cast at hnear
    rw [add_comm, zpow_add₀ (by norm_num), zpow_natCast, ← mul_assoc]
    exact hnear

end Search

end Dispatch.Double
