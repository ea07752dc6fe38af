import Dispatch.Id
import Dispatch.Proofs.Number.Digits

/-!
# Names of lanes

One lane of several goes by the name of its worker, a dash and its number.  The number has no dash
in it, so the last dash of such a name tells the worker and the lane apart
(`WorkerId.lane_inj_of_several`).  The only lane of a worker goes by the worker's own name, which is
any text, also one that ends in a dash and a number.  This is the one way for two lanes to share a
name (`WorkerId.lane_eq_lane_iff`).
-/

namespace Dispatch.WorkerId

variable {v w : WorkerId} {i j m n : ℕ}

theorem lane_of_single (h : n ≤ 1) : w.lane j n = w := if_pos h

/-- The name of one lane of several ends in the lane's number, in front of which is a dash. -/
theorem toList_text_lane (h : 1 < n) :
    (w.lane j n).text.toList = w.text.toList ++ '-' :: Nat.toDigits 10 j := by
  have hname : w.lane j n = ⟨w.text ++ "-" ++ toString j⟩ := if_neg (not_le.mpr h)
  have hdigits : (toString j).toList = Nat.toDigits 10 j := Nat.toList_repr
  rw [hname, String.toList_append, String.toList_append, hdigits, List.append_assoc]
  rfl

/-- Digits at the end of a text are told from what is in front of them by a dash. -/
theorem eq_of_append_dash {cs ds es fs : List Char} (hds : ∀ c ∈ ds, c.isDigit = true)
    (hfs : ∀ c ∈ fs, c.isDigit = true) (h : cs ++ '-' :: ds = es ++ '-' :: fs) :
    cs = es ∧ ds = fs := by
  have hback : ds.reverse ++ '-' :: cs.reverse = fs.reverse ++ '-' :: es.reverse := by
    simpa using congrArg List.reverse h
  -- read from its end, the text is digits up to the dash
  have hdash : ∀ {xs : List Char}, ∀ c ∈ ('-' :: xs).head?, c.isDigit = false := by
    intro xs c hc
    cases hc
    rfl
  obtain ⟨htake, hdrop⟩ := while_append (fun c hc => hds c (List.mem_reverse.mp hc)) hdash
  obtain ⟨htake', hdrop'⟩ := while_append (fun c hc => hfs c (List.mem_reverse.mp hc)) hdash
  constructor
  · rw [hback] at hdrop
    have hfront : '-' :: cs.reverse = '-' :: es.reverse := hdrop.symm.trans hdrop'
    exact List.reverse_injective (List.tail_eq_of_cons_eq hfront)
  · rw [hback] at htake
    exact List.reverse_injective (htake.symm.trans htake')

/-- Workers with several lanes each share no name. -/
theorem lane_inj_of_several (hm : 1 < m) (hn : 1 < n) (h : v.lane i m = w.lane j n) :
    v = w ∧ i = j := by
  have htext : v.text.toList ++ '-' :: Nat.toDigits 10 i =
      w.text.toList ++ '-' :: Nat.toDigits 10 j := by
    rw [← toList_text_lane hm, h, toList_text_lane hn]
  have hdigits (k : ℕ) : ∀ c ∈ Nat.toDigits 10 k, c.isDigit = true :=
    fun c => Nat.isDigit_of_mem_toDigits (by decide) (by decide)
  obtain ⟨hworker, hlane⟩ := eq_of_append_dash (hdigits i) (hdigits j) htext
  constructor
  · obtain ⟨name⟩ := v
    obtain ⟨name'⟩ := w
    exact congrArg WorkerId.mk (String.toList_injective hworker)
  · rw [← Nat.ofDigitChars_ten_toDigits (n := i), hlane, Nat.ofDigitChars_ten_toDigits]

/-- The only lane of a worker goes by the name of one lane of several of another worker. -/
def Mimics (v : WorkerId) (m : ℕ) (w : WorkerId) (j n : ℕ) : Prop :=
  m ≤ 1 ∧ 1 < n ∧ v.text = w.text ++ "-" ++ toString j

theorem lane_eq_lane_of_mimics (h : v.Mimics m w j n) : v.lane i m = w.lane j n := by
  obtain ⟨hm, hn, hname⟩ := h
  rw [lane_of_single hm, lane, if_neg (not_le.mpr hn), ← hname]

theorem mimics_of_lane_eq_lane (hm : m ≤ 1) (hn : 1 < n) (h : v.lane i m = w.lane j n) :
    v.Mimics m w j n := by
  rw [lane_of_single hm, lane, if_neg (not_le.mpr hn)] at h
  exact ⟨hm, hn, congrArg text h⟩

/-- Two lanes share their name if and only if they are the same lane, of workers which both have
several lanes or both have one, or the worker of one has no other lane and is named after the
other. -/
theorem lane_eq_lane_iff (hi : i < m) (hj : j < n) :
    v.lane i m = w.lane j n ↔
      (v = w ∧ i = j ∧ (m ≤ 1 ↔ n ≤ 1)) ∨ v.Mimics m w j n ∨ w.Mimics n v i m := by
  constructor
  · intro h
    rcases Nat.lt_or_ge 1 m with hm | hm
    · rcases Nat.lt_or_ge 1 n with hn | hn
      · obtain ⟨hworker, hlane⟩ := lane_inj_of_several hm hn h
        exact .inl ⟨hworker, hlane, by omega⟩
      · exact .inr (.inr (mimics_of_lane_eq_lane hn hm h.symm))
    · rcases Nat.lt_or_ge 1 n with hn | hn
      · exact .inr (.inl (mimics_of_lane_eq_lane hm hn h))
      · rw [lane_of_single hm, lane_of_single hn] at h
        exact .inl ⟨h, by omega, by omega⟩
  · rintro (⟨rfl, rfl, hboth⟩ | hmimics | hmimics)
    · rcases Nat.lt_or_ge 1 m with hm | hm
      · rw [lane, lane, if_neg (by omega), if_neg (by omega)]
      · rw [lane_of_single hm, lane_of_single (hboth.mp hm)]
    · exact lane_eq_lane_of_mimics hmimics
    · exact (lane_eq_lane_of_mimics hmimics).symm

/-- Dashes and numbers in the names of workers do no harm among workers with several lanes. -/
theorem lane_ne_lane_nested :
    2 < 3 ∧ 12 < 13 ∧ (⟨"w-1"⟩ : WorkerId).lane 2 3 ≠ (⟨"w"⟩ : WorkerId).lane 12 13 := by
  refine ⟨by decide, by decide, ?_⟩
  intro h
  rcases (lane_eq_lane_iff (by decide) (by decide)).mp h with
    ⟨hworker, -⟩ | ⟨hone, -⟩ | ⟨hone, -⟩
  · exact absurd hworker (by decide)
  · exact absurd hone (by decide)
  · exact absurd hone (by decide)

/-- The only lane of one worker and the first of two lanes of another share a name. -/
theorem lane_eq_lane_single :
    0 < 1 ∧ 0 < 2 ∧ (⟨"w-0"⟩ : WorkerId) ≠ ⟨"w"⟩ ∧
      (⟨"w-0"⟩ : WorkerId).lane 0 1 = (⟨"w"⟩ : WorkerId).lane 0 2 := by
  refine ⟨by decide, by decide, by decide, rfl⟩

end Dispatch.WorkerId
