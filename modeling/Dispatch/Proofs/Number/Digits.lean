import Dispatch.Json.Reader
import Mathlib.Algebra.Order.Ring.Nat
import Mathlib.Data.Nat.Multiplicity
import Mathlib.Tactic.Linarith
import Mathlib.Tactic.Ring

/-!
# Decimal digits

What the digits of a number are like, and that collecting them gives the number back as long as it
fits into a word.
-/

namespace Dispatch

/-! ## The digits of a number -/

theorem toDigits_length_bounds {n : ℕ} (hn : 0 < n) :
    10 ^ ((Nat.toDigits 10 n).length - 1) ≤ n ∧ n < 10 ^ (Nat.toDigits 10 n).length := by
  have hpos : 0 < (Nat.toDigits 10 n).length := Nat.length_toDigits_pos
  refine ⟨?_, (Nat.length_toDigits_le_iff (by decide) hpos).mp le_rfl⟩
  rcases Nat.eq_zero_or_pos ((Nat.toDigits 10 n).length - 1) with h | h
  · rw [h, pow_zero]
    exact hn
  · by_contra hlt
    have := (Nat.length_toDigits_le_iff (by decide) h).mpr (not_le.mp hlt)
    omega

/-- The digits of a positive number do not start with a zero. -/
theorem head?_toDigits {n : ℕ} (hn : 0 < n) : (Nat.toDigits 10 n).head? ≠ some '0' := by
  induction n using Nat.strong_induction_on with
  | h n ih =>
    rw [Nat.toDigits_eq_if (by decide)]
    split
    · simp only [List.head?_cons, ne_eq, Option.some.injEq, Nat.digitChar_eq_zero]
      omega
    · rw [List.head?_append_of_ne_nil _ Nat.toDigits_ne_nil]
      exact ih (n / 10) (by omega) (by omega)

theorem toDigits_mul_pow {c : ℕ} (hc : 0 < c) (z : ℕ) :
    Nat.toDigits 10 (c * 10 ^ z) = Nat.toDigits 10 c ++ List.replicate z '0' := by
  induction z with
  | zero => simp
  | succ z ih =>
    have hpos : 0 < c * 10 ^ z := Nat.mul_pos hc (Nat.pow_pos (by decide))
    have happ := Nat.toDigits_append_toDigits (b := 10) (d := 0) (by decide) hpos (by decide)
    rw [Nat.toDigits_zero, ih, add_zero, List.append_assoc, ← List.replicate_succ'] at happ
    rw [happ]
    congr 1
    ring

/-- The zeros at the end of a number's digits are its factors of ten. -/
theorem dropZeros_toDigits {c : ℕ} (hc : c % 10 ≠ 0) (z : ℕ) :
    ((Nat.toDigits 10 (c * 10 ^ z)).reverse.dropWhile (· = '0')).reverse = Nat.toDigits 10 c := by
  have hlast : ∃ front, Nat.toDigits 10 c = front ++ [Nat.digitChar (c % 10)] := by
    rw [Nat.toDigits_eq_if (by decide)]
    split
    case isTrue h => exact ⟨[], by rw [Nat.mod_eq_of_lt h, List.nil_append]⟩
    case isFalse h => exact ⟨_, rfl⟩
  obtain ⟨front, hfront⟩ := hlast
  have hzero : ¬Nat.digitChar (c % 10) = '0' := by rwa [Nat.digitChar_eq_zero]
  rw [toDigits_mul_pow (by omega), List.reverse_append, List.reverse_replicate,
    List.dropWhile_append_of_pos (fun a ha => by simp [List.eq_of_mem_replicate ha]), hfront,
    List.reverse_append, List.reverse_singleton, List.singleton_append,
    List.dropWhile_cons_of_neg (by simpa using hzero), List.reverse_cons, List.reverse_reverse]

/-! ## Collecting digits -/

theorem le_ofDigitChars (ds : List Char) (n : ℕ) : n ≤ Nat.ofDigitChars 10 ds n := by
  rw [Nat.ofDigitChars_eq_ofDigitChars_zero]
  have : 0 < 10 ^ ds.length := Nat.pow_pos (by decide)
  nlinarith

namespace Decimal

theorem push?_eq {d : Decimal} {c : Char} {ds : List Char}
    (h : Nat.ofDigitChars 10 (c :: ds) d.significand ≤ Numeral.maxWord) :
    d.push? c = some (10 * d.significand + (c.toNat - '0'.toNat)) := by
  rw [Nat.ofDigitChars_cons] at h
  have := le_ofDigitChars ds (10 * d.significand + (c.toNat - '0'.toNat))
  rw [push?, mul_comm, if_pos (by omega)]

theorem pushWhole_cons (d : Decimal) (c : Char) (ds : List Char) :
    d.pushWhole (c :: ds) = match d.push? c with
      | some significand => { d with significand }.pushWhole ds
      | none => { d with exponent := d.exponent + (ds.length + 1) } := by
  rfl

theorem pushFraction_cons (d : Decimal) (c : Char) (ds : List Char) :
    d.pushFraction (c :: ds) = match d.push? c with
      | some significand => Decimal.pushFraction ⟨significand, d.exponent - 1⟩ ds
      | none => d := by
  rfl

theorem pushWhole_eq : ∀ (ds : List Char) (d : Decimal),
    Nat.ofDigitChars 10 ds d.significand ≤ Numeral.maxWord →
      d.pushWhole ds = { d with significand := Nat.ofDigitChars 10 ds d.significand }
  | [], _, _ => rfl
  | c :: ds, d, h => by
    rw [pushWhole_cons, push?_eq h, Nat.ofDigitChars_cons]
    rw [Nat.ofDigitChars_cons] at h
    exact pushWhole_eq ds _ h

theorem pushFraction_eq : ∀ (ds : List Char) (d : Decimal),
    Nat.ofDigitChars 10 ds d.significand ≤ Numeral.maxWord →
      d.pushFraction ds = ⟨Nat.ofDigitChars 10 ds d.significand, d.exponent - ds.length⟩
  | [], d, _ => by
    rw [Nat.ofDigitChars_nil, List.length_nil, Nat.cast_zero, sub_zero]
    rfl
  | c :: ds, d, h => by
    rw [pushFraction_cons, push?_eq h, Nat.ofDigitChars_cons]
    rw [Nat.ofDigitChars_cons] at h
    refine (pushFraction_eq ds ⟨_, d.exponent - 1⟩ h).trans ?_
    rw [List.length_cons]
    congr 1
    push_cast
    ring

end Decimal

/-! ## Digits at the front of a text -/

/-- What stops where it should is taken and dropped as a whole. -/
theorem while_append {p : Char → Bool} {cs rest : List Char} (h : ∀ c ∈ cs, p c = true)
    (hrest : ∀ c ∈ rest.head?, p c = false) :
    (cs ++ rest).takeWhile p = cs ∧ (cs ++ rest).dropWhile p = rest := by
  rw [List.takeWhile_append_of_pos h, List.dropWhile_append_of_pos h]
  cases rest with
  | nil => exact ⟨List.append_nil cs, rfl⟩
  | cons c rest =>
    have hc : ¬p c = true := by simp [hrest c rfl]
    rw [List.takeWhile_cons_of_neg hc, List.dropWhile_cons_of_neg hc, List.append_nil]
    exact ⟨rfl, rfl⟩

namespace Json.Reader

/-- Nothing but decimal digits. -/
def AllDigits (cs : List Char) : Prop := ∀ c ∈ cs, isDigit c = true

/-- The text does not start with a digit. -/
def StopsDigits (cs : List Char) : Prop := ∀ c ∈ cs.head?, isDigit c = false

theorem isDigit_eq (c : Char) : isDigit c = c.isDigit := rfl

theorem allDigits_nil : AllDigits [] := fun _ h => absurd h List.not_mem_nil

theorem allDigits_zero : AllDigits ['0'] := fun _ h => List.mem_singleton.mp h ▸ rfl

theorem allDigits_toDigits (n : ℕ) : AllDigits (Nat.toDigits 10 n) := by
  intro c hc
  rw [isDigit_eq]
  exact Nat.isDigit_of_mem_toDigits (by decide) (by decide) hc

theorem AllDigits.append {cs ds : List Char} (h : AllDigits cs) (h' : AllDigits ds) :
    AllDigits (cs ++ ds) := by
  intro c hc
  rcases List.mem_append.mp hc with hc | hc
  · exact h c hc
  · exact h' c hc

theorem allDigits_replicate (n : ℕ) : AllDigits (List.replicate n '0') := by
  intro c hc
  rw [List.eq_of_mem_replicate hc]
  decide

theorem digits_append {ds rest : List Char} (h : AllDigits ds) (hrest : StopsDigits rest) :
    digits (ds ++ rest) = (ds, rest) := by
  obtain ⟨htake, hdrop⟩ := while_append h hrest
  rw [digits, htake, hdrop]

theorem natOf_eq (ds : List Char) : natOf ds = Nat.ofDigitChars 10 ds 0 := by
  rw [natOf, Nat.ofDigitChars_eq_foldl]
  congr 1
  funext n c
  rw [mul_comm]
  rfl

theorem natOf_toDigits (n : ℕ) : natOf (Nat.toDigits 10 n) = n := by
  rw [natOf_eq, Nat.ofDigitChars_toDigits (by decide) (by decide)]

end Json.Reader

end Dispatch
