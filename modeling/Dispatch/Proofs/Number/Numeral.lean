import Dispatch.Number.Numeral
import Dispatch.Proofs.Number.Digits
import Mathlib.Tactic.SplitIfs

/-!
# What numerals are read as

A numeral is a text of at least one digit, and what it denotes is the number with these digits
(`Numeral.Denotes`).  Reading one digit after the other accepts just the numerals below the bound
(`Numeral.read_eq_ok_iff`): a numeral that has outgrown the bound does not come back below it with
more digits.
-/

namespace Dispatch.Numeral

variable {bound n soFar : ℕ} {c : Char} {cs : List Char}

/-- A text of at least one digit denotes the number with these digits. -/
def Denotes (cs : List Char) (n : ℕ) : Prop :=
  cs ≠ [] ∧ (∀ c ∈ cs, c.isDigit = true) ∧ Nat.ofDigitChars 10 cs 0 = n

/-- A numeral that may carry a plus sign. -/
def DenotesSigned (cs : List Char) (n : ℕ) : Prop :=
  ∃ digits, (cs = digits ∨ cs = '+' :: digits) ∧ Denotes digits n

/-- The sign is not a digit. -/
theorem not_denotes_plus (digits : List Char) : ¬Denotes ('+' :: digits) n := by
  rintro ⟨-, hdigits, -⟩
  have hplus : '+'.isDigit = true := hdigits '+' List.mem_cons_self
  cases hplus

theorem denotesSigned_plus {digits : List Char} :
    DenotesSigned ('+' :: digits) n ↔ Denotes digits n := by
  constructor
  · rintro ⟨_, rfl | heq, hdigits⟩
    · cases not_denotes_plus _ hdigits
    · cases heq
      exact hdigits
  · intro hdigits
    exact ⟨digits, .inr rfl, hdigits⟩

theorem denotesSigned_of_ne_plus (hcs : ∀ digits, cs ≠ '+' :: digits) :
    DenotesSigned cs n ↔ Denotes cs n := by
  constructor
  · rintro ⟨_, rfl | heq, hdigits⟩
    · exact hdigits
    · cases hcs _ heq
  · intro hdigits
    exact ⟨cs, .inl rfl, hdigits⟩

/-! ## Reading -/

theorem digit?_eq (c : Char) :
    digit? c = if c.isDigit then some (c.toNat - '0'.toNat) else none := by
  have hrange : ('0' ≤ c ∧ c ≤ '9') ↔ c.isDigit = true := by
    simp only [Char.isDigit, Bool.and_eq_true, decide_eq_true_eq]
    exact Iff.rfl
  simp only [digit?, hrange]

/-- The digits that follow `soFar` are read as the numeral that they continue. -/
theorem readFrom_eq_ok_iff (hle : soFar ≤ bound) :
    readFrom bound soFar cs = .ok n ↔
      (∀ c ∈ cs, c.isDigit = true) ∧ Nat.ofDigitChars 10 cs soFar = n ∧ n ≤ bound := by
  induction cs generalizing soFar with
  | nil =>
    simp only [readFrom, Except.ok.injEq, List.not_mem_nil, false_implies, implies_true, true_and,
      Nat.ofDigitChars_nil]
    constructor
    · rintro rfl
      exact ⟨rfl, hle⟩
    · exact And.left
  | cons c cs ih =>
    rw [readFrom, digit?_eq, Nat.ofDigitChars_cons, List.forall_mem_cons]
    split_ifs with hc
    · simp only [hc, true_and]
      rw [mul_comm 10 soFar]
      split_ifs with hbig
      · -- what is too large already only grows
        have hgrows := le_ofDigitChars cs (soFar * 10 + (c.toNat - '0'.toNat))
        constructor
        · intro h
          cases h
        · rintro ⟨-, rfl, hn⟩
          omega
      · exact ih (not_lt.mp hbig)
    · simp [hc]

theorem readDigits_eq_ok_iff : readDigits bound cs = .ok n ↔ Denotes cs n ∧ n ≤ bound := by
  cases cs with
  | nil =>
    constructor
    · intro h
      cases h
    · rintro ⟨⟨hne, -⟩, -⟩
      cases hne rfl
  | cons c cs =>
    show readFrom bound 0 (c :: cs) = .ok n ↔ _
    rw [readFrom_eq_ok_iff (Nat.zero_le bound), Denotes, and_assoc, and_assoc,
      and_iff_right (List.cons_ne_nil c cs)]

/-- The numerals up to the bound are read as what they denote, and nothing else is read. -/
theorem read_eq_ok_iff : read bound cs = .ok n ↔ DenotesSigned cs n ∧ n ≤ bound := by
  unfold read
  split
  · rw [denotesSigned_plus, ← readDigits_eq_ok_iff]
    constructor <;> intro h <;> cases h
  · rw [denotesSigned_plus, readDigits_eq_ok_iff]
  · rename_i hplus
    rw [denotesSigned_of_ne_plus hplus, readDigits_eq_ok_iff]

end Dispatch.Numeral
