import Mathlib.Data.List.Forall2
import Mathlib.Tactic.SplitIfs

/-!
# Words in any case

Letters of ASCII have two cases.  A text spells a word in lower case if each character is that of
the word or its capital (`Text.Spells`), which is what putting the text into lower case comes to.
-/

namespace Dispatch.Text

theorem toNat_toLower (c : Char) :
    c.toLower.toNat = if 65 ≤ c.toNat ∧ c.toNat ≤ 90 then c.toNat + 32 else c.toNat := by
  have hcond : (c.val ≥ 'A'.val ∧ c.val ≤ 'Z'.val) ↔ (65 ≤ c.toNat ∧ c.toNat ≤ 90) := Iff.rfl
  unfold Char.toLower
  split_ifs with h h' h'
  · show (c.val + ('a'.val - 'A'.val)).toNat = c.toNat + 32
    have hval : c.val.toNat = c.toNat := rfl
    rw [UInt32.toNat_add, hval, show ('a'.val - 'A'.val).toNat = 32 from rfl]
    omega
  · exact absurd (hcond.1 h) h'
  · exact absurd (hcond.2 h') h
  · rfl

theorem toNat_toUpper (c : Char) :
    c.toUpper.toNat = if 97 ≤ c.toNat ∧ c.toNat ≤ 122 then c.toNat - 32 else c.toNat := by
  have hcond : ('a'.val ≤ c.val ∧ c.val ≤ 'z'.val) ↔ (97 ≤ c.toNat ∧ c.toNat ≤ 122) := Iff.rfl
  unfold Char.toUpper
  split_ifs with h h' h'
  · show (c.val + ('A'.val - 'a'.val)).toNat = c.toNat - 32
    have hval : c.val.toNat = c.toNat := rfl
    rw [UInt32.toNat_add, hval, show ('A'.val - 'a'.val).toNat = 4294967264 from rfl]
    omega
  · exact absurd (hcond.1 h) h'
  · exact absurd (hcond.2 h') h
  · rfl

/-- A character that is no capital is the lower case of itself and of its capital. -/
theorem toLower_eq_iff {w c : Char} (hw : w.isUpper = false) :
    c.toLower = w ↔ c = w ∨ c = w.toUpper := by
  have hw : ¬(65 ≤ w.toNat ∧ w.toNat ≤ 90) := of_decide_eq_false hw
  simp only [← Char.toNat_inj, toNat_toLower, toNat_toUpper]
  split_ifs <;> omega

/-- The characters of a word, any of them as a capital. -/
def Spells (word cs : List Char) : Prop :=
  List.Forall₂ (fun w c => c = w ∨ c = w.toUpper) word cs

instance (word cs : List Char) : Decidable (Spells word cs) :=
  inferInstanceAs (Decidable (List.Forall₂ _ word cs))

theorem spells_self (word : List Char) : Spells word word :=
  List.forall₂_same.mpr fun _ _ => .inl rfl

theorem exists_of_spells {word cs : List Char} (h : Spells word cs) {c : Char} (hc : c ∈ cs) :
    ∃ w ∈ word, c = w ∨ c = w.toUpper := by
  induction h with
  | nil => cases hc
  | cons head _ ih =>
    rcases List.mem_cons.mp hc with rfl | hc
    · exact ⟨_, List.mem_cons_self, head⟩
    · obtain ⟨w, hw, hor⟩ := ih hc
      exact ⟨w, List.mem_cons_of_mem _ hw, hor⟩

theorem spells_concat {word cs : List Char} {w c : Char} :
    Spells (word ++ [w]) (cs ++ [c]) ↔ Spells word cs ∧ (c = w ∨ c = w.toUpper) := by
  unfold Spells
  rw [← List.forall₂_reverse_iff, List.reverse_append, List.reverse_append, List.reverse_singleton,
    List.reverse_singleton, List.singleton_append, List.singleton_append, List.forall₂_cons,
    List.forall₂_reverse_iff]
  exact and_comm

theorem map_toLower_eq_iff {word cs : List Char}
    (hword : ∀ w ∈ word, w.isUpper = false) :
    cs.map Char.toLower = word ↔ Spells word cs := by
  induction cs generalizing word with
  | nil =>
    cases word with
    | nil => exact ⟨fun _ => .nil, fun _ => rfl⟩
    | cons w word =>
      constructor <;> intro h <;> cases h
  | cons c cs ih =>
    cases word with
    | nil => constructor <;> intro h <;> cases h
    | cons w word =>
      obtain ⟨hw, hrest⟩ := List.forall_mem_cons.1 hword
      rw [List.map_cons, List.cons.injEq, toLower_eq_iff hw, ih hrest, Spells, Spells,
        List.forall₂_cons]

end Dispatch.Text
