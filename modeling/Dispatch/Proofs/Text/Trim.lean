import Dispatch.Text.Blank
import Mathlib.Data.List.DropRight

/-!
# What trimming leaves

A text is another one with blanks around it (`Text.Padded`).  Trimming drops such blanks and no
others, so it leaves the inner text if that has no blanks at its own ends
(`Text.trimChars_of_padded`), and what it leaves is padded to the whole (`Text.padded_trimChars`).
Where the inner text goes on with something that may end in blanks, those are dropped as well
(`Text.trimChars_append`).
-/

namespace Dispatch.Text

variable {cs inner front back head tail : List Char}

/-- Nothing but blanks. -/
def Blanks (cs : List Char) : Prop := ∀ c ∈ cs, isBlank c = true

instance (cs : List Char) : Decidable (Blanks cs) := List.decidableBAll _ cs

/-- A text is another one with blanks around it. -/
def Padded (inner cs : List Char) : Prop :=
  ∃ front back, Blanks front ∧ Blanks back ∧ cs = front ++ inner ++ back

/-- Trimming drops the blanks at the front and then those at the back. -/
theorem trimChars_eq (cs : List Char) :
    trimChars cs = (cs.dropWhile isBlank).rdropWhile isBlank := rfl

theorem exists_blanks_front (cs : List Char) :
    ∃ front, Blanks front ∧ cs = front ++ cs.dropWhile isBlank :=
  ⟨cs.takeWhile isBlank, fun _ => List.mem_takeWhile_imp, List.takeWhile_append_dropWhile.symm⟩

theorem exists_blanks_back (cs : List Char) :
    ∃ back, Blanks back ∧ cs = cs.rdropWhile isBlank ++ back := by
  obtain ⟨front, hfront, hsplit⟩ := exists_blanks_front cs.reverse
  refine ⟨front.reverse, fun c hc => hfront c (List.mem_reverse.mp hc), ?_⟩
  unfold List.rdropWhile
  rw [← List.reverse_append, ← hsplit, List.reverse_reverse]

theorem padded_trimChars (cs : List Char) : Padded (trimChars cs) cs := by
  obtain ⟨front, hfront, hsplit⟩ := exists_blanks_front cs
  obtain ⟨back, hback, hmiddle⟩ := exists_blanks_back (cs.dropWhile isBlank)
  refine ⟨front, back, hfront, hback, ?_⟩
  rw [trimChars_eq, List.append_assoc, ← hmiddle]
  exact hsplit

/-! ## Blanks that do not matter -/

theorem trimChars_blanks_append (hfront : Blanks front) (cs : List Char) :
    trimChars (front ++ cs) = trimChars cs := by
  rw [trimChars_eq, List.dropWhile_append_of_pos hfront, ← trimChars_eq]

theorem rdropWhile_append_blanks (hback : Blanks back) (cs : List Char) :
    (cs ++ back).rdropWhile isBlank = cs.rdropWhile isBlank := by
  have hreversed : Blanks back.reverse := fun c hc => hback c (List.mem_reverse.mp hc)
  unfold List.rdropWhile
  rw [List.reverse_append, List.dropWhile_append_of_pos hreversed]

theorem trimChars_append_blanks (hback : Blanks back) (cs : List Char) :
    trimChars (cs ++ back) = trimChars cs := by
  rw [trimChars_eq, trimChars_eq, List.dropWhile_append]
  split
  case isTrue hempty =>
    -- all of it is blank
    rw [List.dropWhile_eq_nil_iff.mpr hback, List.isEmpty_iff.mp hempty]
  case isFalse => exact rdropWhile_append_blanks hback _

/-- Blanks at the end of what is trimmed may be dropped before. -/
theorem trimChars_rdropWhile (cs : List Char) :
    trimChars (cs.rdropWhile isBlank) = trimChars cs := by
  obtain ⟨back, hback, hsplit⟩ := exists_blanks_back cs
  conv_rhs => rw [hsplit]
  exact (trimChars_append_blanks hback _).symm

/-! ## What stays -/

/-- A text that starts and ends with other characters than blanks. -/
def Bare (inner : List Char) : Prop :=
  (∀ c ∈ inner.head?, isBlank c = false) ∧ ∀ c ∈ inner.getLast?, isBlank c = false

theorem bare_of_not_isBlank (h : ∀ c ∈ inner, isBlank c = false) : Bare inner :=
  ⟨fun c hc => h c (List.mem_of_mem_head? hc), fun c hc => h c (List.mem_of_mem_getLast? hc)⟩

theorem dropWhile_of_head? (h : ∀ c ∈ cs.head?, isBlank c = false) :
    cs.dropWhile isBlank = cs := by
  cases cs with
  | nil => rfl
  | cons c cs => exact List.dropWhile_cons_of_neg (by simp [h c rfl])

theorem rdropWhile_of_getLast? (h : ∀ c ∈ cs.getLast?, isBlank c = false) :
    cs.rdropWhile isBlank = cs := by
  unfold List.rdropWhile
  rw [dropWhile_of_head? (by rwa [List.head?_reverse]), List.reverse_reverse]

theorem trimChars_of_bare (h : Bare inner) : trimChars inner = inner := by
  rw [trimChars_eq, dropWhile_of_head? h.1, rdropWhile_of_getLast? h.2]

/-- Trimming leaves what stands between blanks. -/
theorem trimChars_of_padded (hbare : Bare inner) (h : Padded inner cs) : trimChars cs = inner := by
  obtain ⟨front, back, hfront, hback, rfl⟩ := h
  rw [trimChars_append_blanks hback, trimChars_blanks_append hfront, trimChars_of_bare hbare]

/-- What goes on behind something that is not blank keeps the blanks at its front. -/
theorem trimChars_append (hhead : ∀ c ∈ head, isBlank c = false) (hne : head ≠ [])
    (tail : List Char) : trimChars (head ++ tail) = head ++ tail.rdropWhile isBlank := by
  have hbare := bare_of_not_isBlank hhead
  have hstart : ∀ c ∈ (head ++ tail).head?, isBlank c = false := by
    rw [List.head?_append_of_ne_nil _ hne]
    exact hbare.1
  have hend : ∀ c ∈ head.reverse.head?, isBlank c = false := by
    rw [List.head?_reverse]
    exact hbare.2
  rw [trimChars_eq, dropWhile_of_head? hstart]
  unfold List.rdropWhile
  rw [List.reverse_append, List.dropWhile_append, dropWhile_of_head? hend]
  split
  case isTrue hempty =>
    rw [List.isEmpty_iff.mp hempty, List.reverse_reverse, List.reverse_nil, List.append_nil]
  case isFalse => rw [List.reverse_append, List.reverse_reverse]

end Dispatch.Text
