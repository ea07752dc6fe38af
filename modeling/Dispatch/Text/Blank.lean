/-!
# Blank characters

Names, keys and settings are compared after the blanks around them are dropped.  A blank is a
character with the Unicode property `White_Space`; the zero-width space and the byte order mark
do not have it.  Core's `Char.isWhitespace` knows six of the twenty-five blanks, and
`isBlank_of_isWhitespace` says that it knows no others.
-/

namespace Dispatch.Text

/-- The characters with the property `White_Space`. -/
def isBlank (c : Char) : Bool :=
  let n := c.toNat
  (0x09 ≤ n && n ≤ 0x0D) || n == 0x20 || n == 0x85 || n == 0xA0 || n == 0x1680 ||
    (0x2000 ≤ n && n ≤ 0x200A) || n == 0x2028 || n == 0x2029 || n == 0x202F ||
    n == 0x205F || n == 0x3000

/-- Drop the blanks at both ends. -/
def trimChars (cs : List Char) : List Char :=
  ((cs.dropWhile isBlank).reverse.dropWhile isBlank).reverse

/-- A text without the blanks at its two ends. -/
def trim (s : String) : String :=
  String.ofList (trimChars s.toList)

/-- Nothing but blanks; the empty text included. -/
def allBlank (s : String) : Bool :=
  s.toList.all isBlank

theorem isBlank_of_isWhitespace {c : Char} (h : c.isWhitespace = true) : isBlank c = true := by
  simp only [Char.isWhitespace, Bool.or_eq_true, decide_eq_true_eq] at h
  rcases h with ((h | h) | h) | h <;> subst h <;> decide

/-- What trimming keeps does not start with a blank. -/
theorem head_trimChars {c : Char} {cs rest : List Char} (h : trimChars cs = c :: rest) :
    isBlank c = false := by
  have key : ∀ (l : List Char), (l.reverse.dropWhile isBlank).reverse = c :: rest →
      l.head? = some c := by
    intro l hl
    obtain ⟨dropped, hd⟩ : ∃ t, l = (l.reverse.dropWhile isBlank).reverse ++ t := by
      refine ⟨(l.reverse.takeWhile isBlank).reverse, ?_⟩
      rw [← List.reverse_append, List.takeWhile_append_dropWhile, List.reverse_reverse]
    rw [hd, hl]
    rfl
  have hhead := key _ h
  cases hw : cs.dropWhile isBlank with
  | nil => simp [hw] at hhead
  | cons d tail =>
    rw [hw] at hhead
    have hd : d = c := by simpa using hhead
    have := List.head?_dropWhile_not isBlank cs
    rw [hw] at this
    simpa [hd] using this

end Dispatch.Text
