import Mathlib.Data.List.Basic
import Mathlib.Data.List.Nodup

/-!
# Lists

What runs need of lists: the numbers from one up, in which attempts and events are counted, where
an element of a list stands to the last one, and a list around one of its places.
-/

namespace Dispatch

/-- The numbers from one up to `n`, in order. -/
def countedTo (n : Nat) : List Int := (List.range n).map fun k : Nat => (k : Int) + 1

@[simp]
theorem mem_countedTo {n : Nat} {k : Int} : k ∈ countedTo n ↔ 1 ≤ k ∧ k ≤ n := by
  simp only [countedTo, List.mem_map, List.mem_range]
  constructor
  · rintro ⟨i, hi, rfl⟩
    omega
  · intro hk
    exact ⟨(k - 1).toNat, by omega, by omega⟩

@[simp]
theorem length_countedTo (n : Nat) : (countedTo n).length = n := by
  simp [countedTo]

theorem countedTo_succ (n : Nat) : countedTo (n + 1) = countedTo n ++ [(n : Int) + 1] := by
  simp [countedTo, List.range_succ]

theorem pairwise_countedTo (n : Nat) : (countedTo n).Pairwise (· < ·) :=
  List.pairwise_map.2 (List.pairwise_lt_range.imp fun hlt => by omega)

/-- A strictly increasing list of the numbers from one up to `n` is the list of them. -/
theorem eq_countedTo {l : List Int} {n : Nat} (sorted : l.Pairwise (· < ·))
    (members : ∀ k, k ∈ l ↔ 1 ≤ k ∧ k ≤ n) : l = countedTo n := by
  have hcounted := pairwise_countedTo n
  refine List.Perm.eq_of_pairwise (fun _ _ _ _ => Int.le_antisymm) (sorted.imp Int.le_of_lt)
    (hcounted.imp Int.le_of_lt) ?_
  refine (List.perm_ext_iff_of_nodup (sorted.imp Int.ne_of_lt)
    (hcounted.imp Int.ne_of_lt)).2 fun k => ?_
  rw [members, mem_countedTo]

/-- Where an element of a list with a last element stands: it is the last one, or it is among the
others. -/
theorem append_cons_eq_snoc {α : Type} {front back init : List α} {a last : α} :
    front ++ a :: back = init ++ [last] ↔
      (front = init ∧ a = last ∧ back = []) ∨
        ∃ mid, back = mid ++ [last] ∧ init = front ++ a :: mid := by
  constructor
  · intro h
    rcases List.eq_nil_or_concat back with rfl | ⟨mid, x, rfl⟩
    · obtain ⟨hfront, hlast⟩ := List.append_inj' h rfl
      exact .inl ⟨hfront, List.singleton_inj.1 hlast, rfl⟩
    · have h' : (front ++ a :: mid) ++ [x] = init ++ [last] := by simpa using h
      obtain ⟨hinit, hlast⟩ := List.append_inj' h' rfl
      rw [List.singleton_inj.1 hlast]
      exact .inr ⟨mid, by simp, hinit.symm⟩
  · rintro (⟨rfl, rfl, rfl⟩ | ⟨mid, rfl, rfl⟩) <;> simp

/-- A list around one of its places, at which another element could stand. -/
theorem exists_around {α : Type} {l : List α} {i : Nat} {a : α} (h : l[i]? = some a) :
    ∃ front back, l = front ++ a :: back ∧ ∀ b, l.set i b = front ++ b :: back := by
  obtain ⟨hi, ha⟩ := List.getElem?_eq_some_iff.1 h
  refine ⟨l.take i, l.drop (i + 1), ?_, fun b => ?_⟩
  · rw [← ha, ← List.drop_eq_getElem_cons hi, List.take_append_drop]
  · rw [List.set_eq_take_append_cons_drop, if_pos hi]

/-- Two elements in their order, somewhere in a list. -/
theorem exists_of_pair_sublist {α : Type} {l : List α} {a b : α} (h : [a, b].Sublist l) :
    ∃ front mid back, l = front ++ a :: (mid ++ b :: back) := by
  obtain ⟨l₁, l₂, rfl, ha, hb⟩ := List.cons_sublist_iff.1 h
  obtain ⟨front, mid, rfl⟩ := List.append_of_mem ha
  obtain ⟨mid', back, rfl⟩ := List.append_of_mem (List.singleton_sublist.1 hb)
  exact ⟨front, mid ++ mid', back, by simp⟩

/-- What is in some order after a change was in that order before. -/
theorem exists_perm_of_perm_map {α β : Type} {f : α → β} {l : List β} {k : List α}
    (h : l.Perm (k.map f)) : ∃ k' : List α, k'.Perm k ∧ l = k'.map f := by
  generalize hk : k.map f = mapped at h
  induction h generalizing k with
  | nil => exact ⟨[], (List.map_eq_nil_iff.1 hk) ▸ .refl _, rfl⟩
  | cons b _ ih =>
    obtain ⟨a, rest, rfl, rfl, hrest⟩ := List.map_eq_cons_iff.1 hk
    obtain ⟨k', hperm, rfl⟩ := ih hrest
    exact ⟨a :: k', hperm.cons a, rfl⟩
  | swap b c l =>
    obtain ⟨a, rest, rfl, rfl, hrest⟩ := List.map_eq_cons_iff.1 hk
    obtain ⟨a', rest, rfl, rfl, rfl⟩ := List.map_eq_cons_iff.1 hrest
    exact ⟨a' :: a :: rest, .swap a a' rest, rfl⟩
  | trans _ _ ihfirst ihsecond =>
    obtain ⟨k', hperm, hk'⟩ := ihsecond hk
    obtain ⟨k'', hperm', rfl⟩ := ihfirst hk'.symm
    exact ⟨k'', hperm'.trans hperm, rfl⟩

end Dispatch
