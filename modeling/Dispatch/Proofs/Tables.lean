import Dispatch.Table

/-!
# The rows of a table in their order

A write under a key replaces the key's row where it stands, or adds a row behind the others.  Where
rows carry the key they stand under, this is a statement about rows alone (`rows_set_of_some`,
`rows_set_of_none`), and the row of a key is the only one that carries it (`filter_rows`).
-/

namespace Dispatch.Table

variable {κ ν : Type} [DecidableEq κ] {t : Table κ ν} {name : ν → κ} {key : κ} {row old : ν}

theorem lookup_eq_none_iff {es : List (κ × ν)} : lookup key es = none ↔ key ∉ es.map (·.1) := by
  induction es with
  | nil => simp [lookup]
  | cons e rest ih =>
    obtain ⟨k, v⟩ := e
    by_cases h : k = key
    · simp [lookup, h]
    · simp only [lookup, h, if_false, ih, List.map_cons, List.mem_cons, not_or]
      exact ⟨fun hrest => ⟨Ne.symm h, hrest⟩, And.right⟩

theorem store_of_mem {es : List (κ × ν)} (distinct : (es.map (·.1)).Nodup)
    (h : key ∈ es.map (·.1)) :
    (store key row es).map (·.2) = es.map fun e => if e.1 = key then row else e.2 := by
  induction es with
  | nil => cases h
  | cons e rest ih =>
    obtain ⟨k, v⟩ := e
    obtain ⟨hk, hrest⟩ := List.nodup_cons.1 distinct
    by_cases hkey : k = key
    · subst hkey
      have hothers : ∀ e ∈ rest, e.1 ≠ k := fun e he heq =>
        hk (heq ▸ List.mem_map_of_mem (f := (·.1)) he)
      simp only [store, if_true, List.map_cons, List.cons.injEq, true_and]
      exact List.map_congr_left fun e he => (if_neg (hothers e he)).symm
    · simp only [store, hkey, if_false, List.map_cons, List.cons.injEq, true_and]
      exact ih hrest ((List.mem_cons.1 h).resolve_left fun he => hkey he.symm)

theorem store_of_not_mem {es : List (κ × ν)} (h : key ∉ es.map (·.1)) :
    (store key row es).map (·.2) = es.map (·.2) ++ [row] := by
  induction es with
  | nil => rfl
  | cons e rest ih =>
    obtain ⟨k, v⟩ := e
    rw [List.map_cons, List.mem_cons, not_or] at h
    simp [store, Ne.symm h.1, ih h.2]

/-- A row under a new key comes behind the others. -/
theorem rows_set_of_none (h : t.get? key = none) (row : ν) :
    (t.set key row).rows = t.rows ++ [row] :=
  store_of_not_mem (lookup_eq_none_iff.1 h)

/-- A row under a key that has one takes its place. -/
theorem rows_set_of_some (filed : ∀ k v, t.get? k = some v → name v = k)
    (h : t.get? key = some old) (row : ν) :
    (t.set key row).rows = t.rows.map fun v => if name v = key then row else v := by
  have hmem : key ∈ t.entries.map (·.1) :=
    Decidable.byContradiction fun hno => by cases (lookup_eq_none_iff.2 hno).symm.trans h
  rw [rows, rows, List.map_map]
  refine (store_of_mem t.distinct hmem).trans (List.map_congr_left fun e he => ?_)
  have hname : name e.2 = e.1 := filed e.1 e.2 ((lookup_eq_some_iff t.distinct).2 he)
  rw [Function.comp_apply, hname]

/-- A key has one row. -/
theorem eq_of_name (filed : ∀ k v, t.get? k = some v → name v = k) (h : t.get? key = some old)
    (hrow : row ∈ t.rows) (hname : name row = key) : row = old := by
  obtain ⟨k, hk⟩ := mem_rows.1 hrow
  rw [← filed k row hk, hname, h] at hk
  exact (Option.some.inj hk).symm

/-- The row of a key is changed where it stands. -/
theorem rows_set_amended (filed : ∀ k v, t.get? k = some v → name v = k)
    (h : t.get? key = some old) (change : ν → ν) :
    (t.set key (change old)).rows = t.rows.map fun v => if name v = key then change v else v := by
  refine (rows_set_of_some filed h (change old)).trans (List.map_congr_left fun v hv => ?_)
  by_cases hname : name v = key
  · rw [eq_of_name filed h hv hname]
  · rw [if_neg hname, if_neg hname]

theorem filter_entries {es : List (κ × ν)} (distinct : (es.map (·.1)).Nodup) :
    (es.filter fun e => e.1 = key).map (·.2) = (lookup key es).toList := by
  induction es with
  | nil => rfl
  | cons e rest ih =>
    obtain ⟨k, v⟩ := e
    obtain ⟨hk, hrest⟩ := List.nodup_cons.1 distinct
    by_cases hkey : k = key
    · subst hkey
      have hnone : lookup k rest = none := lookup_eq_none_iff.2 hk
      simp [lookup, ih hrest, hnone]
    · simp [lookup, hkey, ih hrest]

/-- The rows that carry a key are the row of the key. -/
theorem filter_rows (filed : ∀ k v, t.get? k = some v → name v = k) (key : κ) :
    t.rows.filter (fun v => name v = key) = (t.get? key).toList := by
  have hnames : ∀ e ∈ t.entries, decide (name e.2 = key) = decide (e.1 = key) := fun e he => by
    rw [filed e.1 e.2 ((lookup_eq_some_iff t.distinct).2 he)]
  rw [rows, List.filter_map, Function.comp_def, List.filter_congr hnames]
  exact filter_entries t.distinct

end Dispatch.Table
