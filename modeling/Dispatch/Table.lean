/-!
# Tables

A table maps keys to rows and remembers the order in which keys were first stored.  Its meaning is
the function `get?`, and the lemmas say what each operation does to that function.
-/

namespace Dispatch

/-- Rows under distinct keys, in the order in which the keys came. -/
structure Table (κ ν : Type) where
  entries : List (κ × ν) := []
  distinct : (entries.map (·.1)).Nodup := by simp
deriving Repr

namespace Table

variable {κ ν : Type} [DecidableEq κ]

/-- No rows. -/
def empty : Table κ ν := {}

instance : Inhabited (Table κ ν) := ⟨{}⟩

/-- The row of a key in a list of entries. -/
def lookup (key : κ) : List (κ × ν) → Option ν
  | [] => none
  | (k, v) :: rest => if k = key then some v else lookup key rest

/-- The row of a key. -/
def get? (t : Table κ ν) (key : κ) : Option ν := lookup key t.entries

/-- The entries with a row stored under a key. -/
def store (key : κ) (row : ν) : List (κ × ν) → List (κ × ν)
  | [] => [(key, row)]
  | (k, v) :: rest => if k = key then (key, row) :: rest else (k, v) :: store key row rest

/-- The keys of what is stored are those stored before and the new one. -/
theorem mem_keys_store (key other : κ) (row : ν) (es : List (κ × ν)) :
    other ∈ (store key row es).map (·.1) ↔ other = key ∨ other ∈ es.map (·.1) := by
  induction es with
  | nil => simp [store]
  | cons e rest ih =>
    obtain ⟨k, v⟩ := e
    by_cases h : k = key
    · subst h
      simp [store]
    · simp only [store, h, if_false, List.map_cons, List.mem_cons, ih]
      exact or_left_comm

theorem distinct_store (key : κ) (row : ν) {es : List (κ × ν)} (h : (es.map (·.1)).Nodup) :
    ((store key row es).map (·.1)).Nodup := by
  induction es with
  | nil => simp [store]
  | cons e rest ih =>
    obtain ⟨k, v⟩ := e
    obtain ⟨hk, hrest⟩ := List.nodup_cons.1 h
    by_cases hkey : k = key
    · subst hkey
      simpa [store] using h
    · simp only [store, hkey, if_false, List.map_cons]
      refine List.nodup_cons.2 ⟨fun hmem => ?_, ih hrest⟩
      rcases (mem_keys_store key k row rest).1 hmem with rfl | hmem
      · exact hkey rfl
      · exact hk hmem

/-- Store a row, in the place of the key's row if it has one. -/
def set (t : Table κ ν) (key : κ) (row : ν) : Table κ ν :=
  ⟨store key row t.entries, distinct_store key row t.distinct⟩

/-- Take the row of a key away. -/
def erase (t : Table κ ν) (key : κ) : Table κ ν :=
  ⟨t.entries.filter fun e => !(e.1 = key), t.distinct.sublist (List.filter_sublist.map _)⟩

/-- The rows. -/
def rows (t : Table κ ν) : List ν := t.entries.map (·.2)

@[simp]
theorem get?_empty (key : κ) : (empty : Table κ ν).get? key = none := rfl

theorem lookup_store (key other : κ) (row : ν) (es : List (κ × ν)) :
    lookup other (store key row es) = if key = other then some row else lookup other es := by
  induction es with
  | nil => rfl
  | cons e rest ih =>
    obtain ⟨k, v⟩ := e
    by_cases h : k = key
    · subst h
      by_cases ho : k = other <;> simp [store, lookup, ho]
    · by_cases ho : k = other
      · subst ho
        simp [store, lookup, h, Ne.symm h]
      · simp [store, lookup, h, ho, ih]

/-- A stored row is the row of its key, and no other key's row changes. -/
@[simp]
theorem get?_set (t : Table κ ν) (key other : κ) (row : ν) :
    (t.set key row).get? other = if key = other then some row else t.get? other :=
  lookup_store key other row t.entries

theorem lookup_erased (key other : κ) (es : List (κ × ν)) :
    lookup other (es.filter fun e => !(e.1 = key)) =
      if key = other then none else lookup other es := by
  induction es with
  | nil => simp [lookup]
  | cons e rest ih =>
    obtain ⟨k, v⟩ := e
    by_cases h : k = key
    · subst h
      by_cases ho : k = other
      · subst ho
        simpa using ih
      · simp [lookup, ho, ih]
    · by_cases ho : k = other
      · subst ho
        simp [lookup, h, Ne.symm h]
      · simp [lookup, h, ho, ih]

/-- An erased key has no row, and no other key's row changes. -/
@[simp]
theorem get?_erase (t : Table κ ν) (key other : κ) :
    (t.erase key).get? other = if key = other then none else t.get? other :=
  lookup_erased key other t.entries

theorem lookup_eq_some_iff {key : κ} {row : ν} {es : List (κ × ν)} (h : (es.map (·.1)).Nodup) :
    lookup key es = some row ↔ (key, row) ∈ es := by
  induction es with
  | nil => simp [lookup]
  | cons e rest ih =>
    obtain ⟨k, v⟩ := e
    obtain ⟨hk, hrest⟩ := List.nodup_cons.1 h
    by_cases hkey : k = key
    · subst hkey
      have hno : (k, row) ∉ rest := fun hmem => hk (List.mem_map_of_mem (f := (·.1)) hmem)
      simp [lookup, hno, eq_comm]
    · simp [lookup, hkey, Ne.symm hkey, ih hrest]

/-- The rows are the rows of the keys. -/
theorem mem_rows {t : Table κ ν} {row : ν} : row ∈ t.rows ↔ ∃ key, t.get? key = some row := by
  simp [rows, get?, lookup_eq_some_iff t.distinct]

/-- Rows that name the key they are stored under are told apart by it. -/
theorem nodup_map_rows (t : Table κ ν) (name : ν → κ)
    (h : ∀ key row, t.get? key = some row → name row = key) : (t.rows.map name).Nodup := by
  have hkeys : t.rows.map name = t.entries.map (·.1) := by
    rw [rows, List.map_map]
    refine List.map_congr_left fun e he => ?_
    exact h e.1 e.2 ((lookup_eq_some_iff t.distinct).2 he)
  rw [hkeys]
  exact t.distinct

end Table

end Dispatch
