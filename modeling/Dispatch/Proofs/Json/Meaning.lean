import Dispatch.Proofs.Json.Reading

/-!
# What a written value means

A document that was written of a value denotes the value again exactly if its containers nest no
deeper than there is room and each of its binary64 numbers is read as itself (`value?_docBy`).
-/

namespace Dispatch.Json

mutual

/-- How deep the containers of a value nest. -/
def depth : Json → ℕ
  | .arr items => depthItems items + 1
  | .obj members => depthMembers members + 1
  | _ => 0

/-- How deep the containers of the items nest. -/
def depthItems : List Json → ℕ
  | [] => 0
  | item :: rest => max item.depth (depthItems rest)

/-- How deep the containers of the members nest. -/
def depthMembers : List (String × Json) → ℕ
  | [] => 0
  | (_, value) :: rest => max value.depth (depthMembers rest)

end

mutual

/-- The binary64 numbers in a value. -/
def floats : Json → List Double
  | .float d => [d]
  | .arr items => floatsItems items
  | .obj members => floatsMembers members
  | _ => []

/-- The binary64 numbers in the items. -/
def floatsItems : List Json → List Double
  | [] => []
  | item :: rest => item.floats ++ floatsItems rest

/-- The binary64 numbers in the members. -/
def floatsMembers : List (String × Json) → List Double
  | [] => []
  | (_, value) :: rest => value.floats ++ floatsMembers rest

end

/-- Every number of the list is read as itself. -/
def Reads (read : Double → Option Double) (ds : List Double) : Prop := ∀ d ∈ ds, read d = some d

theorem reads_append {read : Double → Option Double} {ds es : List Double} :
    Reads read (ds ++ es) ↔ Reads read ds ∧ Reads read es := by
  simp only [Reads, List.mem_append, or_imp, forall_and]

theorem reads_cons {read : Double → Option Double} {d : Double} {ds : List Double} :
    Reads read (d :: ds) ↔ read d = some d ∧ Reads read ds := List.forall_mem_cons

@[simp]
theorem reads_nil (read : Double → Option Double) : Reads read [] := by simp [Reads]

/-- The value is kept through writing and reading: its containers nest no deeper than there is room,
and each of its binary64 numbers is read as itself. -/
def Kept (read : Double → Option Double) (room : ℕ) (j : Json) : Prop :=
  j.depth ≤ room ∧ Reads read j.floats

theorem kept_leaf {read : Double → Option Double} {room : ℕ} {j : Json} (hdepth : j.depth = 0)
    (hfloats : j.floats = []) : j.Kept read room :=
  ⟨hdepth ▸ room.zero_le, hfloats ▸ reads_nil read⟩

/-! ## Members are collected in order -/

section Members

theorem setMember_new {members : List (String × Json)} {name : String}
    (h : name ∉ members.map (·.1)) (value : Json) :
    Doc.setMember members name value = members ++ [(name, value)] := by
  rw [Doc.setMember, if_neg]
  simpa using h

/-- Names that are new stay new when another one is added. -/
theorem new_of_append {members soFar : List (String × Json)} {name : String}
    (hnew : ∀ n ∈ members.map (·.1), n ∉ soFar.map (·.1)) (hname : name ∉ members.map (·.1))
    (value : Json) : ∀ n ∈ members.map (·.1), n ∉ (soFar ++ [(name, value)]).map (·.1) := by
  intro n hn
  rw [List.map_append, List.mem_append, not_or]
  refine ⟨hnew n hn, ?_⟩
  intro hmem
  obtain rfl : n = name := by simpa using hmem
  exact hname hn

/-- Members with new names are put behind those that were there. -/
theorem prefix_of_memberValues? {read : Double → Option Double} {room : ℕ} :
    ∀ (members soFar result : List (String × Json)), (members.map (·.1)).Nodup →
      (∀ name ∈ members.map (·.1), name ∉ soFar.map (·.1)) →
        Doc.memberValues? room soFar (memberDocsBy read members) = some result → soFar <+: result
  | [], soFar, result, _, _, h => by
    rw [memberDocsBy, Doc.memberValues?] at h
    exact Option.some.inj h ▸ List.prefix_rfl
  | (name, value) :: members, soFar, result, hnodup, hnew, h => by
    rw [List.map_cons, List.nodup_cons] at hnodup
    rw [memberDocsBy, Doc.memberValues?] at h
    split at h
    case h_1 => cases h
    case h_2 v hv =>
      rw [setMember_new (hnew name (by simp))] at h
      have hlater := new_of_append (fun n hn => hnew n (List.mem_cons_of_mem _ hn)) hnodup.1 v
      have hprefix :=
        prefix_of_memberValues? members (soFar ++ [(name, v)]) result hnodup.2 hlater h
      exact (List.prefix_append _ _).trans hprefix

end Members

/-! ## Values -/

section Value

variable (read : Double → Option Double)

mutual

theorem value?_docBy : ∀ (j : Json), j.Proper → ∀ (room : ℕ),
    Doc.value? room (j.docBy read) = some j ↔ j.depth ≤ room ∧ Reads read j.floats
  | .null, _, _ | .bool _, _, _ | .int _, _, _ | .str _, _, _ => by
    simp [docBy, Doc.value?, depth, floats]
  | .float d, _, room => by
    rw [docBy]
    simp only [depth, floats]
    cases hd : read d with
    | none => simp [Doc.value?, Reads, hd]
    | some x => simp [Doc.value?, Reads, hd]
  | .arr items, hj, room => by
    rw [Proper] at hj
    rw [docBy, Doc.value?, depth, floats]
    split
    case isTrue h => simp [h]
    case isFalse h =>
      have hitems := values?_docsBy items hj (room - 1)
      rw [Option.map_eq_some_iff, show depthItems items + 1 ≤ room ↔ depthItems items ≤ room - 1 by
        omega, ← hitems]
      simp
  | .obj members, hj, room => by
    rw [Proper] at hj
    rw [docBy, Doc.value?, depth, floats]
    split
    case isTrue h => simp [h]
    case isFalse h =>
      have hmembers := memberValues?_docsBy members hj.2 (room - 1) [] hj.1 (by simp)
      rw [Option.map_eq_some_iff, show depthMembers members + 1 ≤ room ↔
        depthMembers members ≤ room - 1 by omega, ← hmembers]
      simp

theorem values?_docsBy : ∀ (items : List Json), ProperItems items → ∀ (room : ℕ),
    Doc.values? room (docsBy read items) = some items ↔
      depthItems items ≤ room ∧ Reads read (floatsItems items)
  | [], _, _ => by simp [docsBy, Doc.values?, depthItems, floatsItems]
  | item :: items, hitems, room => by
    rw [ProperItems] at hitems
    have hitem := value?_docBy item hitems.1 room
    have hrest := values?_docsBy items hitems.2 room
    rw [docsBy, Doc.values?, depthItems, floatsItems, reads_append, max_le_iff,
      and_and_and_comm, ← hitem, ← hrest]
    cases Doc.value? room (item.docBy read) with
    | none => simp
    | some v => simp [Option.map_eq_some_iff, and_comm]

/-- The members so far are followed by those that are read. -/
theorem memberValues?_docsBy : ∀ (members : List (String × Json)), ProperMembers members →
    ∀ (room : ℕ) (soFar : List (String × Json)), (members.map (·.1)).Nodup →
      (∀ name ∈ members.map (·.1), name ∉ soFar.map (·.1)) →
        (Doc.memberValues? room soFar (memberDocsBy read members) = some (soFar ++ members) ↔
          depthMembers members ≤ room ∧ Reads read (floatsMembers members))
  | [] => by
    intro _ room soFar _ _
    simp [memberDocsBy, Doc.memberValues?, depthMembers, floatsMembers]
  | (name, value) :: members => by
    intro hmembers room soFar hnodup hnew
    rw [ProperMembers] at hmembers
    have hnames := hnodup
    rw [List.map_cons, List.nodup_cons] at hnames
    have hvalue := value?_docBy value hmembers.1 room
    have hlater := new_of_append (fun n hn => hnew n (List.mem_cons_of_mem _ hn)) hnames.1
    have hrest := memberValues?_docsBy members hmembers.2 room (soFar ++ [(name, value)]) hnames.2
      (hlater value)
    rw [memberDocsBy, Doc.memberValues?, depthMembers, floatsMembers, reads_append, max_le_iff,
      and_and_and_comm, ← hvalue, ← hrest, List.append_assoc, List.singleton_append]
    cases hv : Doc.value? room (value.docBy read) with
    | none => simp
    | some v =>
      simp only
      rw [setMember_new (hnew name (by simp)), Option.some.injEq]
      constructor
      · intro h
        -- What was read stands where the value is expected.
        have hprefix := prefix_of_memberValues? members _ _ hnames.2 (hlater v) h
        rw [List.prefix_append_right_inj] at hprefix
        obtain rfl : v = value := by simpa using hprefix
        exact ⟨rfl, h⟩
      · rintro ⟨rfl, h⟩
        exact h

end

end Value

end Dispatch.Json
