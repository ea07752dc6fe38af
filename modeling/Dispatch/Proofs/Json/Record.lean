import Dispatch.Json.Decoder
import Dispatch.Proofs.Lists
import Mathlib.Data.List.Nodup
import Mathlib.Data.List.Perm.Basic

/-!
# Records that hold the same

A record can be written in many ways: with its members in any order, with unknown ones between them,
with `null` for a field that may be missing, or as the array of its fields (`Respelled`).  All of
them are records with the same fields (`SameRecord`), and a decoder that asks a record for its
fields by name cannot tell such documents apart (`Agree.required`, `Agree.defaulted`,
`Agree.optional`).
-/

namespace Dispatch

/-- A field of a record: its name, whether it may be missing, and which documents for it hold the
same. -/
structure Field where
  name : String
  optional : Bool
  alike : Doc → Doc → Prop

namespace Field

/-- A field that must be there. -/
def needed (name : String) : Field := ⟨name, false, Eq⟩

/-- A field that may be missing. -/
def maybe (name : String) : Field := ⟨name, true, Eq⟩

/-- Nothing, or `null`. -/
def IsBlank (x : Option Doc) : Prop := x = none ∨ x = some .null

/-- What two records have for a field is the same: documents that hold the same, or nothing in
either if the field may be missing. -/
inductive Agrees (field : Field) : Option Doc → Option Doc → Prop
  | there {a b : Doc} (h : field.alike a b) : Agrees field (some a) (some b)
  | missing {x y : Option Doc} (h : field.optional = true) (hx : IsBlank x) (hy : IsBlank y) :
      Agrees field x y

/-- Documents that hold the same as a third hold the same, and `null` holds what `null` alone holds.
-/
structure Regular (field : Field) : Prop where
  trans : ∀ {a b c : Doc}, field.alike a b → field.alike b c → field.alike a c
  null_iff : ∀ {a b : Doc}, field.alike a b → (a = .null ↔ b = .null)

theorem regular_needed (name : String) : (needed name).Regular :=
  ⟨Eq.trans, fun h => iff_of_eq (congrArg (· = Doc.null) h)⟩

theorem regular_maybe (name : String) : (maybe name).Regular :=
  ⟨Eq.trans, fun h => iff_of_eq (congrArg (· = Doc.null) h)⟩

theorem Agrees.trans {field : Field} (h : field.Regular) {x y z : Option Doc}
    (hxy : field.Agrees x y) (hyz : field.Agrees y z) : field.Agrees x z := by
  cases hxy with
  | there hab =>
    cases hyz with
    | there hbc => exact .there (h.trans hab hbc)
    | missing hoptional hb hz =>
      have hnull := (h.null_iff hab).mpr (by simpa [IsBlank] using hb)
      exact .missing hoptional (.inr (congrArg some hnull)) hz
  | missing hoptional hx hy =>
    cases hyz with
    | there hbc =>
      have hnull := (h.null_iff hbc).mp (by simpa [IsBlank] using hy)
      exact .missing hoptional hx (.inr (congrArg some hnull))
    | missing _ _ hz => exact .missing hoptional hx hz

end Field

namespace Doc

/-- The document of a field of a record, which is an object or the array of its fields. -/
def field? (names : List String) (name : String) : Doc → Option Doc
  | .obj members => (members.find? (·.1 = some name)).map (·.2)
  | .arr items => ((names.zip items).find? (·.1 = name)).map (·.2)
  | _ => none

/-- The names of the members that a record of the given fields knows. -/
def knownNames (names : List String) (members : List (Option String × Doc)) : List String :=
  (members.filterMap (·.1)).filter (· ∈ names)

/-- An object whose names are readable, the known ones without repetition, or an array of as many
items as there are fields. -/
def IsRecord (names : List String) : Doc → Prop
  | .obj members => (∀ m ∈ members, m.1.isSome = true) ∧ (knownNames names members).Nodup
  | .arr items => items.length = names.length
  | _ => False

/-- Two records with the same fields. -/
structure SameRecord (fields : List Field) (a b : Doc) : Prop where
  left : a.IsRecord (fields.map Field.name)
  right : b.IsRecord (fields.map Field.name)
  agrees : ∀ field ∈ fields, field.Agrees (a.field? (fields.map Field.name) field.name)
    (b.field? (fields.map Field.name) field.name)

/-- The array of the fields of a record, with `null` for those that are missing. -/
def asArray (fields : List Field) (a : Doc) : Doc :=
  .arr ((fields.map Field.name).map fun name =>
    (a.field? (fields.map Field.name) name).getD .null)

/-- The ways to write a record anew, one after the other: its members in another order, an unknown
member more, `null` for a field that may be missing and is, another document that holds the same for
a field, and the array of its fields. -/
inductive Respelled (fields : List Field) (a : Doc) : Doc → Prop
  | same : Respelled fields a a
  | reordered {members members' : List (Option String × Doc)}
      (h : Respelled fields a (.obj members)) (hperm : members.Perm members') :
      Respelled fields a (.obj members')
  | unknown {before after : List (Option String × Doc)} {name : String}
      (h : Respelled fields a (.obj (before ++ after))) (hname : name ∉ fields.map Field.name)
      (doc : Doc) : Respelled fields a (.obj (before ++ (some name, doc) :: after))
  | null {members : List (Option String × Doc)} {field : Field}
      (h : Respelled fields a (.obj members)) (hfield : field ∈ fields)
      (hoptional : field.optional = true) (hmissing : ∀ doc, (some field.name, doc) ∉ members) :
      Respelled fields a (.obj ((some field.name, .null) :: members))
  | within {before after : List (Option String × Doc)} {field : Field} {x y : Doc}
      (h : Respelled fields a (.obj (before ++ (some field.name, x) :: after)))
      (hfield : field ∈ fields) (halike : field.alike x y) :
      Respelled fields a (.obj (before ++ (some field.name, y) :: after))
  | array {members : List (Option String × Doc)} (h : Respelled fields a (.obj members)) :
      Respelled fields a (asArray fields (.obj members))

end Doc

/-! ## Ways to write a record -/

namespace Doc

section Ways

variable {fields : List Field} {a : Doc} {members : List (Option String × Doc)}

theorem knownNames_append (names : List String) (before : List (Option String × Doc)) :
    knownNames names (before ++ members) = knownNames names before ++ knownNames names members := by
  rw [knownNames, List.filterMap_append, List.filter_append]
  rfl

theorem knownNames_cons {names : List String} {name : String} (h : name ∈ names) (doc : Doc) :
    knownNames names ((some name, doc) :: members) = name :: knownNames names members :=
  List.filter_cons_of_pos (by simpa using h)

theorem knownNames_cons_unknown {names : List String} {name : String} (h : name ∉ names)
    (doc : Doc) : knownNames names ((some name, doc) :: members) = knownNames names members :=
  List.filter_cons_of_neg (by simpa using h)

/-- Names of members that are known are among the known names. -/
theorem mem_knownNames {names : List String} {name : String} {doc : Doc} (h : name ∈ names)
    (hmem : (some name, doc) ∈ members) : name ∈ knownNames names members := by
  rw [knownNames, List.mem_filter, List.mem_filterMap]
  exact ⟨⟨_, hmem, rfl⟩, by simpa using h⟩

theorem knownNames_perm {names : List String} {members' : List (Option String × Doc)}
    (h : members.Perm members') : (knownNames names members).Perm (knownNames names members') :=
  (h.filterMap _).filter _

/-- A member that a record knows is found wherever it stands. -/
theorem field?_eq_some {names : List String} {name : String} (hname : name ∈ names)
    (hnodup : (knownNames names members).Nodup) {doc : Doc} (hmem : (some name, doc) ∈ members) :
    field? names name (.obj members) = some doc := by
  induction members with
  | nil => cases hmem
  | cons m members ih =>
    obtain ⟨n, first⟩ := m
    rw [field?, List.find?_cons]
    by_cases hm : n = some name
    · -- The first member of the name is the only one.
      subst hm
      rw [knownNames_cons hname, List.nodup_cons] at hnodup
      rcases List.mem_cons.mp hmem with heq | hlater
      · obtain rfl : doc = first := (Prod.ext_iff.mp heq).2
        rw [decide_eq_true rfl]
        rfl
      · exact absurd (mem_knownNames hname hlater) hnodup.1
    · rcases List.mem_cons.mp hmem with heq | hlater
      · exact absurd (Prod.ext_iff.mp heq).1.symm hm
      · rw [decide_eq_false hm]
        apply ih _ hlater
        have hsub : (knownNames names members).Sublist (knownNames names ((n, first) :: members)) :=
          ((List.sublist_cons_self _ members).filterMap _).filter _
        exact hnodup.sublist hsub

theorem field?_eq_none {names : List String} {name : String}
    (h : ∀ doc, (some name, doc) ∉ members) : field? names name (.obj members) = none := by
  rw [field?, Option.map_eq_none_iff, List.find?_eq_none]
  intro m hm hname
  obtain ⟨n, doc⟩ := m
  obtain rfl : n = some name := by simpa using hname
  exact h doc hm

/-- Records with the same known members have the same fields. -/
theorem field?_congr {names : List String} {members' : List (Option String × Doc)}
    (h : (Doc.obj members).IsRecord names) (h' : (Doc.obj members').IsRecord names) {name : String}
    (hname : name ∈ names)
    (hsame : ∀ doc, (some name, doc) ∈ members ↔ (some name, doc) ∈ members') :
    field? names name (.obj members) = field? names name (.obj members') := by
  by_cases hthere : ∃ doc, (some name, doc) ∈ members
  · obtain ⟨doc, hdoc⟩ := hthere
    rw [field?_eq_some hname h.2 hdoc, field?_eq_some hname h'.2 ((hsame doc).mp hdoc)]
  · rw [field?_eq_none (fun doc hdoc => hthere ⟨doc, hdoc⟩),
      field?_eq_none (fun doc hdoc => hthere ⟨doc, (hsame doc).mpr hdoc⟩)]

/-- The members may come in another order. -/
theorem SameRecord.of_perm (h : SameRecord fields a (.obj members))
    {members' : List (Option String × Doc)} (hperm : members.Perm members') :
    SameRecord fields a (.obj members') := by
  have hrecord : (Doc.obj members').IsRecord (fields.map Field.name) :=
    ⟨fun m hm => h.right.1 m (hperm.mem_iff.mpr hm), (knownNames_perm hperm).nodup_iff.mp h.right.2⟩
  refine ⟨h.left, hrecord, ?_⟩
  intro field hfield
  rw [← field?_congr h.right hrecord (List.mem_map_of_mem hfield) fun doc => hperm.mem_iff]
  exact h.agrees field hfield

/-- Members that the record does not know may be added anywhere. -/
theorem SameRecord.of_unknown {before : List (Option String × Doc)}
    (h : SameRecord fields a (.obj (before ++ members))) {name : String}
    (hname : name ∉ fields.map Field.name) (doc : Doc) :
    SameRecord fields a (.obj (before ++ (some name, doc) :: members)) := by
  have hknown : knownNames (fields.map Field.name) (before ++ (some name, doc) :: members) =
      knownNames (fields.map Field.name) (before ++ members) := by
    rw [knownNames_append, knownNames_cons_unknown hname, knownNames_append]
  have hrecord : (Doc.obj (before ++ (some name, doc) :: members)).IsRecord
      (fields.map Field.name) := by
    refine ⟨?_, hknown ▸ h.right.2⟩
    intro m hm
    rcases List.mem_append.mp hm with hm | hm
    · exact h.right.1 m (List.mem_append_left _ hm)
    · rcases List.mem_cons.mp hm with rfl | hm
      · rfl
      · exact h.right.1 m (List.mem_append_right _ hm)
  refine ⟨h.left, hrecord, ?_⟩
  intro field hfield
  have hne : name ≠ field.name := by
    rintro rfl
    exact hname (List.mem_map_of_mem hfield)
  rw [← field?_congr h.right hrecord (List.mem_map_of_mem hfield) fun d => by
    simp [Ne.symm hne]]
  exact h.agrees field hfield

/-- A field that may be missing may be written as `null`. -/
theorem SameRecord.of_null (h : SameRecord fields a (.obj members)) {field : Field}
    (hfield : field ∈ fields) (hoptional : field.optional = true)
    (hmissing : ∀ doc, (some field.name, doc) ∉ members)
    (hnodup : (fields.map Field.name).Nodup) :
    SameRecord fields a (.obj ((some field.name, .null) :: members)) := by
  have hname : field.name ∈ fields.map Field.name := List.mem_map_of_mem hfield
  have hrecord : (Doc.obj ((some field.name, .null) :: members)).IsRecord
      (fields.map Field.name) := by
    refine ⟨?_, ?_⟩
    · intro m hm
      rcases List.mem_cons.mp hm with rfl | hm
      · rfl
      · exact h.right.1 m hm
    · rw [knownNames_cons hname, List.nodup_cons]
      refine ⟨?_, h.right.2⟩
      intro hmem
      rw [knownNames, List.mem_filter, List.mem_filterMap] at hmem
      obtain ⟨⟨⟨n, doc⟩, hm, hn⟩, -⟩ := hmem
      obtain rfl : n = some field.name := hn
      exact hmissing doc hm
  refine ⟨h.left, hrecord, ?_⟩
  intro other hother
  by_cases hsame : other.name = field.name
  · obtain rfl : other = field := List.inj_on_of_nodup_map hnodup hother hfield hsame
    have hold := h.agrees other hother
    rw [field?_eq_none hmissing] at hold
    rw [field?_eq_some hname hrecord.2 List.mem_cons_self]
    generalize field? (fields.map Field.name) other.name a = x at hold ⊢
    cases hold with
    | missing _ hx _ => exact .missing hoptional hx (.inr rfl)
  · rw [← field?_congr h.right hrecord (List.mem_map_of_mem hother) fun d => by simp [hsame]]
    exact h.agrees other hother

theorem find?_zip_map {α : Type} (g : String → α) {names : List String} {name : String}
    (h : name ∈ names) : (names.zip (names.map g)).find? (·.1 = name) = some (name, g name) := by
  induction names with
  | nil => cases h
  | cons n names ih =>
    rw [List.map_cons, List.zip_cons_cons, List.find?_cons]
    by_cases hn : n = name
    · subst hn
      rw [decide_eq_true rfl]
    · rw [decide_eq_false hn]
      exact ih ((List.mem_cons.mp h).resolve_left (Ne.symm hn))

/-- The record may be written as the array of its fields. -/
theorem SameRecord.of_array (h : SameRecord fields a (.obj members)) :
    SameRecord fields a (asArray fields (.obj members)) := by
  refine ⟨h.left, List.length_map _, ?_⟩
  intro field hfield
  have hitem : field? (fields.map Field.name) field.name (asArray fields (.obj members)) =
      some ((field? (fields.map Field.name) field.name (.obj members)).getD .null) := by
    show (((fields.map Field.name).zip _).find? (·.1 = field.name)).map (·.2) = _
    rw [find?_zip_map _ (List.mem_map_of_mem hfield)]
    rfl
  rw [hitem]
  have hold := h.agrees field hfield
  generalize field? (fields.map Field.name) field.name a = x at hold ⊢
  generalize field? (fields.map Field.name) field.name (.obj members) = y at hold ⊢
  cases hold with
  | there halike => exact .there halike
  | missing hoptional hx hy =>
    apply Field.Agrees.missing hoptional hx
    rcases hy with rfl | rfl
    · exact .inr rfl
    · exact .inr rfl

/-- A field may be written as another document that holds the same. -/
theorem SameRecord.of_part {before : List (Option String × Doc)} {field : Field} {x y : Doc}
    (h : SameRecord fields a (.obj (before ++ (some field.name, x) :: members)))
    (hnodup : (fields.map Field.name).Nodup) (hfield : field ∈ fields) (hregular : field.Regular)
    (halike : field.alike x y) :
    SameRecord fields a (.obj (before ++ (some field.name, y) :: members)) := by
  have hname : field.name ∈ fields.map Field.name := List.mem_map_of_mem hfield
  have hknown : knownNames (fields.map Field.name) (before ++ (some field.name, y) :: members) =
      knownNames (fields.map Field.name) (before ++ (some field.name, x) :: members) := by
    rw [knownNames_append, knownNames_cons hname, knownNames_append, knownNames_cons hname]
  have hrecord : (Doc.obj (before ++ (some field.name, y) :: members)).IsRecord
      (fields.map Field.name) := by
    refine ⟨?_, hknown ▸ h.right.2⟩
    intro m hm
    rcases List.mem_append.mp hm with hm | hm
    · exact h.right.1 m (List.mem_append_left _ hm)
    · rcases List.mem_cons.mp hm with rfl | hm
      · rfl
      · exact h.right.1 m (List.mem_append_right _ (List.mem_cons_of_mem _ hm))
  refine ⟨h.left, hrecord, ?_⟩
  intro other hother
  have hold := h.agrees other hother
  by_cases hsame : other.name = field.name
  · obtain rfl : other = field := List.inj_on_of_nodup_map hnodup hother hfield hsame
    rw [field?_eq_some hname h.right.2 (List.mem_append_right _ List.mem_cons_self)] at hold
    rw [field?_eq_some hname hrecord.2 (List.mem_append_right _ List.mem_cons_self)]
    exact hold.trans hregular (.there halike)
  · rw [← field?_congr h.right hrecord (List.mem_map_of_mem hother) fun d => by simp [hsame]]
    exact hold

theorem SameRecord.trans {b c : Doc} (hregular : ∀ field ∈ fields, field.Regular)
    (hab : SameRecord fields a b) (hbc : SameRecord fields b c) : SameRecord fields a c :=
  ⟨hab.left, hbc.right, fun field hfield =>
    (hab.agrees field hfield).trans (hregular field hfield) (hbc.agrees field hfield)⟩

theorem SameRecord.ne_null {b : Doc} (h : SameRecord fields a b) : a ≠ .null ∧ b ≠ .null := by
  refine ⟨?_, ?_⟩
  · rintro rfl
    exact h.left
  · rintro rfl
    exact h.right

/-- A record that is written anew has the same fields. -/
theorem Respelled.sameRecord {b : Doc} (h : Respelled fields a b) (hself : SameRecord fields a a)
    (hnodup : (fields.map Field.name).Nodup) (hregular : ∀ field ∈ fields, field.Regular) :
    SameRecord fields a b := by
  induction h with
  | same => exact hself
  | reordered _ hperm ih => exact ih.of_perm hperm
  | unknown _ hname doc ih => exact ih.of_unknown hname doc
  | null _ hfield hoptional hmissing ih => exact ih.of_null hfield hoptional hmissing hnodup
  | within _ hfield halike ih => exact ih.of_part hnodup hfield (hregular _ hfield) halike
  | array _ ih => exact ih.of_array

end Ways

end Doc

/-! ## Records in records -/

namespace Field

/-- A field that is a record itself, which may be written as any record with the same fields. -/
def nested (name : String) (optional : Bool) (fields : List Field) : Field :=
  ⟨name, optional, Doc.SameRecord fields⟩

theorem regular_nested (name : String) (optional : Bool) {fields : List Field}
    (hregular : ∀ field ∈ fields, field.Regular) : (nested name optional fields).Regular :=
  ⟨Doc.SameRecord.trans hregular, fun h => iff_of_false h.ne_null.1 h.ne_null.2⟩

end Field

/-! ## Opening a record -/

namespace Decoder

open Doc

section Open

variable {names : List String}

theorem field?_cons (names : List String) (name n : String) (doc : Doc)
    (members : List (Option String × Doc)) :
    Doc.field? names n (.obj ((some name, doc) :: members)) =
      if name = n then some doc else Doc.field? names n (.obj members) := by
  by_cases h : name = n
  · simp [Doc.field?, h]
  · simp [Doc.field?, h]

theorem any_name_eq_false {soFar : List (String × Doc)} {name : String}
    (h : name ∉ soFar.map (·.1)) : soFar.any (·.1 = name) = false := by
  rw [Bool.eq_false_iff, Ne, List.any_eq_true]
  rintro ⟨m, hm, hname⟩
  exact h (List.mem_map.mpr ⟨m, hm, by simpa using hname⟩)

/-- The known members are found, each under its name, beside those found before. -/
theorem known?_eq : ∀ (members : List (Option String × Doc)) (soFar : List (String × Doc)),
    (∀ m ∈ members, m.1.isSome = true) → (knownNames names members).Nodup →
      (∀ n ∈ knownNames names members, n ∉ soFar.map (·.1)) →
        ∃ found, known? names soFar members = some found ∧ ∀ n ∈ names,
          (found.find? (·.1 = n)).map (·.2) = (Doc.field? names n (.obj members)).or
            ((soFar.find? (·.1 = n)).map (·.2))
  | [], soFar, _, _, _ => ⟨soFar, rfl, fun n _ => rfl⟩
  | (none, _) :: _, _, hreadable, _, _ => by
    have := hreadable _ List.mem_cons_self
    cases this
  | (some name, doc) :: members, soFar, hreadable, hnodup, hnew => by
    have hreadable' : ∀ m ∈ members, m.1.isSome = true :=
      fun m hm => hreadable m (List.mem_cons_of_mem _ hm)
    rw [known?]
    by_cases hknown : name ∈ names
    · rw [knownNames_cons hknown] at hnodup hnew
      obtain ⟨hfirst, hnodup'⟩ := List.nodup_cons.mp hnodup
      have hany := any_name_eq_false (hnew name List.mem_cons_self)
      have hnew' : ∀ n ∈ knownNames names members, n ∉ ((name, doc) :: soFar).map (·.1) := by
        intro n hn
        rw [List.map_cons, List.mem_cons, not_or]
        refine ⟨?_, hnew n (List.mem_cons_of_mem _ hn)⟩
        rintro rfl
        exact hfirst hn
      obtain ⟨found, hfound, hlookup⟩ := known?_eq members ((name, doc) :: soFar) hreadable'
        hnodup' hnew'
      refine ⟨found, by rw [if_pos hknown, hany]; exact hfound, ?_⟩
      intro n hn
      rw [hlookup n hn, field?_cons]
      by_cases h : name = n
      · subst h
        -- The name does not come again.
        have hnone : Doc.field? names name (.obj members) = none :=
          field?_eq_none fun d hd => hfirst (mem_knownNames hknown hd)
        simp [hnone]
      · simp [h]
    · rw [knownNames_cons_unknown hknown] at hnodup hnew
      obtain ⟨found, hfound, hlookup⟩ := known?_eq members soFar hreadable' hnodup hnew
      refine ⟨found, by rw [if_neg hknown]; exact hfound, ?_⟩
      intro n hn
      have h : name ≠ n := by
        rintro rfl
        exact hknown hn
      rw [hlookup n hn, field?_cons, if_neg h]

/-- A record opens, and its fields are found by name. -/
theorem fields?_of_isRecord {doc : Doc} {room : ℕ} (h : doc.IsRecord names) (hroom : 0 < room) :
    ∃ f, fields? names room doc = some f ∧ f.room = room - 1 ∧
      ∀ n ∈ names, f.doc? n = doc.field? names n := by
  cases doc with
  | obj members =>
    obtain ⟨hreadable, hnodup⟩ := h
    obtain ⟨found, hfound, hlookup⟩ := known?_eq members [] hreadable hnodup (by simp)
    refine ⟨⟨found, room - 1⟩, by rw [fields?, if_neg (Nat.ne_of_gt hroom), hfound]; rfl, rfl, ?_⟩
    intro n hn
    rw [Fields.doc?, hlookup n hn]
    simp
  | arr items =>
    have hlen : items.length = names.length := h
    refine ⟨⟨names.zip items, room - 1⟩, ?_, rfl, fun n _ => rfl⟩
    rw [fields?, if_neg (by omega)]
  | _ => exact absurd h id

theorem fields?_zero (names : List String) (doc : Doc) : fields? names 0 doc = none := by
  cases doc with
  | arr items => rw [fields?, if_pos (.inl rfl)]
  | _ => rfl

end Open

/-! ## Asking for fields -/

namespace Fields

/-- The same is found for every field, and there is the same room for it. -/
structure Agree (fields : List Field) (f g : Fields) : Prop where
  room_eq : f.room = g.room
  agrees : ∀ field ∈ fields, field.Agrees (f.doc? field.name) (g.doc? field.name)

variable {fields : List Field} {f g : Fields} {α : Type} {decode : Decoder α}

/-- A field that must be there. -/
theorem Agree.required_of (h : Agree fields f g) {field : Field} (hfield : field ∈ fields)
    (hneeded : field.optional = false)
    (hdecode : ∀ room a b, field.alike a b → decode room a = decode room b) :
    f.required field.name decode = g.required field.name decode := by
  have hagrees := h.agrees field hfield
  rw [Fields.required, Fields.required, h.room_eq]
  generalize f.doc? field.name = x at hagrees ⊢
  generalize g.doc? field.name = y at hagrees ⊢
  cases hagrees with
  | there halike => exact hdecode g.room _ _ halike
  | missing hoptional =>
    rw [hneeded] at hoptional
    cases hoptional

/-- A field that may be missing is none when it is missing and when it is `null`. -/
theorem optional_of_blank {name : String} (h : Field.IsBlank (f.doc? name)) :
    f.optional name decode = some none := by
  rw [Fields.optional, Fields.defaulted]
  rcases h with h | h
  · rw [h]
  · rw [h]
    rfl

theorem Agree.optional_of (h : Agree fields f g) {field : Field} (hfield : field ∈ fields)
    (hdecode : ∀ room a b, field.alike a b → nullable decode room a = nullable decode room b) :
    f.optional field.name decode = g.optional field.name decode := by
  have hagrees := h.agrees field hfield
  generalize hx : f.doc? field.name = x at hagrees
  generalize hy : g.doc? field.name = y at hagrees
  cases hagrees with
  | there halike =>
    rw [Fields.optional, Fields.optional, Fields.defaulted, Fields.defaulted, hx, hy, h.room_eq]
    exact hdecode g.room _ _ halike
  | missing _ hblank hblank' =>
    rw [optional_of_blank (hx ▸ hblank), optional_of_blank (hy ▸ hblank')]

theorem Agree.required (h : Agree fields f g) (name : String)
    (hfield : Field.needed name ∈ fields) : f.required name decode = g.required name decode :=
  h.required_of hfield rfl fun _ _ _ heq => congrArg _ heq

theorem Agree.optional (h : Agree fields f g) (name : String)
    (hfield : Field.maybe name ∈ fields) : f.optional name decode = g.optional name decode :=
  h.optional_of hfield fun _ _ _ heq => congrArg _ heq

/-- A field that is a record, read by a decoder that cannot tell records with the same fields apart.
-/
theorem Agree.required_nested {inner : List Field} (h : Agree fields f g) (name : String)
    (hfield : Field.nested name false inner ∈ fields)
    (hdecode : ∀ {a b : Doc}, Doc.SameRecord inner a b → ∀ room, decode room a = decode room b) :
    f.required name decode = g.required name decode :=
  h.required_of hfield rfl fun room _ _ hsame => hdecode hsame room

theorem Agree.optional_nested {inner : List Field} (h : Agree fields f g) (name : String)
    (hfield : Field.nested name true inner ∈ fields)
    (hdecode : ∀ {a b : Doc}, Doc.SameRecord inner a b → ∀ room, decode room a = decode room b) :
    f.optional name decode = g.optional name decode := by
  apply h.optional_of hfield
  intro room a b hsame
  have hrecord {doc : Doc} (hdoc : doc ≠ .null) :
      nullable decode room doc = (decode room doc).map some := by
    unfold nullable
    split
    · exact absurd rfl hdoc
    · rfl
  rw [hrecord hsame.ne_null.1, hrecord hsame.ne_null.2, hdecode hsame]

/-- A field with a default that is there. -/
theorem Agree.defaulted (h : Agree fields f g) (name : String)
    (hfield : Field.needed name ∈ fields) (default : α) :
    f.defaulted name decode default = g.defaulted name decode default := by
  have hagrees : (Field.needed name).Agrees (f.doc? name) (g.doc? name) := h.agrees _ hfield
  rw [Fields.defaulted, Fields.defaulted, h.room_eq]
  generalize f.doc? name = x at hagrees ⊢
  generalize g.doc? name = y at hagrees ⊢
  cases hagrees with
  | there halike => exact congrArg _ halike
  | missing hoptional => cases hoptional

end Fields

/-- Records with the same fields both open and agree, or there is no room for either. -/
theorem open_sameRecord {fields : List Field} {a b : Doc} (h : SameRecord fields a b) (room : ℕ) :
    (fields? (fields.map Field.name) room a = none ∧
      fields? (fields.map Field.name) room b = none) ∨
      ∃ f g, fields? (fields.map Field.name) room a = some f ∧
        fields? (fields.map Field.name) room b = some g ∧ Fields.Agree fields f g := by
  rcases Nat.eq_zero_or_pos room with rfl | hroom
  · exact .inl ⟨fields?_zero _ a, fields?_zero _ b⟩
  · obtain ⟨f, hf, hroomf, hfind⟩ := fields?_of_isRecord h.left hroom
    obtain ⟨g, hg, hroomg, hgind⟩ := fields?_of_isRecord h.right hroom
    refine .inr ⟨f, g, hf, hg, hroomf.trans hroomg.symm, ?_⟩
    intro field hfield
    have hname : field.name ∈ fields.map Field.name := List.mem_map_of_mem hfield
    rw [hfind _ hname, hgind _ hname]
    exact h.agrees field hfield

end Decoder

end Dispatch
