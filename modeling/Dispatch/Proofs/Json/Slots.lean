import Dispatch.Proofs.Json.Meaning
import Dispatch.Proofs.Json.Record
import Dispatch.Proofs.Time.Rfc3339
import Dispatch.Proofs.Uuid.Text
import Dispatch.Json.Entity

/-!
# Written records

An encoder fills a slot for each field of a record and leaves out the empty ones.  Such a record is
kept through writing and reading exactly if what fills its slots is (`kept_present`), and when it is
read, each field finds what its slot was filled with (`open_present`).  `Undoes` says that a decoder
gives a written value back exactly if it is kept; a field with such a decoder does the same
(`Filled.required`, `Filled.defaulted`, `Filled.optional`).
-/

namespace Dispatch

namespace Json

/-- The members of the slots that are filled. -/
def present (slots : List (String × Option Json)) : List (String × Json) :=
  slots.filterMap fun s => s.2.map fun j => (s.1, j)

section Present

variable {name : String} {value : Json} {rest : List (String × Option Json)} {α : Type}
  {encode : α → Json}

theorem present_nil : present [] = [] := rfl

theorem present_none : present ((name, none) :: rest) = present rest := rfl

theorem present_some : present ((name, some value) :: rest) = (name, value) :: present rest := rfl

theorem present_map (v : Option α) :
    present ((name, v.map encode) :: rest) = optionalMember name encode v ++ present rest := by
  cases v with
  | none => rfl
  | some x => rfl

theorem map_fst_present_sublist (slots : List (String × Option Json)) :
    ((present slots).map (·.1)).Sublist (slots.map (·.1)) := by
  induction slots with
  | nil => exact List.Sublist.refl _
  | cons s slots ih =>
    obtain ⟨name, value⟩ := s
    cases value with
    | none => exact ih.cons name
    | some value => exact ih.cons_cons name

theorem mem_present {slots : List (String × Option Json)} {m : String × Json} :
    m ∈ present slots ↔ (m.1, some m.2) ∈ slots := by
  rw [present, List.mem_filterMap]
  constructor
  · rintro ⟨⟨name, value⟩, hs, hm⟩
    obtain ⟨j, rfl, rfl⟩ := Option.map_eq_some_iff.mp hm
    exact hs
  · intro h
    exact ⟨_, h, rfl⟩

/-! ### What is kept, and properness -/

theorem kept_present_cons {read : Double → Option Double} {room : ℕ} :
    (depthMembers (present ((name, some value) :: rest)) ≤ room ∧
      Reads read (floatsMembers (present ((name, some value) :: rest)))) ↔
        value.Kept read room ∧ depthMembers (present rest) ≤ room ∧
          Reads read (floatsMembers (present rest)) := by
  rw [present_some, depthMembers, floatsMembers, max_le_iff, reads_append, and_and_and_comm]
  rfl

/-- A record is kept if there is room for it and what fills its slots is kept inside. -/
theorem kept_present {read : Double → Option Double} {room : ℕ}
    (slots : List (String × Option Json)) : (Json.obj (present slots)).Kept read room ↔
      0 < room ∧ ∀ slot ∈ slots, ∀ j ∈ slot.2, j.Kept read (room - 1) := by
  have hmembers : (depthMembers (present slots) ≤ room - 1 ∧
      Reads read (floatsMembers (present slots))) ↔
        ∀ slot ∈ slots, ∀ j ∈ slot.2, j.Kept read (room - 1) := by
    induction slots with
    | nil => simp [present_nil, depthMembers, floatsMembers]
    | cons slot rest ih =>
      obtain ⟨name, value⟩ := slot
      rw [List.forall_mem_cons, ← ih]
      cases value with
      | none => simp [present_none]
      | some value => rw [kept_present_cons]; simp
  rw [← hmembers, Kept, depth, floats]
  constructor
  · rintro ⟨hdepth, hreads⟩
    exact ⟨by omega, by omega, hreads⟩
  · rintro ⟨hroom, hdepth, hreads⟩
    exact ⟨by omega, hreads⟩

@[simp]
theorem proper_str (s : String) : (Json.str s).Proper := trivial

@[simp]
theorem proper_bool (b : Bool) : (Json.bool b).Proper := trivial

@[simp]
theorem proper_float (d : Double) : (Json.float d).Proper := trivial

@[simp]
theorem proper_time (t : Timestamp) : (Json.time t).Proper := trivial

@[simp]
theorem proper_jobId (id : JobId) : id.toJson.Proper := trivial

@[simp]
theorem proper_traceId (id : TraceId) : id.toJson.Proper := trivial

@[simp]
theorem proper_workerId (id : WorkerId) : id.toJson.Proper := trivial

@[simp]
theorem proper_status (s : JobStatus) : s.toJson.Proper := trivial

@[simp]
theorem proper_code (c : FailureCode) : c.toJson.Proper := trivial

@[simp]
theorem proper_state (s : WorkerState) : s.toJson.Proper := trivial

theorem properMembers_iff (members : List (String × Json)) :
    ProperMembers members ↔ ∀ m ∈ members, m.2.Proper := by
  induction members with
  | nil => simp [ProperMembers]
  | cons m members ih =>
    obtain ⟨name, value⟩ := m
    rw [ProperMembers, ih, List.forall_mem_cons]

/-- A record of proper values is proper. -/
theorem proper_present {slots : List (String × Option Json)} (hnodup : (slots.map (·.1)).Nodup)
    (h : ∀ s ∈ slots, ∀ j ∈ s.2, j.Proper) : (Json.obj (present slots)).Proper := by
  rw [Proper]
  refine ⟨hnodup.sublist (map_fst_present_sublist slots), ?_⟩
  rw [properMembers_iff]
  intro m hm
  exact h _ (mem_present.mp hm) _ rfl

/-! ### Reading -/

theorem memberDocsBy_eq (read : Double → Option Double) (members : List (String × Json)) :
    memberDocsBy read members = members.map fun m => (some m.1, m.2.docBy read) := by
  induction members with
  | nil => rfl
  | cons m members ih =>
    obtain ⟨name, value⟩ := m
    rw [memberDocsBy, ih, List.map_cons]

/-- A written object is a record, whatever its fields. -/
theorem isRecord_docBy (read : Double → Option Double) (names : List String)
    {members : List (String × Json)} (h : (members.map (·.1)).Nodup) :
    ((Json.obj members).docBy read).IsRecord names := by
  rw [docBy, memberDocsBy_eq]
  constructor
  · intro m hm
    obtain ⟨m', -, rfl⟩ := List.mem_map.mp hm
    rfl
  · have hnames : (members.map fun m => (some m.1, m.2.docBy read)).filterMap (·.1) =
        members.map (·.1) := by
      rw [List.filterMap_map]
      show members.filterMap (some ∘ Prod.fst) = members.map Prod.fst
      rw [List.filterMap_eq_map]
    rw [Doc.knownNames, hnames]
    exact h.filter _

/-- A field finds what its slot was filled with. -/
theorem field?_present {read : Double → Option Double} {slots : List (String × Option Json)}
    (hnodup : (slots.map (·.1)).Nodup) {slot : String × Option Json} (hslot : slot ∈ slots) :
    Doc.field? (slots.map (·.1)) slot.1 ((Json.obj (present slots)).docBy read) =
      slot.2.map (·.docBy read) := by
  have hrecord := isRecord_docBy read (slots.map (·.1))
    (hnodup.sublist (map_fst_present_sublist slots))
  rw [docBy, memberDocsBy_eq] at hrecord ⊢
  obtain ⟨name, value⟩ := slot
  cases value with
  | none =>
    apply Doc.field?_eq_none
    intro doc hdoc
    obtain ⟨m, hm, heq⟩ := List.mem_map.mp hdoc
    obtain rfl : m.1 = name := Option.some.inj (Prod.ext_iff.mp heq).1
    have := List.inj_on_of_nodup_map hnodup hslot (mem_present.mp hm) rfl
    cases this
  | some value =>
    apply Doc.field?_eq_some (List.mem_map_of_mem hslot) hrecord.2
    exact List.mem_map.mpr ⟨(name, value), mem_present.mpr hslot, rfl⟩

/-- A field of a written record: its slot has its name, and it holds the same as itself. -/
def Fits (read : Double → Option Double) (field : Field) (slot : String × Option Json) : Prop :=
  field.name = slot.1 ∧ field.Agrees (slot.2.map (·.docBy read)) (slot.2.map (·.docBy read))

theorem fits_needed (read : Double → Option Double) (name : String) (j : Json) :
    Fits read (.needed name) (name, some j) := ⟨rfl, .there rfl⟩

theorem fits_maybe (read : Double → Option Double) (name : String) (value : Option Json) :
    Fits read (.maybe name) (name, value) := by
  refine ⟨rfl, ?_⟩
  cases value with
  | none => exact .missing rfl (.inl rfl) (.inl rfl)
  | some j => exact .there rfl

theorem fits_nested (read : Double → Option Double) (name : String) (optional : Bool)
    {fields : List Field} {j : Json}
    (h : Doc.SameRecord fields (j.docBy read) (j.docBy read)) :
    Fits read (.nested name optional fields) (name, some j) := ⟨rfl, .there h⟩

theorem fits_nested_map (read : Double → Option Double) (name : String) {fields : List Field}
    {v : Option α}
    (h : ∀ x, Doc.SameRecord fields ((encode x).docBy read) ((encode x).docBy read)) :
    Fits read (.nested name true fields) (name, v.map encode) := by
  cases v with
  | none => exact ⟨rfl, .missing rfl (.inl rfl) (.inl rfl)⟩
  | some x => exact fits_nested read name true (h x)

/-- A written record has the same fields as itself. -/
theorem sameRecord_present {read : Double → Option Double} {fields : List Field}
    {slots : List (String × Option Json)} (hfits : List.Forall₂ (Fits read) fields slots)
    (hnodup : (slots.map (·.1)).Nodup) :
    Doc.SameRecord fields ((Json.obj (present slots)).docBy read)
      ((Json.obj (present slots)).docBy read) := by
  have hnames : fields.map Field.name = slots.map (·.1) := by
    induction hfits with
    | nil => rfl
    | cons h _ ih =>
      rw [List.map_cons, List.nodup_cons] at hnodup
      rw [List.map_cons, List.map_cons, h.1, ih hnodup.2]
  have hrecord := isRecord_docBy read (fields.map Field.name)
    (hnodup.sublist (map_fst_present_sublist slots))
  refine ⟨hrecord, hrecord, ?_⟩
  intro field hfield
  obtain ⟨slot, hslot, hname, hagrees⟩ : ∃ slot ∈ slots, Fits read field slot := by
    clear hnames hrecord hnodup
    induction hfits with
    | nil => cases hfield
    | cons h _ ih =>
      rcases List.mem_cons.mp hfield with rfl | hfield
      · exact ⟨_, List.mem_cons_self, h⟩
      · obtain ⟨slot, hslot, hfit⟩ := ih hfield
        exact ⟨slot, List.mem_cons_of_mem _ hslot, hfit⟩
  rw [hnames, hname, field?_present hnodup hslot]
  exact hagrees

end Present

end Json

namespace Decoder

open Json

variable {read : Double → Option Double} {slots : List (String × Option Json)} {α : Type}

/-- Each field finds what its slot was filled with. -/
def Filled (read : Double → Option Double) (slots : List (String × Option Json))
    (f : Fields) : Prop :=
  ∀ slot ∈ slots, f.doc? slot.1 = slot.2.map (·.docBy read)

/-- A written record opens, and each field finds what its slot was filled with. -/
theorem open_present (read : Double → Option Double) (hnodup : (slots.map (·.1)).Nodup) {room : ℕ}
    (hroom : 0 < room) :
    ∃ f, fields? (slots.map (·.1)) room ((Json.obj (present slots)).docBy read) = some f ∧
      f.room = room - 1 ∧ Filled read slots f := by
  have hrecord := isRecord_docBy read (slots.map (·.1))
    (hnodup.sublist (map_fst_present_sublist slots))
  obtain ⟨f, hf, hfroom, hfind⟩ := fields?_of_isRecord hrecord hroom
  refine ⟨f, hf, hfroom, ?_⟩
  intro slot hslot
  rw [hfind _ (List.mem_map_of_mem hslot), field?_present hnodup hslot]

/-- The decoder gives back a value that the encoder writes, exactly if it is kept. -/
structure Undoes (decode : Decoder α) (encode : α → Json) (x : α) : Prop where
  decode_iff : ∀ read room,
    decode room ((encode x).docBy read) = some x ↔ (encode x).Kept read room
  ne_null : ∀ read, (encode x).docBy read ≠ .null

theorem nullable_iff {decode : Decoder α} {encode : α → Json} {x : α}
    (h : Undoes decode encode x) (read : Double → Option Double) (room : ℕ) :
    nullable decode room ((encode x).docBy read) = some (some x) ↔ (encode x).Kept read room := by
  have hne := h.ne_null read
  rw [← h.decode_iff]
  generalize (encode x).docBy read = doc at hne ⊢
  unfold nullable
  split
  · exact absurd rfl hne
  · simp [Option.map_eq_some_iff]

/-- The steps of a builder, each of which has to find the value of its field. -/
theorem build_step_iff {β : Type} {x : Option α} {k : α → Option β} {y : β} :
    (x >>= k) = some y ↔ ∃ a, x = some a ∧ k a = some y := Option.bind_eq_some_iff

namespace Filled

variable {f : Fields} {decode : Decoder α} {encode : α → Json}

theorem required (hf : Filled read slots f) (name : String) {x : α}
    (hslot : (name, some (encode x)) ∈ slots) (h : Undoes decode encode x) :
    f.required name decode = some x ↔ (encode x).Kept read f.room := by
  rw [Fields.required, hf _ hslot]
  exact h.decode_iff read f.room

theorem defaulted (hf : Filled read slots f) (name : String) {x : α}
    (hslot : (name, some (encode x)) ∈ slots) (h : Undoes decode encode x) (default : α) :
    f.defaulted name decode default = some x ↔ (encode x).Kept read f.room := by
  rw [Fields.defaulted, hf _ hslot]
  exact h.decode_iff read f.room

/-- A field that is left out when it is missing. -/
theorem optional (hf : Filled read slots f) (name : String) {v : Option α}
    (hslot : (name, v.map encode) ∈ slots) (h : ∀ x ∈ v, Undoes decode encode x) :
    f.optional name decode = some v ↔ ∀ j ∈ v.map encode, j.Kept read f.room := by
  rw [Fields.optional, Fields.defaulted, hf _ hslot]
  cases v with
  | none => simp
  | some x =>
    have hkept : (∀ j ∈ (some x).map encode, j.Kept read f.room) ↔ (encode x).Kept read f.room := by
      simp
    rw [hkept]
    exact nullable_iff (h x rfl) read f.room

/-- A field that is written as `null` when it is missing. -/
theorem nulled (hf : Filled read slots f) (name : String) {v : Option α}
    (hslot : (name, some (Json.nullable encode v)) ∈ slots) (h : ∀ x ∈ v, Undoes decode encode x) :
    f.optional name decode = some v ↔ (Json.nullable encode v).Kept read f.room := by
  rw [Fields.optional, Fields.defaulted, hf _ hslot]
  cases v with
  | none => exact iff_of_true rfl (kept_leaf rfl rfl)
  | some x => exact nullable_iff (h x rfl) read f.room

/-- An untyped value. -/
theorem value (hf : Filled read slots f) (name : String) {j : Json}
    (hslot : (name, some j) ∈ slots) (h : j.Proper) :
    f.required name json = some j ↔ j.Kept read f.room := by
  rw [Fields.required, hf _ hslot]
  exact value?_docBy read j h f.room

theorem defaultedValue (hf : Filled read slots f) (name : String) {j : Json}
    (hslot : (name, some j) ∈ slots) (h : j.Proper) (default : Json) :
    f.defaulted name json default = some j ↔ j.Kept read f.room := by
  rw [Fields.defaulted, hf _ hslot]
  exact value?_docBy read j h f.room

end Filled

/-! ## Leaves -/

/-- A decoder that gives a value back that is written as a string. -/
theorem Undoes.of_str {decode : Decoder α} {encode : α → Json} {x : α} {s : String}
    (hencode : encode x = .str s) (hdecode : ∀ room, decode room (.str s) = some x) :
    Undoes decode encode x := by
  refine ⟨?_, ?_⟩
  · intro read room
    rw [hencode]
    exact iff_of_true (hdecode room) (kept_leaf rfl rfl)
  · intro read
    rw [hencode]
    exact Doc.noConfusion

/-- A decoder that gives a value back that is written as an integer. -/
theorem Undoes.of_int {decode : Decoder α} {encode : α → Json} {x : α} {i : ℤ}
    (hencode : encode x = .int i) (hdecode : ∀ room, decode room (.int i) = some x) :
    Undoes decode encode x := by
  refine ⟨?_, ?_⟩
  · intro read room
    rw [hencode]
    exact iff_of_true (hdecode room) (kept_leaf rfl rfl)
  · intro read
    rw [hencode]
    exact Doc.noConfusion

theorem undoes_str (s : String) : Undoes str .str s := .of_str rfl fun _ => rfl

theorem undoes_bool (b : Bool) : Undoes bool .bool b :=
  ⟨fun _ _ => iff_of_true rfl (kept_leaf rfl rfl), fun _ => Doc.noConfusion⟩

/-- A signed 32-bit integer. -/
def IsInt32 (i : ℤ) : Prop := -2147483648 ≤ i ∧ i ≤ 2147483647

/-- A signed 64-bit integer. -/
def IsInt64 (i : ℤ) : Prop := -9223372036854775808 ≤ i ∧ i ≤ 9223372036854775807

/-- An unsigned 64-bit integer. -/
def IsNat64 (n : ℕ) : Prop := n ≤ 18446744073709551615

instance (i : ℤ) : Decidable (IsInt32 i) := inferInstanceAs (Decidable (_ ∧ _))

instance (i : ℤ) : Decidable (IsInt64 i) := inferInstanceAs (Decidable (_ ∧ _))

theorem IsInt32.proper {i : ℤ} (h : IsInt32 i) : (Json.int i).Proper := by
  obtain ⟨hlow, hhigh⟩ := h
  exact ⟨by omega, by omega⟩

theorem IsInt64.proper {i : ℤ} (h : IsInt64 i) : (Json.int i).Proper := by
  obtain ⟨hlow, hhigh⟩ := h
  exact ⟨by omega, by omega⟩

theorem IsNat64.proper {n : ℕ} (h : IsNat64 n) : (Json.nat n).Proper := by
  unfold IsNat64 at h
  exact ⟨by omega, by omega⟩

theorem undoes_int32 {i : ℤ} (h : IsInt32 i) : Undoes int32 .int i :=
  .of_int rfl fun _ => if_pos h

theorem undoes_int64 {i : ℤ} (h : IsInt64 i) : Undoes int64 .int i :=
  .of_int rfl fun _ => if_pos h

theorem undoes_nat64 {n : ℕ} (h : IsNat64 n) : Undoes nat64 Json.nat n := by
  refine .of_int (i := n) rfl ?_
  intro room
  show (if (0 : ℤ) ≤ (n : ℤ) ∧ (n : ℤ) ≤ 18446744073709551615 then some (n : ℤ) else none).map
    Int.toNat = some n
  unfold IsNat64 at h
  rw [if_pos (by omega), Option.map_some, Int.toNat_natCast]

theorem undoes_double (d : Double) : Undoes double .float d := by
  have hdoc (read : Double → Option Double) :
      (∃ x, read d = some x ∧ docBy read (.float d) = .float x) ∨
        (read d = none ∧ docBy read (.float d) = .unreadable) := by
    rw [docBy]
    rcases read d with _ | x
    · exact .inr ⟨rfl, rfl⟩
    · exact .inl ⟨x, rfl, rfl⟩
  refine ⟨?_, ?_⟩
  · intro read room
    have hkept : (Json.float d).Kept read room ↔ read d = some d := by
      simp [Kept, depth, floats, reads_cons]
    rw [hkept]
    obtain ⟨x, hread, heq⟩ | ⟨hread, heq⟩ := hdoc read
    · rw [heq, hread]
      rfl
    · rw [heq, hread]
      rfl
  · intro read
    obtain ⟨x, -, heq⟩ | ⟨-, heq⟩ := hdoc read
    · rw [heq]
      exact Doc.noConfusion
    · rw [heq]
      exact Doc.noConfusion

theorem undoes_time {t : Timestamp} (h : t.Plain) : Undoes time Json.time t :=
  .of_str rfl fun _ => Timestamp.read?_text h

theorem undoes_jobId (id : JobId) : Undoes JobId.decoder JobId.toJson id :=
  .of_str rfl fun _ => congrArg (Option.map JobId.mk) id.uuid.ofText?_text

theorem undoes_traceId (id : TraceId) : Undoes TraceId.decoder TraceId.toJson id :=
  .of_str rfl fun _ => congrArg (Option.map TraceId.mk) id.uuid.ofText?_text

theorem undoes_workerId (id : WorkerId) : Undoes WorkerId.decoder WorkerId.toJson id :=
  .of_str rfl fun _ => rfl

theorem undoes_status (s : JobStatus) : Undoes JobStatus.decoder JobStatus.toJson s :=
  .of_str rfl fun _ => s.ofText?_text

theorem undoes_code (c : FailureCode) : Undoes FailureCode.decoder FailureCode.toJson c :=
  .of_str rfl fun _ => c.ofText?_text

theorem undoes_state (s : WorkerState) : Undoes WorkerState.decoder WorkerState.toJson s :=
  .of_str rfl fun _ => s.ofText?_text

end Decoder

end Dispatch
