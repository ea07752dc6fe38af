import Dispatch.Proofs.Json.Slots

/-!
# Codecs

A codec is the written form of a type: an encoder, a decoder and the fields of the record that both
speak of.  A sound codec gives a written value back exactly if it is kept, and cannot tell records
with the same fields apart.  An encoder that fills slots and a decoder that opens a record and
builds a value of its fields make a sound codec (`Codec.sound_of_slots`), where the builder is asked
for no more than to build the value of slots that are kept.
-/

namespace Dispatch

open Json Decoder

/-- How the values of a type are written and read: as records with the given fields.  Of the values
of the type, programs hold the proper ones. -/
structure Codec (α : Type) where
  encode : α → Json
  decode : Decoder α
  fields : List Field
  Proper : α → Prop

namespace Codec

variable {α : Type}

/-- The codec gives a written value back exactly if it is kept, and its decoder cannot tell records
with the same fields apart. -/
structure Sound (C : Codec α) : Prop where
  undoes : ∀ {x : α}, C.Proper x → Undoes C.decode C.encode x
  proper : ∀ {x : α}, C.Proper x → (C.encode x).Proper
  sameRecord : ∀ (read : Double → Option Double) (x : α),
    Doc.SameRecord C.fields ((C.encode x).docBy read) ((C.encode x).docBy read)
  nodup : (C.fields.map Field.name).Nodup
  regular : ∀ field ∈ C.fields, field.Regular
  congr : ∀ {a b : Doc}, Doc.SameRecord C.fields a b → ∀ room, C.decode room a = C.decode room b

theorem map_name_eq_of_fits {read : Double → Option Double} {fields : List Field}
    {slots : List (String × Option Json)} (h : List.Forall₂ (Fits read) fields slots) :
    fields.map Field.name = slots.map (·.1) := by
  induction h with
  | nil => rfl
  | cons hfit _ ih => rw [List.map_cons, List.map_cons, hfit.1, ih]

/-- A decoder that opens a record and builds a value of its fields. -/
theorem sound_of_slots {C : Codec α} {slots : α → List (String × Option Json)}
    {build : Fields → Option α} (hencode : ∀ x, C.encode x = .obj (present (slots x)))
    (hdecode : ∀ room doc,
      C.decode room doc = (fields? (C.fields.map Field.name) room doc).bind build)
    (hnodup : (C.fields.map Field.name).Nodup) (hregular : ∀ field ∈ C.fields, field.Regular)
    (hfits : ∀ read x, List.Forall₂ (Fits read) C.fields (slots x))
    (hproper : ∀ x, C.Proper x → ∀ slot ∈ slots x, ∀ j ∈ slot.2, j.Proper)
    (hbuild : ∀ x, C.Proper x → ∀ read f, Filled read (slots x) f →
      (build f = some x ↔ ∀ slot ∈ slots x, ∀ j ∈ slot.2, j.Kept read f.room))
    (hcongr : ∀ f g, Fields.Agree C.fields f g → build f = build g) : C.Sound := by
  have hnames (x : α) : C.fields.map Field.name = (slots x).map (·.1) :=
    map_name_eq_of_fits (hfits (fun _ => none) x)
  have hslots (x : α) : ((slots x).map (·.1)).Nodup := hnames x ▸ hnodup
  refine ⟨?_, ?_, ?_, hnodup, hregular, ?_⟩
  · intro x hx
    refine ⟨?_, ?_⟩
    · intro read room
      rw [hencode, hdecode, kept_present]
      rcases Nat.eq_zero_or_pos room with rfl | hroom
      · simp [fields?_zero]
      · obtain ⟨f, hf, hfroom, hfilled⟩ := open_present read (hslots x) hroom
        rw [hnames x, hf, Option.bind_some, hbuild x hx read f hfilled, hfroom]
        exact (and_iff_right hroom).symm
    · intro read h
      rw [hencode] at h
      cases h
  · intro x hx
    rw [hencode]
    exact proper_present (hslots x) (hproper x hx)
  · intro read x
    rw [hencode]
    exact sameRecord_present (hfits read x) (hslots x)
  · intro a b h room
    rw [hdecode, hdecode]
    obtain ⟨ha, hb⟩ | ⟨f, g, ha, hb, hagree⟩ := open_sameRecord h room
    · rw [ha, hb]
    · rw [ha, hb, Option.bind_some, Option.bind_some, hcongr f g hagree]

end Codec

end Dispatch
