import Dispatch.Proofs.Json.Entities

/-!
# The wire format

Decoding undoes encoding (`Codec.Faithful`).  The text of an entity is read as the entity exactly if
its containers nest no deeper than readers follow and each of its binary64 numbers is read back from
its text; the reader rounds a number more than once if its decimal is long, so not every number is.
However the record is spelled anew, it is read as what its text is read as, and no text is written
of two entities.
-/

namespace Dispatch

open Json Decoder

/-- The decimal that is written for the number has at most 53 bits and a power of ten that is a
number. -/
def Double.IsShort (d : Double) : Prop :=
  d.written.significand ≤ 9007199254740992 ∧ -22 ≤ d.written.exponent ∧ d.written.exponent ≤ 22

namespace Codec

variable {α : Type} {C : Codec α}

/-- What is read of the texts of proper values. -/
structure Faithful (C : Codec α) : Prop where
  /-- The text of a value is read as the value exactly if there is room for its containers and its
  binary64 numbers are read back. -/
  undo : ∀ x, C.Proper x → (runText C.decode (C.encode x).render = some x ↔
    (C.encode x).depth ≤ Json.maxDepth ∧ ∀ d ∈ (C.encode x).floats, d.ReadsBack)
  /-- Numbers with short decimals are read back. -/
  undo_short : ∀ x, C.Proper x → (C.encode x).depth ≤ Json.maxDepth →
    (∀ d ∈ (C.encode x).floats, d.IsShort) → runText C.decode (C.encode x).render = some x
  /-- A text that spells the record of a value anew is read as the text of the value is. -/
  respelled : ∀ x, C.Proper x → ∃ doc, Doc.read? (C.encode x).render = some doc ∧
    ∀ text doc', Doc.read? text = some doc' → doc.Respelled C.fields doc' →
      runText C.decode text = runText C.decode (C.encode x).render
  /-- Values with the same text are the same. -/
  injective : ∀ x y, C.Proper x → C.Proper y → (C.encode x).render = (C.encode y).render → x = y

namespace Sound

variable {x y : α}

/-- The text of a value is read as the record that the encoder writes. -/
theorem runText_render (h : C.Sound) (hx : C.Proper x) :
    runText C.decode (C.encode x).render =
      C.decode Json.maxDepth ((C.encode x).docBy Double.reread?) := by
  rw [runText, read?_render (h.proper hx)]
  rfl

theorem undo (h : C.Sound) (hx : C.Proper x) :
    runText C.decode (C.encode x).render = some x ↔
      (C.encode x).depth ≤ Json.maxDepth ∧ ∀ d ∈ (C.encode x).floats, d.ReadsBack := by
  rw [h.runText_render hx]
  exact (h.undoes hx).decode_iff Double.reread? Json.maxDepth

/-- With enough room and a reader that reads every number as itself, a record is read as the value
that was written, so it was written of one value only. -/
theorem encode_injective (h : C.Sound) (hx : C.Proper x) (hy : C.Proper y)
    (heq : C.encode x = C.encode y) : x = y := by
  have hreads (ds : List Double) : Reads some ds := fun _ _ => rfl
  have hx' := ((h.undoes hx).decode_iff some _).mpr ⟨le_refl (C.encode x).depth, hreads _⟩
  have hy' := ((h.undoes hy).decode_iff some _).mpr ⟨le_refl (C.encode y).depth, hreads _⟩
  rw [heq, hy'] at hx'
  exact (Option.some.inj hx').symm

/-- A sound codec is faithful. -/
theorem faithful (h : C.Sound) : C.Faithful := by
  refine ⟨fun x hx => h.undo hx, ?_, ?_, ?_⟩
  · intro x hx hdepth hshort
    rw [h.undo hx]
    refine ⟨hdepth, ?_⟩
    intro d hd
    obtain ⟨hbits, hlow, hhigh⟩ := hshort d hd
    exact Double.readsBack_of_short hbits hlow hhigh
  · intro x hx
    have hself := h.sameRecord Double.reread? x
    refine ⟨(C.encode x).docBy Double.reread?, read?_render (h.proper hx), ?_⟩
    intro text doc' htext hrespelled
    have hsame := hrespelled.sameRecord hself h.nodup h.regular
    have hread : runText C.decode text = C.decode Json.maxDepth doc' := by
      rw [runText, htext]
      rfl
    rw [hread, h.runText_render hx]
    exact (h.congr hsame Json.maxDepth).symm
  · intro x y hx hy htext
    apply h.encode_injective hx hy
    exact render_injective _ _ (h.proper hx) (h.proper hy) htext

end Sound

end Codec

/-! ## The entities -/

/-- Every entity is read back from its text, from every spelling of its record, and from no other
entity's text. -/
theorem faithful_wireFormat :
    Draft.codec.Faithful ∧ Job.codec.Faithful ∧ Attempt.codec.Faithful ∧ Usage.codec.Faithful ∧
      Snapshot.codec.Faithful ∧ Event.codec.Faithful ∧ Heartbeat.codec.Faithful ∧
      Tally.codec.Faithful :=
  ⟨Draft.sound_codec.faithful, Job.sound_codec.faithful, Attempt.sound_codec.faithful,
    Usage.sound_codec.faithful, Snapshot.sound_codec.faithful, Event.sound_codec.faithful,
    Heartbeat.sound_codec.faithful, Tally.sound_codec.faithful⟩

/-! ## What is lost -/

/-- A value in so many arrays. -/
def Json.boxed : ℕ → Json
  | 0 => .null
  | n + 1 => .arr [boxed n]

namespace Json

theorem depth_boxed (n : ℕ) : (boxed n).depth = n := by
  induction n with
  | zero => rfl
  | succ n ih =>
    rw [boxed, depth, depthItems, depthItems, ih]
    omega

theorem proper_boxed (n : ℕ) : (boxed n).Proper := by
  induction n with
  | zero => trivial
  | succ n ih => exact ⟨ih, trivial⟩

end Json

/-- A draft that is one array too deep. -/
def Draft.deep : Draft := { tenant := "t", model := "m", payload := boxed 127 }

/-- A usage whose cost is written with seventeen digits. -/
def Usage.long : Usage := { cost := ⟨false, 7205759403792796, 0, by decide⟩ }

theorem Draft.proper_deep : deep.Proper := ⟨by decide, proper_boxed 127, by decide⟩

theorem Usage.proper_long : long.Proper := ⟨by decide, List.nodup_nil, trivial⟩

/-- A draft with a payload of 127 containers is not read back, and neither is a usage with the cost
7205759403792796.0. -/
theorem lost_when_deep_or_long :
    (Draft.deep.Proper ∧ runText Draft.decoder Draft.deep.toJson.render ≠ some Draft.deep) ∧
      (Usage.long.Proper ∧ runText Usage.decoder Usage.long.toJson.render ≠ some Usage.long) := by
  refine ⟨⟨Draft.proper_deep, ?_⟩, Usage.proper_long, ?_⟩
  · intro hread
    have hkept : (Json.obj (present Draft.deep.slots)).Kept Double.reread? Json.maxDepth :=
      (Draft.sound_codec.undo Draft.proper_deep).mp hread
    rw [kept_present] at hkept
    have hroom : (boxed 127).depth ≤ Json.maxDepth - 1 :=
      (hkept.2 ("payload", some (boxed 127)) (by simp [Draft.slots, Draft.deep]) _ rfl).1
    rw [depth_boxed] at hroom
    exact absurd hroom (by decide)
  · intro hread
    obtain ⟨-, hreads⟩ := (Usage.sound_codec.undo Usage.proper_long).mp hread
    have hcost := hreads Usage.long.cost List.mem_cons_self
    exact absurd hcost (by decide +kernel)

end Dispatch
