import Dispatch.Proofs.Http.Places
import Dispatch.Proofs.Text.Bytes
import Dispatch.Proofs.Uuid.Spellings
import Dispatch.Redis.Queue

/-!
# One job under every spelling

Wherever an identity is read, it is read in every spelling of its identifier, with any blanks around
it, and no other text is read (`Reads`).  It is written in one of these spellings, so what is
written reads back and no two identities are written alike (`ReadsBack`), nor are their leases kept
under one key.  The entries of a ready list are such texts (`RedisQueue.EntriesReadBack`), and so
are the segments of paths that name a job: all requests that name it there are served alike
(`Http.NamesAlike`).
-/

namespace Dispatch

/-! ## Readers -/

/-- A reader of identities accepts every spelling of an identifier, with any blanks around it, and
refuses every other text in words of its own. -/
structure Reads {ε ι : Type} (uuid : ι → Uuid) (read : String → Except ε ι)
    (refusal : String → ε) : Prop where
  eq_ok_iff : ∀ s id, read s = .ok id ↔ (uuid id).IsSpelledBy Uuid.schemes s
  eq_error : ∀ s, (∀ u : Uuid, ¬u.IsSpelledBy Uuid.schemes s) → read s = .error (refusal s)

/-- A reader that leaves the reading to that of identifiers. -/
theorem Reads.of_ofText? {ε ι : Type} {uuid : ι → Uuid} {read : String → Except ε ι}
    {refusal : String → ε} (ofUuid : Uuid → ι) (left : Function.LeftInverse ofUuid uuid)
    (right : Function.RightInverse ofUuid uuid)
    (hread : ∀ s, read s =
      ((Uuid.ofText? (Text.trim s)).map ofUuid).elim (.error (refusal s)) .ok) :
    Reads uuid read refusal := by
  constructor
  · intro s id
    rw [← Uuid.ofText?_trim_eq_some_iff, hread]
    cases Uuid.ofText? (Text.trim s) with
    | none => exact ⟨nofun, nofun⟩
    | some u =>
      show Except.ok (ofUuid u) = .ok id ↔ some u = some (uuid id)
      rw [Except.ok.injEq, Option.some.injEq]
      exact ⟨fun h => h ▸ (right u).symm, fun h => h ▸ left id⟩
  · intro s hs
    rw [hread]
    cases hu : Uuid.ofText? (Text.trim s) with
    | none => rfl
    | some u => exact absurd (Uuid.ofText?_trim_eq_some_iff.mp hu) (hs u)

theorem JobId.reads {ε : Type} {read : String → Except ε JobId} {refusal : String → ε}
    (hread : ∀ s, read s = (ofText? s).elim (.error (refusal s)) .ok) :
    Reads uuid read refusal :=
  .of_ofText? mk (fun _ => rfl) (fun _ => rfl) hread

/-! ## Identities -/

/-- A kind of identity is read in all its spellings, and written in the grouped one in lower case,
which reads back. -/
structure ReadsBack {ι : Type} (uuid : ι → Uuid) (written : ι → String)
    (parse : String → Except JobError ι) (wording : String) : Prop
    extends Reads uuid parse fun _ => .validation wording where
  /-- There is one identity for each identifier. -/
  bijective : Function.Bijective uuid
  written_eq : ∀ id, written id = String.ofList (Uuid.inGroups (uuid id).hex)
  parse_written : ∀ id, parse (written id) = .ok id
  injective : Function.Injective written

theorem Uuid.isSpelledBy_text (u : Uuid) : u.IsSpelledBy schemes u.text := by
  refine ⟨u.chars, isSpelling_spell u .grouped, [], [], by decide, by decide, ?_⟩
  rw [text, String.toList_ofList, List.nil_append, List.append_nil]

theorem Reads.readsBack {ι : Type} {uuid : ι → Uuid} {written : ι → String}
    {parse : String → Except JobError ι} {wording : String}
    (h : Reads uuid parse fun _ => .validation wording) (bijective : Function.Bijective uuid)
    (hwritten : ∀ id, written id = (uuid id).text) : ReadsBack uuid written parse wording := by
  have hread (id : ι) : parse (written id) = .ok id := by
    rw [h.eq_ok_iff, hwritten]
    exact Uuid.isSpelledBy_text _
  refine ⟨h, bijective, fun id => ?_, hread, fun a b hsame => ?_⟩
  · rw [hwritten, Uuid.text_eq_ofList]
  · have hparsed : parse (written a) = parse (written b) := congrArg parse hsame
    rw [hread, hread] at hparsed
    exact Except.ok.inj hparsed

theorem JobId.readsBack (reason : Option String) :
    ReadsBack uuid text (parse · reason) (complaint "JobId" reason) := by
  have hreads : Reads uuid (parse · reason) fun _ => .validation (complaint "JobId" reason) := by
    refine JobId.reads fun s => ?_
    unfold parse
    cases ofText? s <;> rfl
  exact hreads.readsBack ⟨fun _ _ h => congrArg mk h, fun u => ⟨mk u, rfl⟩⟩ fun _ => rfl

example : JobId.parse "\u2003\x7b0190A3b2-0000-7000-8000-000000000abC\x7d\n" =
    .ok ⟨⟨0x0190a3b2000070008000000000000abc, by decide⟩⟩ := rfl

theorem TraceId.readsBack (reason : Option String) :
    ReadsBack uuid text (parse · reason) (complaint "TraceId" reason) := by
  have hreads : Reads uuid (parse · reason) fun _ => .validation (complaint "TraceId" reason) := by
    refine .of_ofText? mk (fun _ => rfl) (fun _ => rfl) fun s => ?_
    unfold parse
    cases Uuid.ofText? (Text.trim s) <;> rfl
  exact hreads.readsBack ⟨fun _ _ h => congrArg mk h, fun u => ⟨mk u, rfl⟩⟩ fun _ => rfl

/-! ## Entries of a ready list -/

/-- The entry that a job is put on the list with reads as the job, and an entry that reads as none
is reported with its text. -/
structure RedisQueue.EntriesReadBack (q : RedisQueue) : Prop
    extends Reads JobId.uuid parseEntry fun entry =>
      .protocol ("ready list entry is not a job id: " ++ Text.quoted entry) where
  parseEntry_pushed : ∀ id, ∃ entry, q.command (.enqueue id) = .push q.readyKey entry ∧
    parseEntry entry = .ok id

theorem RedisQueue.entriesReadBack (q : RedisQueue) : q.EntriesReadBack := by
  have hreads : Reads JobId.uuid parseEntry fun entry =>
      .protocol ("ready list entry is not a job id: " ++ Text.quoted entry) := by
    refine JobId.reads fun entry => ?_
    unfold parseEntry
    cases JobId.ofText? entry <;> rfl
  refine ⟨hreads, fun id => ⟨id.text, rfl, ?_⟩⟩
  rw [hreads.eq_ok_iff]
  exact Uuid.isSpelledBy_text _

namespace Http

variable {segment other : List Char} {id : JobId} {u : Surroundings} {r : Request}

/-! ## Requests that name a job -/

/-- The request with another path. -/
def Request.at (r : Request) (path : List Char) : Request :=
  { r with target := { r.target with path } }

theorem reads_jobOf : Reads JobId.uuid jobOf fun _ => .job (.notFound "JobId") := by
  refine JobId.reads fun s => ?_
  unfold jobOf
  cases JobId.ofText? s <;> rfl

theorem target_eq_ok_iff :
    App.target segment = .ok id ↔
      ∃ s, segmentOf segment = .ok s ∧ id.uuid.IsSpelledBy Uuid.schemes s := by
  rw [App.target]
  cases segmentOf segment with
  | error p => exact ⟨nofun, fun ⟨_, h, _⟩ => nomatch h⟩
  | ok s =>
    simp only [Bind.bind, Except.bind, reads_jobOf.eq_ok_iff]
    exact ⟨fun h => ⟨s, rfl, h⟩, fun ⟨_, hs, h⟩ => Except.ok.inj hs ▸ h⟩

/-- With a job named, a listing of events hangs on the query alone. -/
theorem eventsOf_of_target (h : App.target segment = .ok id) (q : Query) :
    App.eventsOf segment q =
      if q.isPlain ["limit"] then (parseLimit (q.get? "limit")).map fun limit => (id, limit)
      else .error .repeatedName := by
  obtain ⟨s, hs, hid⟩ := target_eq_ok_iff.mp h
  simp only [App.eventsOf, hs, Bind.bind, Except.bind, (reads_jobOf.eq_ok_iff s id).mpr hid]
  cases q.isPlain ["limit"] with
  | false => rfl
  | true => cases parseLimit (q.get? "limit") <;> rfl

theorem perform_congr {place : JobPlace} (hplace : place ∈ jobPlaces)
    (h : App.target segment = .ok id) (hother : App.target other = .ok id) :
    App.perform u (r.at (place.path segment)) (place.action segment) =
      App.perform u (r.at (place.path other)) (place.action other) := by
  simp only [jobPlaces, List.mem_cons, List.not_mem_nil, or_false] at hplace
  rcases hplace with rfl | rfl | rfl | rfl
  · show App.reading (App.target segment) _ = App.reading (App.target other) _
    rw [h, hother]
  · show App.reading (App.eventsOf segment _) _ = App.reading (App.eventsOf other _) _
    rw [eventsOf_of_target h, eventsOf_of_target hother]
    rfl
  · show App.reading (App.target segment) _ = App.reading (App.target other) _
    rw [h, hother]
  · show App.reading (App.target segment) _ = App.reading (App.target other) _
    rw [h, hother]

theorem serve_congr {place : JobPlace} (hplace : place ∈ jobPlaces) (hsegment : IsSegment segment)
    (hnext : IsSegment other) (h : App.target segment = .ok id)
    (hother : App.target other = .ok id) :
    App.serve u (r.at (place.path segment)) = App.serve u (r.at (place.path other)) := by
  unfold App.serve
  rw [JobPlace.actionOf_eq hplace rfl hsegment, JobPlace.actionOf_eq hplace rfl hnext]
  show Script.map _ (App.reading (if place.Knows r.method then _ else _) _) =
    Script.map _ (App.reading (if place.Knows r.method then _ else _) _)
  by_cases hmethod : place.Knows r.method
  · rw [if_pos hmethod, if_pos hmethod, App.reading, App.reading, perform_congr hplace h hother]
    rfl
  · rw [if_neg hmethod, if_neg hmethod]
    rfl

/-! ## Any spelling, anywhere -/

/-- Every text can be written as a segment. -/
theorem exists_segmentOf {s : String} (h : s ≠ "") :
    ∃ segment, IsSegment segment ∧ segmentOf segment = .ok s := by
  have hread (s : String) : segmentOf (Text.percentEncode s) = .ok s := by
    rw [segmentOf, Text.ofBytes?_percentEncode]
  refine ⟨_, ⟨fun hnil => h ?_, fun hslash => ?_⟩, hread s⟩
  · have hsame : segmentOf (Text.percentEncode s) = segmentOf (Text.percentEncode "") := by
      rw [hnil, Text.percentEncode_empty]
    rw [hread, hread] at hsame
    exact Except.ok.inj hsame
  · rcases Text.mem_percentEncode hslash with hc | ⟨n, hn, hc⟩
    · exact absurd hc (by decide)
    · have hall : ∀ n : Fin 16, Uuid.digitChar n ≠ '/' := by decide
      exact hall ⟨n, hn⟩ hc.symm

/-- What is asked about a job is asked at the place for it.  The segments that name a job there are
those that spell its identifier, every text can be written as a segment, and requests that name one
job are served alike. -/
structure NamesAlike : Prop where
  actionOf_eq_ok_iff : ∀ place ∈ jobPlaces, ∀ segment (r : Request),
    App.actionOf r = .ok (place.action segment) ↔
      r.target.path = place.path segment ∧ IsSegment segment ∧ place.Knows r.method
  exists_segmentOf : ∀ s, s ≠ "" → ∃ segment, IsSegment segment ∧ segmentOf segment = .ok s
  target_eq_ok_iff : ∀ segment id, App.target segment = .ok id ↔
    ∃ s, segmentOf segment = .ok s ∧ id.uuid.IsSpelledBy Uuid.schemes s
  serve_congr : ∀ place ∈ jobPlaces, ∀ segment other, IsSegment segment → IsSegment other →
    ∀ id, App.target segment = .ok id → App.target other = .ok id →
      ∀ (u : Surroundings) (r : Request), App.serve u (r.at (place.path segment)) =
        App.serve u (r.at (place.path other))

theorem namesAlike : NamesAlike where
  actionOf_eq_ok_iff _ hplace _ _ := JobPlace.actionOf_eq_ok_iff hplace
  exists_segmentOf _ := exists_segmentOf
  target_eq_ok_iff _ _ := target_eq_ok_iff
  serve_congr _ hplace _ _ hsegment hother _ h h' _ _ := serve_congr hplace hsegment hother h h'

end Http

/-- Identities are read in every spelling wherever they are read, and nothing else is read. -/
theorem identities_read_back :
    (∀ reason, ReadsBack JobId.uuid JobId.text (JobId.parse · reason)
      (complaint "JobId" reason)) ∧
      (∀ reason, ReadsBack TraceId.uuid TraceId.text (TraceId.parse · reason)
        (complaint "TraceId" reason)) ∧
      Function.Injective JobId.leaseKey ∧ (∀ q : RedisQueue, q.EntriesReadBack) ∧
      Http.NamesAlike :=
  ⟨JobId.readsBack, TraceId.readsBack, fun _ _ => JobId.leaseKey_inj.mp,
    RedisQueue.entriesReadBack, Http.namesAlike⟩

/-- The scheme is read in capitals too, and so is an entry that the queue does not write. -/
theorem capitals_read :
    (∀ u : Uuid, ¬u.IsSpelledBy ["urn:uuid:"] "URN:UUID:0190a3b2-0000-7000-8000-000000000abc") ∧
      JobId.parse "URN:UUID:0190a3b2-0000-7000-8000-000000000abc" =
        .ok ⟨⟨0x0190a3b2000070008000000000000abc, by decide⟩⟩ ∧
      (∀ (q : RedisQueue) (id : JobId), q.command (.enqueue id) ≠
        .push q.readyKey "0190A3B2-0000-7000-8000-000000000ABC") ∧
      RedisQueue.parseEntry "0190A3B2-0000-7000-8000-000000000ABC" =
        .ok ⟨⟨0x0190a3b2000070008000000000000abc, by decide⟩⟩ := by
  have hentry : RedisQueue.parseEntry "0190A3B2-0000-7000-8000-000000000ABC" =
        .ok ⟨⟨0x0190a3b2000070008000000000000abc, by decide⟩⟩ := by
    rfl
  refine ⟨fun u h => ?_, by rfl, fun q id h => ?_, hentry⟩
  · rw [Uuid.isSpelledBy_iff (by decide)] at h
    obtain ⟨scheme, hscheme, hstart⟩ := h.exists_scheme (by decide)
    rw [List.mem_singleton.mp hscheme] at hstart
    exact absurd hstart (by decide)
  · -- the entry would be the written form of the identity that it is read as
    obtain ⟨-, htext⟩ := Redis.Command.push.inj h
    have hid : id = ⟨⟨0x0190a3b2000070008000000000000abc, by decide⟩⟩ := by
      obtain ⟨_, hpush, hread⟩ := q.entriesReadBack.parseEntry_pushed id
      rw [h] at hpush
      rw [← (Redis.Command.push.inj hpush).2, hentry] at hread
      exact (Except.ok.inj hread).symm
    rw [hid] at htext
    exact absurd htext (by decide)

end Dispatch
