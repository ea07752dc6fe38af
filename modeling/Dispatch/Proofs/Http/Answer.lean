import Dispatch.Http.App
import Dispatch.Proofs.Service.Memory

/-!
# An answer says what was done

Of all requests three kinds do anything: submissions, cancellations and retries, and each of them
is a `POST` at a path of its own.  A request passes many checks before the service is asked, and
the service may still refuse; whichever of them says no, the answer is an error and nothing has
happened.  An answer that is no error says exactly what has.

`Truthful` collects what an answer says of the store and the queue before and after.
-/

namespace Dispatch.Http

/-! ## Paths -/

/-- A text without the mark is one part. -/
theorem Query.splitChars_of_unmarked {isMark : Char → Bool} {part : List Char}
    (unmarked : ∀ c ∈ part, isMark c = false) : splitChars isMark part = [part] := by
  induction part with
  | nil => rfl
  | cons c rest ih =>
    have hrest := ih fun d hd => unmarked d (List.mem_cons_of_mem c hd)
    simp [splitChars, unmarked c List.mem_cons_self, hrest]

/-- The first part ends at the first mark. -/
theorem Query.splitChars_append {isMark : Char → Bool} {part : List Char} {mark : Char}
    (unmarked : ∀ c ∈ part, isMark c = false) (hmark : isMark mark = true) (rest : List Char) :
    splitChars isMark (part ++ mark :: rest) = part :: splitChars isMark rest := by
  induction part with
  | nil => simp [splitChars, hmark]
  | cons c part ih =>
    have htail := ih fun d hd => unmarked d (List.mem_cons_of_mem c hd)
    simp [splitChars, unmarked c List.mem_cons_self, htail]

namespace Resource

variable {segment : List Char}

theorem unmarked_of_not_mem (plain : '/' ∉ segment) : ∀ c ∈ segment, decide (c = '/') = false := by
  intro c hc
  simp only [decide_eq_false_iff_not]
  rintro rfl
  exact plain hc

/-- The path of a job. -/
theorem ofPath?_job (nonempty : segment ≠ []) (plain : '/' ∉ segment) :
    ofPath? ("/v1/jobs/".toList ++ segment) = some (job segment) := by
  have hpath : "/v1/jobs/".toList ++ segment =
      [] ++ '/' :: ("v1".toList ++ '/' :: ("jobs".toList ++ '/' :: segment)) := by
    simp
  unfold ofPath?
  rw [hpath, Query.splitChars_append (by simp) rfl, Query.splitChars_append (by simp) rfl,
    Query.splitChars_append (by simp) rfl,
    Query.splitChars_of_unmarked (unmarked_of_not_mem plain)]
  cases segment with
  | nil => exact absurd rfl nonempty
  | cons c rest => simp [ofJobSegments?]

/-- The path of what stands below a job. -/
theorem ofPath?_below (word : List Char) (plainWord : '/' ∉ word) (plain : '/' ∉ segment) :
    ofPath? ("/v1/jobs/".toList ++ segment ++ '/' :: word) =
      ofJobSegments? [String.ofList word] segment := by
  have hpath : "/v1/jobs/".toList ++ segment ++ '/' :: word =
      [] ++ '/' :: ("v1".toList ++ '/' :: ("jobs".toList ++ '/' :: (segment ++ '/' :: word))) := by
    simp
  unfold ofPath?
  rw [hpath, Query.splitChars_append (by simp) rfl, Query.splitChars_append (by simp) rfl,
    Query.splitChars_append (by simp) rfl,
    Query.splitChars_append (unmarked_of_not_mem plain) rfl,
    Query.splitChars_of_unmarked (unmarked_of_not_mem plainWord)]
  simp

/-- The path of the events of a job. -/
theorem ofPath?_events (nonempty : segment ≠ []) (plain : '/' ∉ segment) :
    ofPath? ("/v1/jobs/".toList ++ segment ++ "/events".toList) = some (events segment) := by
  refine (ofPath?_below "events".toList (by decide) plain).trans ?_
  cases segment with
  | nil => exact absurd rfl nonempty
  | cons c rest => rfl

/-- The path of a cancellation. -/
theorem ofPath?_cancellation (nonempty : segment ≠ []) (plain : '/' ∉ segment) :
    ofPath? ("/v1/jobs/".toList ++ segment ++ "/cancel".toList) = some (cancellation segment) := by
  refine (ofPath?_below "cancel".toList (by decide) plain).trans ?_
  cases segment with
  | nil => exact absurd rfl nonempty
  | cons c rest => rfl

/-- The path of a retry. -/
theorem ofPath?_retry (nonempty : segment ≠ []) (plain : '/' ∉ segment) :
    ofPath? ("/v1/admin/jobs/".toList ++ segment ++ "/retry".toList) = some (retry segment) := by
  have hpath : "/v1/admin/jobs/".toList ++ segment ++ "/retry".toList =
      [] ++ '/' :: ("v1".toList ++ '/' :: ("admin".toList ++ '/' :: ("jobs".toList ++ '/' ::
        (segment ++ '/' :: "retry".toList)))) := by
    simp
  unfold ofPath?
  rw [hpath, Query.splitChars_append (by simp) rfl, Query.splitChars_append (by simp) rfl,
    Query.splitChars_append (by simp) rfl, Query.splitChars_append (by simp) rfl,
    Query.splitChars_append (unmarked_of_not_mem plain) rfl,
    Query.splitChars_of_unmarked (by simp)]
  simp [nonempty]

end Resource

/-- The request has this method and this path. -/
def Request.Asks (r : Request) (method : String) (path : List Char) : Prop :=
  r.method = method ∧ r.target.path = path

/-! ## Actions -/

/-- The action only asks. -/
def Action.isQuestion : Action → Bool
  | createJob | cancelJob _ | retryJob _ => false
  | _ => true

namespace App

variable {u : Surroundings} {r : Request} {segment : List Char}

end App

/-- The answer reports success. -/
def Response.isSuccess (a : Response) : Bool := 200 ≤ a.status && a.status < 300

/-- No problem is reported as a success. -/
theorem Problem.isSuccess_response (p : Problem) : p.response.isSuccess = false := by
  cases p with
  | job cause => cases cause <;> rfl
  | _ => rfl

namespace App

/-- The request submits a draft whose key leads to a job that is there, and nothing happens. -/
structure Replays (r : Request) (j : Job) (before after : Store × LeaseQueue) : Prop where
  submitted : ∃ draft k, draftOf r = .ok draft ∧ draft.normalized.claim = some k ∧
    before.1.keys.get? k = some j.id
  stored : before.1.jobs.get? j.id = some j
  same : after = before

variable {r : Request} {segment : List Char}

/-- What a request submits has a tenant and a model. -/
theorem isComplete_of_draftOf {draft : Draft} (h : draftOf r = .ok draft) :
    draft.isComplete = true := by
  have hnotblank : ∀ text : String, (Text.trim text).isEmpty = false →
      Text.allBlank (Text.trim text) = false := by
    intro text hnonempty
    unfold Text.trim at hnonempty ⊢
    cases hchars : Text.trimChars text.toList with
    | nil => simp [hchars] at hnonempty
    | cons c rest => simp [Text.allBlank, Text.head_trimChars hchars]
  unfold draftOf at h
  split at h
  · cases h
  · rename_i submission _
    dsimp only at h
    split at h
    · cases h
    · rename_i hfilled
      cases h
      simp only [not_or, Bool.not_eq_true] at hfilled
      simp [Draft.isComplete, submitted, hnotblank _ hfilled.1, hnotblank _ hfilled.2]

/-- What becomes of a submission. -/
inductive Submission (m : Moment) (r : Request) (s : Store) (q : LeaseQueue) :
    Response × Store × LeaseQueue → Prop
  /-- It is refused; then its key, if it has one, leads to no job. -/
  | refused {answer : Response} (error : answer.isSuccess = false)
      (vain : ∀ j, ¬ Replays r j (s, q) (s, q)) : Submission m r s q (answer, s, q)
  /-- Its key leads to a job. -/
  | found {j : Job} (replays : Replays r j (s, q) (s, q)) :
      Submission m r s q (created (j, true), s, q)
  /-- It makes a job. -/
  | made {draft : Draft} {j : Job} (submitted : draftOf r = .ok draft)
      (unknown : s.jobs.get? j.id = none)
      (fresh : j = Job.queued draft.normalized m.fresh m.now)
      (turn : Store.Turn m.now s .created j (s.register draft.normalized.claim j m.now)) :
      Submission m r s q
        (created (j, false), s.register draft.normalized.claim j m.now, q.enqueue j.id)

variable {m : Moment} {s : Store} {q : LeaseQueue}

theorem submission (h : s.Orderly) (u : Surroundings) (r : Request) :
    Submission m r s q ((perform u r .createJob).run (.memory m) (s, q)) := by
  show Submission m r s q
    ((reading (draftOf r) fun draft => showing created (Service.create draft)).run _ _)
  cases hdraft : draftOf r with
  | error p =>
    refine .refused p.isSuccess_response ?_
    rintro j ⟨⟨draft, k, hok, -⟩, -⟩
    rw [hdraft] at hok
    cases hok
  | ok draft =>
    have hcomplete := isComplete_of_draftOf hdraft
    show Submission m r s q ((showing created (Service.create draft)).run _ _)
    rw [showing, Script.run_map, Service.run_create]
    cases hs : s.create draft m.fresh m.now with
    | error e =>
      refine .refused (Problem.isSuccess_response (.job e.toJob)) ?_
      rintro j ⟨⟨draft', k, hok, hclaim, hk⟩, hstored, -⟩
      cases hdraft.symm.trans hok
      rw [Store.create_found hcomplete hclaim hk hstored] at hs
      cases hs
    | ok result =>
      obtain ⟨⟨j, found⟩, t⟩ := result
      rcases Store.create_inv hs with ⟨rfl, rfl, k, id, hclaim, hk, stored⟩ |
        ⟨rfl, hj, unknown, rfl⟩
      · obtain rfl := h.filed id j stored
        exact .found ⟨⟨draft, k, hdraft, hclaim, hk⟩, stored, rfl⟩
      · rcases Store.create_turn hs with ⟨hfound, -⟩ | ⟨-, turn⟩
        · cases hfound
        · exact .made hdraft unknown hj turn

namespace Submission

variable {w : Response × Store × LeaseQueue} {j : Job}

end Submission

/-- What becomes of a post about one job: it is refused, or the job takes a turn that leaves it in
some status, and the queue changes. -/
inductive Intervention (status : JobStatus) (effect : JobId → LeaseQueue → LeaseQueue)
    (segment : List Char) (s : Store) (q : LeaseQueue) : Response × Store × LeaseQueue → Prop
  | refused {answer : Response} (error : answer.isSuccess = false) :
      Intervention status effect segment s q (answer, s, q)
  | done {now : Time} {d : Store.Deed} {j : Job} {t : Store} (named : target segment = .ok j.id)
      (turn : Store.Turn now s d j t) (moves : ∀ p, Moves status j.id (s, q) (t, p)) :
      Intervention status effect segment s q (.json 200 (jobBody j), t, effect j.id q)

/-- What the job that the path names is asked for is shown, and so is why it cannot be served. -/
theorem run_target {ω α : Type} (b : Script.Backend ω) (respond : α → Response)
    (script : JobId → Script (Except JobError α)) (segment : List Char) (w : ω) :
    (reading (target segment) fun id => showing respond (script id)).run b w =
      match target segment with
      | .error p => (p.response, w)
      | .ok id => match (script id).run b w with
        | (.ok a, after) => (respond a, after)
        | (.error e, after) => ((Problem.job e).response, after) := by
  cases target segment with
  | error p => rfl
  | ok id =>
    show (showing respond (script id)).run b w = _
    rw [showing, Script.run_map]
    dsimp only
    generalize (script id).run b w = result
    obtain ⟨e | a, after⟩ := result
    · rfl
    · rfl

/-- A cancelled job has no entries and no lease any more. -/
theorem cancellation (h : s.Orderly) (u : Surroundings) (r : Request) (segment : List Char) :
    Intervention .cancelled (fun id q => (q.remove id).2.release id) segment s q
      ((perform u r (.cancelJob segment)).run (.memory m) (s, q)) := by
  unfold perform
  rw [run_target]
  cases htarget : target segment with
  | error p => exact .refused p.isSuccess_response
  | ok id =>
    dsimp only
    rw [Service.run_cancel]
    cases hs : s.cancel id Service.cancelReason m.now with
    | error e => exact .refused (Problem.isSuccess_response (.job e.toJob))
    | ok result =>
      obtain ⟨j, t⟩ := result
      obtain ⟨rfl, d, hd, turn⟩ := Store.cancel_turn h hs
      have hkind : d.kind = .cancelled := by
        rcases hd with rfl | rfl <;> rfl
      exact .done htarget turn fun p => turn.moves_cancelled hkind

/-- A job that waits again has one entry. -/
theorem retrial (h : s.Orderly) (u : Surroundings) (r : Request) (segment : List Char) :
    Intervention .queued (fun id q => (q.remove id).2.enqueue id) segment s q
      ((perform u r (.retryJob segment)).run (.memory m) (s, q)) := by
  unfold perform
  rw [run_target]
  cases htarget : target segment with
  | error p => exact .refused p.isSuccess_response
  | ok id =>
    dsimp only
    rw [Service.run_retry]
    cases hs : s.retry id m.now with
    | error e => exact .refused (Problem.isSuccess_response (.job e.toJob))
    | ok result =>
      obtain ⟨j, t⟩ := result
      obtain ⟨rfl, turn⟩ := Store.retry_turn h hs
      exact .done htarget turn fun p => turn.moves_retried

namespace Intervention

variable {status : JobStatus} {effect : JobId → LeaseQueue → LeaseQueue}
  {w : Response × Store × LeaseQueue}

end Intervention

/-! ## The answer to a request -/

theorem serve_of_action {a : Action} (h : actionOf r = .ok a) (u : Surroundings) (m : Moment)
    (before : Store × LeaseQueue) :
    (serve u r).run (.memory m) before =
      (sent u r ((perform u r a).run (.memory m) before).1,
        ((perform u r a).run (.memory m) before).2) := by
  unfold serve
  rw [Script.run_map, h]
  rfl

end App

end Dispatch.Http
