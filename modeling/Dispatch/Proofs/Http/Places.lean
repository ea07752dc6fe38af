import Dispatch.Proofs.Http.Answer

/-!
# Where a path names a job

A job is named by a segment of a path, and there are four places for it: the job itself, its events,
its cancellation and its retry (`jobPlaces`).  A path is its parts with slashes between them
(`Query.intercalate_splitChars`), so the paths that name a job are just those of the four places
around a segment (`JobPlace.ofPath?_eq_some_iff`), and what a request asks about a job it asks there
(`JobPlace.actionOf_eq_ok_iff`).
-/

namespace Dispatch.Http

/-! ## Parts of a text -/

theorem Query.splitChars_ne_nil (isMark : Char → Bool) (cs : List Char) :
    splitChars isMark cs ≠ [] := by
  induction cs with
  | nil => exact List.cons_ne_nil _ _
  | cons c cs ih =>
    unfold splitChars
    split
    · exact List.cons_ne_nil _ _
    · split <;> exact List.cons_ne_nil _ _

/-- The parts hold no mark. -/
theorem Query.unmarked_of_mem_splitChars {isMark : Char → Bool} {cs part : List Char}
    (h : part ∈ splitChars isMark cs) : ∀ c ∈ part, isMark c = false := by
  induction cs generalizing part with
  | nil =>
    rw [splitChars, List.mem_singleton] at h
    rw [h]
    exact fun _ hc => absurd hc List.not_mem_nil
  | cons c cs ih =>
    unfold splitChars at h
    split at h
    case isTrue =>
      rcases List.mem_cons.mp h with rfl | h
      · exact fun _ hc => absurd hc List.not_mem_nil
      · exact ih h
    case isFalse hc =>
      split at h
      case h_1 first rest hparts =>
        rw [hparts] at ih
        rcases List.mem_cons.mp h with rfl | h
        · exact List.forall_mem_cons.mpr ⟨by simpa using hc, ih List.mem_cons_self⟩
        · exact ih (List.mem_cons_of_mem _ h)
      case h_2 hparts => exact absurd hparts (splitChars_ne_nil _ _)

/-- A text is its parts with the mark between them. -/
theorem Query.intercalate_splitChars (mark : Char) (cs : List Char) :
    [mark].intercalate (splitChars (· = mark) cs) = cs := by
  induction cs with
  | nil => rfl
  | cons c cs ih =>
    unfold splitChars
    cases hparts : splitChars (· = mark) cs with
    | nil => exact absurd hparts (splitChars_ne_nil _ _)
    | cons part parts =>
      rw [hparts] at ih
      split
      case isTrue hc =>
        rw [of_decide_eq_true hc]
        show [mark].intercalate ([] :: part :: parts) = _
        rw [List.intercalate_cons_cons, ih]
        rfl
      case isFalse =>
        show [mark].intercalate ((c :: part) :: parts) = _
        cases parts with
        | nil => simpa [List.intercalate] using ih
        | cons next parts =>
          rw [List.intercalate_cons_cons] at ih ⊢
          rw [← ih]
          rfl

variable {segment path : List Char} {r : Request}

/-- The texts of the parts of a path, as the routes name them, make up the path. -/
theorem eq_of_splitChars {names : List String}
    (h : (Query.splitChars (· = '/') path).map String.ofList = names) :
    path = ['/'].intercalate (names.map String.toList) ∧
      ∀ name ∈ names, '/' ∉ name.toList := by
  have hparts : Query.splitChars (· = '/') path = names.map String.toList := by
    have hid : String.toList ∘ String.ofList = id := funext fun _ => String.toList_ofList
    rw [← h, List.map_map, hid, List.map_id]
  constructor
  · rw [← hparts, Query.intercalate_splitChars]
  · intro name hname hslash
    have hpart : name.toList ∈ Query.splitChars (· = '/') path :=
      hparts ▸ List.mem_map_of_mem hname
    exact absurd (Query.unmarked_of_mem_splitChars hpart '/' hslash) (by decide)

/-! ## Places -/

/-- A segment that a path may have for a job. -/
structure IsSegment (segment : List Char) : Prop where
  nonempty : segment ≠ []
  plain : '/' ∉ segment

/-- A place in a path where a segment names a job. -/
structure JobPlace where
  path : List Char → List Char
  /-- What the path names. -/
  resource : List Char → Resource
  /-- The method that is known there. -/
  method : String
  /-- What it asks for. -/
  action : List Char → Action

/-- The places in paths where a segment names a job. -/
def jobPlaces : List JobPlace :=
  [⟨fun segment => "/v1/jobs/".toList ++ segment, .job, "GET", .showJob⟩,
    ⟨fun segment => "/v1/jobs/".toList ++ segment ++ "/events".toList, .events, "GET",
      .listEvents⟩,
    ⟨fun segment => "/v1/jobs/".toList ++ segment ++ "/cancel".toList, .cancellation, "POST",
      .cancelJob⟩,
    ⟨fun segment => "/v1/admin/jobs/".toList ++ segment ++ "/retry".toList, .retry, "POST",
      .retryJob⟩]

namespace JobPlace

variable {place : JobPlace}

/-- A method is known at a place, and `HEAD` where `GET` is. -/
def Knows (place : JobPlace) (method : String) : Prop :=
  (if method = "HEAD" then "GET" else method) = place.method

instance (place : JobPlace) (method : String) : Decidable (place.Knows method) :=
  inferInstanceAs (Decidable (_ = place.method))

theorem ofPath?_path (hplace : place ∈ jobPlaces) (h : IsSegment segment) :
    Resource.ofPath? (place.path segment) = some (place.resource segment) := by
  simp only [jobPlaces, List.mem_cons, List.not_mem_nil, or_false] at hplace
  rcases hplace with rfl | rfl | rfl | rfl
  · exact Resource.ofPath?_job h.nonempty h.plain
  · exact Resource.ofPath?_events h.nonempty h.plain
  · exact Resource.ofPath?_cancellation h.nonempty h.plain
  · exact Resource.ofPath?_retry h.nonempty h.plain

theorem path_eq_of_ofPath? (hplace : place ∈ jobPlaces)
    (h : Resource.ofPath? path = some (place.resource segment)) :
    path = place.path segment ∧ IsSegment segment := by
  simp only [jobPlaces, List.mem_cons, List.not_mem_nil, or_false] at hplace
  unfold Resource.ofPath? at h
  split at h
  case h_3 name rest hparts =>
    obtain ⟨rfl, hplain⟩ := eq_of_splitChars hparts
    unfold Resource.ofJobSegments? at h
    split at h
    case h_1 => cases h
    case h_2 hnonempty =>
      rcases hplace with rfl | rfl | rfl | rfl <;> cases h
      exact ⟨by simp [List.intercalate], hnonempty, hplain name (by simp)⟩
    case h_3 hnonempty =>
      rcases hplace with rfl | rfl | rfl | rfl <;> cases h
      exact ⟨by simp [List.intercalate], hnonempty, hplain name (by simp)⟩
    case h_4 hnonempty =>
      rcases hplace with rfl | rfl | rfl | rfl <;> cases h
      exact ⟨by simp [List.intercalate], hnonempty, hplain name (by simp)⟩
    case h_5 => cases h
  case h_4 name hparts =>
    obtain ⟨rfl, hplain⟩ := eq_of_splitChars hparts
    split at h
    case isTrue => cases h
    case isFalse hnonempty =>
      rcases hplace with rfl | rfl | rfl | rfl <;> cases h
      exact ⟨by simp [List.intercalate], by simpa using hnonempty, hplain name (by simp)⟩
  -- the other paths name no job
  all_goals rcases hplace with rfl | rfl | rfl | rfl <;> cases h

theorem ofPath?_eq_some_iff (hplace : place ∈ jobPlaces) :
    Resource.ofPath? path = some (place.resource segment) ↔
      path = place.path segment ∧ IsSegment segment := by
  constructor
  · exact path_eq_of_ofPath? hplace
  · rintro ⟨rfl, h⟩
    exact ofPath?_path hplace h

/-! ## Actions at a place -/

theorem action?_resource (hplace : place ∈ jobPlaces) (method : String)
    (segment : List Char) :
    (place.resource segment).action? method =
      if place.Knows method then some (place.action segment) else none := by
  simp only [jobPlaces, List.mem_cons, List.not_mem_nil, or_false] at hplace
  unfold Resource.action?
  by_cases h : place.Knows method
  · rw [if_pos h]
    unfold Knows at h
    rw [h]
    rcases hplace with rfl | rfl | rfl | rfl <;> rfl
  · rw [if_neg h]
    unfold Knows at h
    generalize (if method = "HEAD" then "GET" else method) = asked at h ⊢
    rcases hplace with rfl | rfl | rfl | rfl
    all_goals split <;> simp_all

theorem resource_eq_of_action? (hplace : place ∈ jobPlaces) {resource : Resource}
    {method : String} (h : resource.action? method = some (place.action segment)) :
    resource = place.resource segment := by
  simp only [jobPlaces, List.mem_cons, List.not_mem_nil, or_false] at hplace
  unfold Resource.action? at h
  split at h <;> rcases hplace with rfl | rfl | rfl | rfl <;> cases h <;> rfl

/-- What a request asks at such a place does not depend on the segment. -/
theorem actionOf_eq (hplace : place ∈ jobPlaces) (hpath : r.target.path = place.path segment)
    (h : IsSegment segment) :
    App.actionOf r =
      if place.Knows r.method then .ok (place.action segment) else .error .unknownMethod := by
  have hresource : Resource.ofPath? r.target.path = some (place.resource segment) :=
    (ofPath?_eq_some_iff hplace).mpr ⟨hpath, h⟩
  have hknown := action?_resource hplace r.method segment
  by_cases hmethod : place.Knows r.method
  · rw [if_pos hmethod] at hknown ⊢
    simp only [App.actionOf, hresource, hknown]
  · rw [if_neg hmethod] at hknown ⊢
    simp only [App.actionOf, hresource, hknown]

/-- What is asked about a job is asked at the place for it, by the method that is known there. -/
theorem actionOf_eq_ok_iff (hplace : place ∈ jobPlaces) :
    App.actionOf r = .ok (place.action segment) ↔
      r.target.path = place.path segment ∧ IsSegment segment ∧ place.Knows r.method := by
  constructor
  · intro h
    have hfound : Resource.ofPath? r.target.path = some (place.resource segment) := by
      unfold App.actionOf at h
      split at h
      case h_1 => cases h
      case h_2 resource hresource =>
        split at h
        case h_1 => cases h
        case h_2 action haction =>
          obtain rfl : action = place.action segment := Except.ok.inj h
          rw [hresource, resource_eq_of_action? hplace haction]
    obtain ⟨hpath, hsegment⟩ := (ofPath?_eq_some_iff hplace).mp hfound
    refine ⟨hpath, hsegment, ?_⟩
    by_contra hunknown
    rw [actionOf_eq hplace hpath hsegment, if_neg hunknown] at h
    cases h
  · rintro ⟨hpath, hsegment, hknown⟩
    rw [actionOf_eq hplace hpath hsegment, if_pos hknown]

end JobPlace

end Dispatch.Http
