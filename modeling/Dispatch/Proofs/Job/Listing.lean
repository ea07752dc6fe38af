import Dispatch.Job.Filter
import Mathlib.Data.List.Basic
import Mathlib.Data.List.Nodup

/-!
# Listings and their pages

Listing order is a strict total order of places, and no two jobs share a place, so the jobs that a
filter covers have one listing.  A page is the beginning of the listing: what it leaves out comes
behind everything that it shows (`mem_page_or_behind`).  Behind the last job of a page the listing
goes on with what the page left out, no more and no less (`listing_resumeAfter`).
-/

namespace Dispatch

/-! ## Listing order -/

namespace Timestamp

variable {a b c : Timestamp}

theorem lt_irrefl (a : Timestamp) : ¬a < a := by
  show ¬a.Before a
  simp only [Before]
  omega

theorem lt_trans (h : a < b) (h' : b < c) : a < c := by
  have hab : a.Before b := h
  have hbc : b.Before c := h'
  show a.Before c
  simp only [Before] at hab hbc ⊢
  omega

/-- Timestamps of one second and one fraction are the same: only inside a leap second does the
fraction pass a second. -/
theorem eq_of_parts (seconds : a.time.seconds = b.time.seconds)
    (fraction : a.fraction = b.fraction) : a = b := by
  obtain ⟨⟨n⟩, leap, _⟩ := a
  obtain ⟨⟨m⟩, leap', _⟩ := b
  have hparts : n = m ∧ leap = leap' := by
    cases leap <;> cases leap' <;>
      simp [Timestamp.fraction, Time.seconds, Time.fraction] at seconds fraction ⊢ <;> omega
  obtain ⟨rfl, rfl⟩ := hparts
  rfl

theorem lt_trichotomy (a b : Timestamp) : a < b ∨ a = b ∨ b < a := by
  by_cases hab : a.Before b
  · exact .inl hab
  · by_cases hba : b.Before a
    · exact .inr (.inr hba)
    · simp only [Before] at hab hba
      exact .inr (.inl (eq_of_parts (by omega) (by omega)))

end Timestamp

namespace JobId

theorem lt_trichotomy (a b : JobId) : a < b ∨ a = b ∨ b < a := by
  obtain ⟨⟨n, hn⟩⟩ := a
  obtain ⟨⟨m, hm⟩⟩ := b
  rcases Nat.lt_trichotomy n m with h | rfl | h
  · exact .inl h
  · exact .inr (.inl rfl)
  · exact .inr (.inr h)

theorem lt_irrefl (a : JobId) : ¬a < a := Nat.lt_irrefl a.uuid.value

theorem lt_trans {a b c : JobId} (h : a < b) (h' : b < c) : a < c := Nat.lt_trans h h'

end JobId

namespace ListKey

variable {a b c : ListKey}

theorem before_irrefl (a : ListKey) : ¬a.Before a := by
  rintro (h | ⟨-, h⟩)
  · exact Timestamp.lt_irrefl _ h
  · exact JobId.lt_irrefl _ h

theorem before_trans (h : a.Before b) (h' : b.Before c) : a.Before c := by
  rcases h with h | ⟨he, h⟩ <;> rcases h' with h' | ⟨he', h'⟩
  · exact .inl (Timestamp.lt_trans h h')
  · exact .inl (he' ▸ h)
  · exact .inl (he ▸ h')
  · exact .inr ⟨he.trans he', JobId.lt_trans h h'⟩

theorem before_trichotomy (a b : ListKey) : a.Before b ∨ a = b ∨ b.Before a := by
  obtain ⟨t, i⟩ := a
  obtain ⟨u, k⟩ := b
  rcases Timestamp.lt_trichotomy t u with h | rfl | h
  · exact .inl (.inl h)
  · rcases JobId.lt_trichotomy i k with h | rfl | h
    · exact .inl (.inr ⟨rfl, h⟩)
    · exact .inr (.inl rfl)
    · exact .inr (.inr (.inr ⟨rfl, h⟩))
  · exact .inr (.inr (.inl h))

end ListKey

/-- Jobs with identities of their own have places of their own. -/
theorem nodup_listKeys {jobs : List Job} (distinct : (jobs.map (·.id)).Nodup) :
    (jobs.map Job.listKey).Nodup := by
  refine List.Nodup.of_map (·.id) ?_
  rwa [List.map_map]

namespace Filter

variable {f : Filter} {jobs : List Job} {a b c : ListKey} {j last : Job} {front back : List Job}

theorem precedes_irrefl (f : Filter) (a : ListKey) : f.precedes a a = false := by
  simp [precedes, ListKey.before_irrefl]

theorem precedes_trans (h : f.precedes a b = true) (h' : f.precedes b c = true) :
    f.precedes a c = true := by
  cases holdest : f.oldestFirst
  · simp only [precedes, holdest, Bool.false_eq_true, if_false, decide_eq_true_eq] at h h' ⊢
    exact ListKey.before_trans h' h
  · simp only [precedes, holdest, if_true, decide_eq_true_eq] at h h' ⊢
    exact ListKey.before_trans h h'

theorem precedes_asymm (h : f.precedes a b = true) : f.precedes b a = false := by
  rw [Bool.eq_false_iff]
  intro h'
  have hself := precedes_trans h h'
  rw [precedes_irrefl] at hself
  cases hself

theorem precedes_trichotomy (f : Filter) (a b : ListKey) :
    f.precedes a b = true ∨ a = b ∨ f.precedes b a = true := by
  unfold precedes
  split <;> simp only [decide_eq_true_eq]
  · exact ListKey.before_trichotomy a b
  · rcases ListKey.before_trichotomy a b with h | h | h
    · exact .inr (.inr h)
    · exact .inr (.inl h)
    · exact .inl h

/-! ## Listings -/

/-- The jobs stand in listing order, each at a place of its own. -/
def Listed (f : Filter) (jobs : List Job) : Prop :=
  jobs.Pairwise fun a b => f.precedes a.listKey b.listKey = true

/-- The jobs that the filter covers, in listing order. -/
def listing (f : Filter) (jobs : List Job) : List Job := f.sort (jobs.filter f.covers)

theorem page_eq_take (f : Filter) (jobs : List Job) :
    f.page jobs = (f.listing jobs).take f.limit := rfl

@[simp]
theorem mem_listing : j ∈ f.listing jobs ↔ j ∈ jobs ∧ f.covers j = true := by
  simp [listing, sort]

theorem nodup_ids_listing (distinct : (jobs.map (·.id)).Nodup) :
    ((f.listing jobs).map (·.id)).Nodup := by
  have hperm := (List.mergeSort_perm (jobs.filter f.covers) f.inOrder).map (·.id)
  exact hperm.nodup_iff.2 (distinct.sublist (List.filter_sublist.map _))

/-- The listing of jobs with identities of their own is in listing order. -/
theorem listed_listing (distinct : (jobs.map (·.id)).Nodup) : f.Listed (f.listing jobs) := by
  have hsorted : (f.listing jobs).Pairwise fun a b => f.inOrder a b = true := by
    refine List.pairwise_mergeSort (fun a b c hab hbc => ?_) (fun a b => ?_) _
    · simp only [inOrder, Bool.not_eq_true'] at hab hbc ⊢
      rw [Bool.eq_false_iff]
      intro hca
      -- what comes before `a` comes before `b` as well
      rcases f.precedes_trichotomy a.listKey b.listKey with h | h | h
      · rw [precedes_trans hca h] at hbc
        cases hbc
      · rw [h] at hca
        rw [hca] at hbc
        cases hbc
      · rw [h] at hab
        cases hab
    · simp only [inOrder, Bool.or_eq_true, Bool.not_eq_true']
      rcases f.precedes_trichotomy a.listKey b.listKey with h | h | h
      · exact .inl (precedes_asymm h)
      · exact .inl (h ▸ f.precedes_irrefl _)
      · exact .inr (precedes_asymm h)
  have hplaces : (f.listing jobs).Pairwise fun a b => a.listKey ≠ b.listKey :=
    List.pairwise_map.1 (nodup_listKeys (nodup_ids_listing distinct))
  refine (hsorted.and hplaces).imp fun {a b} h => ?_
  obtain ⟨horder, hplace⟩ := h
  rcases f.precedes_trichotomy a.listKey b.listKey with h | h | h
  · exact h
  · exact absurd h hplace
  · simp [inOrder, h] at horder

/-- Jobs have one listing. -/
theorem Listed.unique {l l' : List Job} (hl : f.Listed l) (hl' : f.Listed l')
    (members : ∀ j, j ∈ l ↔ j ∈ l') : l = l' := by
  have hne : ∀ {a b : Job}, f.precedes a.listKey b.listKey = true → a ≠ b := by
    rintro a b h rfl
    rw [precedes_irrefl] at h
    cases h
  refine List.Perm.eq_of_pairwise (fun a b _ _ hab hba => ?_) hl hl'
    ((List.perm_ext_iff_of_nodup (hl.imp hne) (hl'.imp hne)).2 members)
  rw [precedes_asymm hab] at hba
  cases hba

/-! ## Pages -/

/-- The listing begins with the page, and only a page that is full leaves anything out. -/
theorem listing_eq_page (f : Filter) (jobs : List Job) :
    ∃ rest, f.listing jobs = f.page jobs ++ rest ∧
      ((f.page jobs).length ≠ f.limit → rest = []) := by
  rw [page_eq_take]
  refine ⟨(f.listing jobs).drop f.limit, (List.take_append_drop _ _).symm, fun hshort => ?_⟩
  rw [List.length_take] at hshort
  exact List.drop_eq_nil_of_le (by omega)

/-- What the page leaves out comes behind everything that the page shows, and the page is full. -/
theorem mem_page_or_behind (distinct : (jobs.map (·.id)).Nodup) (hj : j ∈ f.listing jobs) :
    j ∈ f.page jobs ∨ (f.page jobs).length = f.limit ∧
      ∀ k ∈ f.page jobs, f.precedes k.listKey j.listKey = true := by
  rw [page_eq_take]
  have hlisted := listed_listing (f := f) distinct
  rw [← List.take_append_drop f.limit (f.listing jobs), List.mem_append] at hj
  rcases hj with hj | hj
  · exact .inl hj
  · have hlength : f.limit < (f.listing jobs).length := by
      by_contra hshort
      rw [List.drop_eq_nil_of_le (by omega)] at hj
      cases hj
    refine .inr ⟨by rw [List.length_take]; omega, fun k hk => ?_⟩
    rw [Listed, ← List.take_append_drop f.limit (f.listing jobs)] at hlisted
    exact (List.pairwise_append.1 hlisted).2.2 k hk j hj

theorem covers_of_mem_page (hj : j ∈ f.page jobs) : j ∈ jobs ∧ f.covers j = true :=
  mem_listing.1 (List.mem_of_mem_take hj)

theorem listed_page (distinct : (jobs.map (·.id)).Nodup) : f.Listed (f.page jobs) :=
  (listed_listing distinct).sublist (List.take_sublist _ _)

/-- The filter covers what it covers anywhere and what lies past its place. -/
theorem covers_iff : f.covers j = true ↔
    { f with after := none }.covers j = true ∧
      ∀ place, f.after = some place → f.precedes place j.listKey = true := by
  cases hafter : f.after with
  | none => simp [covers, hafter, admits]
  | some place => simp [covers, hafter, admits, precedes]

theorem covers_resumeAfter : (f.resumeAfter last).covers j = true ↔
    { f with after := none }.covers j = true ∧ f.precedes last.listKey j.listKey = true := by
  rw [covers_iff]
  refine and_congr_right fun _ => ⟨fun h => h last.listKey rfl, fun h place hplace => ?_⟩
  cases hplace
  exact h

/-- Behind a job of the listing the listing goes on. -/
theorem listing_resumeAfter (distinct : (jobs.map (·.id)).Nodup)
    (h : f.listing jobs = front ++ last :: back) : (f.resumeAfter last).listing jobs = back := by
  have hlisted : f.Listed (front ++ last :: back) := h ▸ listed_listing distinct
  obtain ⟨hfront, hback, hcross⟩ := List.pairwise_append.1 hlisted
  obtain ⟨hlast, hback⟩ := List.pairwise_cons.1 hback
  refine Listed.unique (f := f) (listed_listing (f := f.resumeAfter last) distinct) hback
    fun j => ?_
  rw [mem_listing, covers_resumeAfter]
  constructor
  · rintro ⟨hj, hcovers, hpast⟩
    have hcovered : f.covers last = true :=
      (mem_listing.1 (h ▸ List.mem_append_right front List.mem_cons_self)).2
    have hmem : j ∈ f.listing jobs := mem_listing.2 ⟨hj, covers_iff.2 ⟨hcovers, fun place hplace =>
      precedes_trans ((covers_iff.1 hcovered).2 place hplace) hpast⟩⟩
    rw [h, List.mem_append, List.mem_cons] at hmem
    rcases hmem with hmem | rfl | hmem
    · rw [precedes_asymm (hcross j hmem last List.mem_cons_self)] at hpast
      cases hpast
    · rw [precedes_irrefl] at hpast
      cases hpast
    · exact hmem
  · intro hj
    have hmem : j ∈ f.listing jobs :=
      h ▸ List.mem_append_right front (List.mem_cons_of_mem last hj)
    obtain ⟨hin, hcovers⟩ := mem_listing.1 hmem
    exact ⟨hin, (covers_iff.1 hcovers).1, hlast j hj⟩

end Filter

end Dispatch
