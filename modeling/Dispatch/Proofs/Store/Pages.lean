import Dispatch.Proofs.Job.Listing
import Dispatch.Proofs.Store.Run

/-!
# Listing a store page by page

A caller who wants to see all jobs asks for a page, then for the jobs behind the last one of the
page, and so on until a page is not full (`Store.Leafs`).  In every store that calls on the empty
store lead to, this shows the jobs that the filter wants, every one of them once and in listing
order, on as many pages as there is room for and one more (`Store.paged_afterAll`).  The order in
which the table happens to hold the jobs does not matter.

The argument is one induction on what is left to be shown (`leafs_listing`): a full page takes
the beginning of the listing away, and behind its last job the listing goes on.
-/

namespace Dispatch

/-! ## What a filter wants -/

namespace Filter

variable {f : Filter} {j : Job}

/-- The job meets the criteria that there are; an empty tenant or model is no criterion. -/
structure Wants (f : Filter) (j : Job) : Prop where
  status : ∀ s, f.status = some s → j.status = s
  tenant : ∀ t, f.tenant = some t → t ≠ "" → j.tenant = t
  model : ∀ m, f.model = some m → m ≠ "" → j.model = m
  createdBefore : ∀ t, f.createdBefore = some t → j.createdAt < t
  /-- The job lies past the place at which the listing resumes. -/
  after : ∀ place, f.after = some place →
    if f.oldestFirst then place.Before j.listKey else j.listKey.Before place

/-- A criterion that may be absent. -/
theorem admits_iff {α : Type} {criterion : Option α} {holds : α → Bool} :
    admits criterion holds = true ↔ ∀ c, criterion = some c → holds c = true := by
  cases criterion <;> simp [admits]

theorem precedes_iff {a b : ListKey} :
    f.precedes a b = true ↔ if f.oldestFirst then a.Before b else b.Before a := by
  unfold precedes
  split <;> simp

/-- An empty text is no criterion. -/
theorem filter_isEmpty_eq_some {criterion : Option String} {c : String} :
    (criterion.filter fun t => !t.isEmpty) = some c ↔ criterion = some c ∧ c ≠ "" := by
  simp [Option.filter_eq_some_iff]

/-- The store looks for what the filter wants. -/
theorem covers_normalized : f.normalized.covers j = true ↔ f.Wants j := by
  simp only [covers, normalized, Bool.and_eq_true, admits_iff, filter_isEmpty_eq_some,
    decide_eq_true_eq, precedes_iff]
  constructor
  · rintro ⟨⟨⟨⟨hstatus, htenant⟩, hmodel⟩, hbefore⟩, hafter⟩
    exact ⟨hstatus, fun t ht hne => htenant t ⟨ht, hne⟩, fun m hm hne => hmodel m ⟨hm, hne⟩,
      hbefore, hafter⟩
  · rintro ⟨hstatus, htenant, hmodel, hbefore, hafter⟩
    exact ⟨⟨⟨⟨hstatus, fun t ht => htenant t ht.1 ht.2⟩, fun m hm => hmodel m hm.1 hm.2⟩,
      hbefore⟩, hafter⟩

/-- Jobs with identities of their own are listed alike in whatever order they come. -/
theorem listing_congr {jobs jobs' : List Job} (distinct : (jobs.map (·.id)).Nodup)
    (distinct' : (jobs'.map (·.id)).Nodup) (same : ∀ j, j ∈ jobs ↔ j ∈ jobs') :
    f.listing jobs = f.listing jobs' := by
  refine Listed.unique (f := f) (listed_listing distinct) (listed_listing distinct') fun j => ?_
  rw [mem_listing, mem_listing, same]

end Filter

namespace Store

variable {s t : Store} {f : Filter} {pages pages' : List (List Job)}

/-! ## Leafing -/

/-- The jobs are listed page by page, every page behind the last job of the page before, until a
page is not full. -/
inductive Leafs (s : Store) : Filter → List (List Job) → Prop
  | last {f : Filter} {page : List Job} (answer : s.list f = .ok page)
      (short : page.length < f.limit) : Leafs s f [page]
  | turn {f : Filter} {page : List Job} {last : Job} {pages : List (List Job)}
      (answer : s.list f = .ok page) (full : ¬page.length < f.limit)
      (ends : page.getLast? = some last) (rest : Leafs s (f.resumeAfter last) pages) :
      Leafs s f (page :: pages)

/-- Leafing shows the same pages every time. -/
theorem Leafs.unique (h : s.Leafs f pages) (h' : s.Leafs f pages') : pages = pages' := by
  induction h generalizing pages' with
  | last answer short =>
    cases h' with
    | last answer' short' =>
      rw [answer] at answer'
      cases answer'
      rfl
    | turn answer' full' ends' rest' =>
      rw [answer] at answer'
      cases answer'
      exact absurd short full'
  | turn answer full ends rest ih =>
    cases h' with
    | last answer' short' =>
      rw [answer] at answer'
      cases answer'
      exact absurd short' full
    | turn answer' full' ends' rest' =>
      rw [answer] at answer'
      cases answer'
      rw [ends] at ends'
      cases ends'
      rw [ih rest']

/-- Stores that answer every listing with room for a job alike show the same pages. -/
theorem Leafs.congr (h : s.Leafs f pages) (room : 0 < f.limit)
    (alike : ∀ g : Filter, 0 < g.limit → t.list g = s.list g) : t.Leafs f pages := by
  induction h with
  | last answer short => exact .last ((alike _ room).trans answer) short
  | turn answer full ends rest ih => exact .turn ((alike _ room).trans answer) full ends (ih room)

/-- A filter with room for a job is answered with the beginning of its listing. -/
theorem list_eq_page (s : Store) (room : 0 < f.limit) :
    s.list f = .ok ((f.normalized.listing s.jobs.rows).take f.limit) := by
  rw [list, if_neg (by omega)]
  rfl

/-- Leafing shows the listing from beginning to end.  The induction is on the number of jobs that
are left to be shown. -/
theorem leafs_listing (distinct : (s.jobs.rows.map (·.id)).Nodup) (room : 0 < f.limit) :
    ∃ pages, s.Leafs f pages ∧ pages.flatten = f.normalized.listing s.jobs.rows ∧
      pages.length = (f.normalized.listing s.jobs.rows).length / f.limit + 1 := by
  generalize hn : (f.normalized.listing s.jobs.rows).length = n
  induction n using Nat.strongRecOn generalizing f with
  | ind n ih =>
    have hanswer := list_eq_page s room
    by_cases hshort : n < f.limit
    · rw [List.take_of_length_le (by omega)] at hanswer
      refine ⟨_, .last hanswer (by omega), by simp, ?_⟩
      rw [Nat.div_eq_of_lt hshort]
      rfl
    · have hlength : ((f.normalized.listing s.jobs.rows).take f.limit).length = f.limit := by
        rw [List.length_take]
        omega
      obtain ⟨init, last, hpage⟩ : ∃ init last,
          (f.normalized.listing s.jobs.rows).take f.limit = init ++ [last] := by
        rcases List.eq_nil_or_concat ((f.normalized.listing s.jobs.rows).take f.limit) with
          h | ⟨init, last, h⟩
        · rw [h, List.length_nil] at hlength
          omega
        · exact ⟨init, last, by rw [h, List.concat_eq_append]⟩
      -- what the page leaves out is what the next filter lists
      have hlisting : f.normalized.listing s.jobs.rows =
          init ++ last :: (f.normalized.listing s.jobs.rows).drop f.limit := by
        conv_lhs => rw [← List.take_append_drop f.limit (f.normalized.listing s.jobs.rows), hpage]
        simp
      have hbehind : (f.resumeAfter last).normalized.listing s.jobs.rows =
          (f.normalized.listing s.jobs.rows).drop f.limit :=
        Filter.listing_resumeAfter (f := f.normalized) distinct hlisting
      obtain ⟨pages, hleafs, hflat, hcount⟩ := ih (n - f.limit) (by omega)
        (f := f.resumeAfter last) room (by rw [hbehind, List.length_drop, hn])
      refine ⟨_, .turn hanswer (by omega) (by rw [hpage, List.getLast?_concat]) hleafs, ?_, ?_⟩
      · rw [List.flatten_cons, hflat, hbehind, List.take_append_drop]
      · rw [List.length_cons, hcount, Nat.div_eq_sub_div room (by omega)]
        rfl

/-! ## Reachable stores -/

/-- The tables hold the same jobs, in whatever order. -/
def SameJobs (s t : Store) : Prop := ∀ id, t.jobs.get? id = s.jobs.get? id

/-- In every order of the table the jobs have identities of their own and are the same. -/
theorem Orderly.rows_of_sameJobs (h : s.Orderly) (same : s.SameJobs t) :
    (t.jobs.rows.map (·.id)).Nodup ∧ ∀ j, j ∈ t.jobs.rows ↔ j ∈ s.jobs.rows := by
  refine ⟨t.jobs.nodup_map_rows (·.id) fun id j hj => ?_, fun j => ?_⟩
  · rw [same] at hj
    exact h.filed id j hj
  · simp only [Table.mem_rows, same _]

/-- What listing a store comes to: the jobs that the filter wants, and how they are shown. -/
structure Paged (s : Store) (f : Filter) (jobs : List Job) : Prop where
  /-- They are the stored jobs that the filter wants. -/
  members : ∀ j, j ∈ jobs ↔ s.jobs.get? j.id = some j ∧ f.Wants j
  distinct : (jobs.map (·.id)).Nodup
  oldestFirst : f.oldestFirst = true → jobs.Pairwise fun a b => a.listKey.Before b.listKey
  newestFirst : f.oldestFirst = false → jobs.Pairwise fun a b => b.listKey.Before a.listKey
  /-- One page shows the first of them, in whatever order the table holds the jobs. -/
  page : ∀ t, s.SameJobs t → t.list f = .ok (jobs.take f.limit)
  /-- Leafing comes to an end, and its pages show all of them. -/
  leafed : ∃ pages, (∀ t, s.SameJobs t → ∀ shown, t.Leafs f shown ↔ shown = pages) ∧
    pages.flatten = jobs ∧ pages.length = jobs.length / f.limit + 1

theorem Orderly.paged (h : s.Orderly) (room : 0 < f.limit) :
    s.Paged f (f.normalized.listing s.jobs.rows) := by
  have hpage : ∀ t, s.SameJobs t → ∀ g : Filter, 0 < g.limit → t.list g = s.list g := by
    intro t same g hroom
    obtain ⟨hdistinct, hrows⟩ := h.rows_of_sameJobs same
    rw [list_eq_page t hroom, list_eq_page s hroom,
      Filter.listing_congr hdistinct h.nodup_ids hrows]
  have hlisted := Filter.listed_listing (f := f.normalized) h.nodup_ids
  refine ⟨fun j => ?_, Filter.nodup_ids_listing h.nodup_ids, fun hold => ?_, fun hnew => ?_,
    fun t same => ?_, ?_⟩
  · rw [Filter.mem_listing, Filter.covers_normalized]
    refine and_congr_left fun _ => ⟨h.get?_of_mem, fun hj => ?_⟩
    exact Table.mem_rows.2 ⟨j.id, hj⟩
  · refine hlisted.imp fun hab => ?_
    have hplace := Filter.precedes_iff.1 hab
    rwa [if_pos (show f.normalized.oldestFirst = true from hold)] at hplace
  · refine hlisted.imp fun hab => ?_
    have hplace := Filter.precedes_iff.1 hab
    rwa [show f.normalized.oldestFirst = false from hnew, if_neg Bool.false_ne_true] at hplace
  · rw [hpage t same f room, list_eq_page s room]
  · obtain ⟨pages, hleafs, hflat, hcount⟩ := leafs_listing h.nodup_ids room
    refine ⟨pages, fun t same shown => ⟨fun hshown => ?_, fun heq => ?_⟩, hflat, hcount⟩
    · exact hshown.unique (hleafs.congr room (hpage t same))
    · exact heq ▸ hleafs.congr room (hpage t same)

/-- Whatever calls are made on the empty store, a filter with room for a job shows the jobs that it
wants in listing order: the first of them on a page, and all of them page by page. -/
theorem paged_afterAll (calls : List (Moment × StoreCall)) (f : Filter) (room : 0 < f.limit) :
    ∃ jobs, (empty.afterAll calls).Paged f jobs :=
  ⟨_, (Orderly.empty.afterAll calls).paged room⟩

/-- Five jobs of one instant, one of them of another tenant. -/
def crowd : List (Moment × StoreCall) :=
  (List.range 5).map fun n =>
    (⟨⟨1⟩, .numbered 1 (n + 1)⟩,
      .create { tenant := if n = 2 then "other" else "acme", model := "small" })

/-- The jobs of one tenant, two at a time. -/
def inPairs : Filter :=
  { tenant := some "acme", model := some "", oldestFirst := true, limit := 2 }

/-- Four jobs of one instant fill two pages, and a third one is empty. -/
theorem paged_crowd : 0 < inPairs.limit ∧ ∃ jobs, (empty.afterAll crowd).Paged inPairs jobs :=
  ⟨by decide, paged_afterAll crowd inPairs (by decide)⟩

example : ((empty.afterAll crowd).list inPairs).map (·.map (·.id)) =
    .ok [(FreshIds.numbered 1 1).job, (FreshIds.numbered 1 2).job] := by cbv

end Store

end Dispatch
