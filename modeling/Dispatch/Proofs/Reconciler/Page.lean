import Dispatch.Proofs.Job.Listing
import Dispatch.Reconciler.Pass

/-!
# What a sweep asks for

A sweep asks for the jobs that wait and are older than its cutoff, oldest first and past the place
that it has got to.  Of its filter only that place ever changes.  A page that is as long as pages
may be sends the sweep on to the place of its last job, and any other page ends the sweep
(`pageDone_cases`).
-/

namespace Dispatch

/-- The place lies past another one, if there is another one. -/
def ListKey.Past (place : Option ListKey) (key : ListKey) : Prop :=
  ∀ p, place = some p → p.Before key

namespace Sweep

variable {cutoff : Time} {batch : Nat} {place : Option ListKey} {w : Sweep} {j : Job}
  {page rest : List Job}

/-- What a sweep asks for when it has got to a place. -/
def filterAt (cutoff : Time) (batch : Nat) (place : Option ListKey) : Filter :=
  { (from_ cutoff batch).filter with after := place }

theorem covers_filterAt : (filterAt cutoff batch place).covers j = true ↔
    (j.status = .queued ∧ j.createdAt < (cutoff : Timestamp)) ∧ ListKey.Past place j.listKey := by
  rw [Filter.covers_iff]
  refine and_congr ?_ ?_
  · simp [filterAt, from_, Filter.covers, Filter.admits]
  · simp [filterAt, from_, Filter.precedes, ListKey.Past]

theorem precedes_filterAt {a b : ListKey} :
    (filterAt cutoff batch place).precedes a b = true ↔ a.Before b := by
  simp [filterAt, from_, Filter.precedes]

/-- The store answers with the page. -/
theorem list_filterAt (s : Store) (cutoff : Time) (batch : Nat) (place : Option ListKey) :
    s.list (filterAt cutoff batch place) =
      .ok ((filterAt cutoff batch place).page s.jobs.rows) := by
  have hlimit : (filterAt cutoff batch place).limit ≠ 0 := by
    show max batch 1 ≠ 0
    omega
  rw [Store.list, if_neg hlimit]
  rfl

/-- Behind the last job of a page the listing goes on from the place of that job. -/
theorem listing_filterAt_behind {jobs init : List Job} {last : Job}
    (distinct : (jobs.map (·.id)).Nodup)
    (listed : (filterAt cutoff batch place).listing jobs = init ++ [last] ++ rest) :
    (filterAt cutoff batch (some last.listKey)).listing jobs = rest := by
  rw [List.append_assoc, List.singleton_append] at listed
  exact Filter.listing_resumeAfter (f := filterAt cutoff batch place) distinct listed

theorem mem_page_filterAt {jobs : List Job} (hj : j ∈ (filterAt cutoff batch place).page jobs) :
    j ∈ jobs ∧ (j.status = .queued ∧ j.createdAt < (cutoff : Timestamp)) ∧
      ListKey.Past place j.listKey := by
  obtain ⟨hmem, hcovers⟩ := Filter.covers_of_mem_page hj
  exact ⟨hmem, covers_filterAt.1 hcovers⟩

/-- A page that is full leads on behind its last job, and any other page is the last one. -/
theorem pageDone_cases (asks : w.filter = filterAt cutoff batch place) (page : List Job) :
    (∃ init last, page = init ++ [last] ∧ page.length = max batch 1 ∧
        w.pageDone page = ⟨filterAt cutoff batch (some last.listKey), w.added, .listing⟩) ∨
      (page.length ≠ max batch 1 ∧
        w.pageDone page = ⟨filterAt cutoff batch place, w.added, .finished (.ok w.added)⟩) := by
  obtain ⟨filter, added, phase⟩ := w
  obtain rfl : filter = filterAt cutoff batch place := asks
  have hlimit : (filterAt cutoff batch place).limit = max batch 1 := rfl
  rcases List.eq_nil_or_concat page with rfl | ⟨init, last, rfl⟩
  -- a page may hold one job at least, so an empty one is not full
  · refine .inr ⟨?_, rfl⟩
    rw [List.length_nil]
    omega
  · rw [List.concat_eq_append]
    by_cases hfull : (init ++ [last]).length = max batch 1
    · refine .inl ⟨init, last, rfl, hfull, ?_⟩
      simp only [pageDone, List.getLast?_concat, hlimit, if_pos hfull]
      rfl
    · refine .inr ⟨hfull, ?_⟩
      simp only [pageDone, List.getLast?_concat, hlimit, if_neg hfull]

/-- Where a sweep was does not matter to what it makes of a page. -/
theorem check_phase (w : Sweep) (phase : SweepPhase) (page rest : List Job) :
    { w with phase }.check page rest = w.check page rest := by
  cases rest with
  | nil => simp only [check, pageDone]
  | cons job rest => rfl

end Sweep

end Dispatch
