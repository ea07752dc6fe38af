import Dispatch.Proofs.Job.Listing
import Dispatch.Proofs.Store.Vouch

/-!
# Orphans and what becomes of them

Orphans go back to waiting in the order of their identities.  Their rows change and no others
(`get?_jobs_requeue`, `get?_jobs_requeue_other`), and nobody's report does, so at the same instant
there are no further orphans (`requeueOrphaned_again`).
-/

namespace Dispatch.Store

variable {s : Store} {now cutoff : Time} {found : List Job} {id : JobId}

/-- Orphans come in the order of their identities. -/
theorem pairwise_orphans (h : s.Orderly) (cutoff : Time) :
    (s.orphans cutoff).Pairwise fun a b => a.id < b.id := by
  have hsorted : (s.orphans cutoff).Pairwise fun a b => decide (a.id ≤ b.id) = true := by
    refine List.pairwise_mergeSort (fun a b c hab hbc => ?_) (fun a b => ?_) _
    · rw [decide_eq_true_eq] at hab hbc ⊢
      exact Nat.le_trans hab hbc
    · rw [Bool.or_eq_true, decide_eq_true_eq, decide_eq_true_eq]
      exact Nat.le_total a.id.uuid.value b.id.uuid.value
  have hdistinct := List.pairwise_map.1 (nodup_orphans h cutoff)
  refine (hsorted.and hdistinct).imp fun {a b} hab => ?_
  obtain ⟨hle, hne⟩ := hab
  have hle : a.id.uuid.value ≤ b.id.uuid.value := of_decide_eq_true hle
  rcases JobId.lt_trichotomy a.id b.id with h | h | h
  · exact h
  · exact absurd h hne
  · exact absurd hle (Nat.not_le.2 h)

theorem get?_jobs_requeueOne (s : Store) (j : Job) (id : JobId) :
    (requeueOne now s j).jobs.get? id =
      if j.id = id then some (requeuedJob j) else s.jobs.get? id :=
  get?_jobs_putJob s (requeuedJob j) id

/-- The other jobs stay what they are. -/
theorem get?_jobs_requeue_other (other : id ∉ found.map (·.id)) :
    (found.foldl (requeueOne now) s).jobs.get? id = s.jobs.get? id := by
  induction found generalizing s with
  | nil => rfl
  | cons j rest ih =>
    rw [List.map_cons, List.mem_cons, not_or] at other
    rw [List.foldl_cons, ih other.2, get?_jobs_requeueOne, if_neg (Ne.symm other.1)]

/-- The jobs that are found wait again. -/
theorem get?_jobs_requeue (distinct : (found.map (·.id)).Nodup) {j : Job} (hj : j ∈ found) :
    (found.foldl (requeueOne now) s).jobs.get? j.id = some (requeuedJob j) := by
  induction found generalizing s with
  | nil => cases hj
  | cons k rest ih =>
    obtain ⟨hfresh, hrest⟩ := List.nodup_cons.1 distinct
    rcases List.mem_cons.1 hj with rfl | hj
    · rw [List.foldl_cons, get?_jobs_requeue_other hfresh, get?_jobs_requeueOne, if_pos rfl]
    · exact ih hrest hj

theorem workers_requeue (found : List Job) :
    (found.foldl (requeueOne now) s).workers = s.workers := by
  induction found generalizing s with
  | nil => rfl
  | cons j rest ih => exact ih

/-- At one instant the store returns its orphans once: nobody has become an orphan since. -/
theorem requeueOrphaned_again (h : s.Orderly) (staleAfter : Span) (now : Time) :
    (s.requeueOrphaned staleAfter now).2.requeueOrphaned staleAfter now =
      ([], (s.requeueOrphaned staleAfter now).2) := by
  have hdistinct := nodup_orphans h (staleCutoff now staleAfter)
  have horderly : (s.requeueOrphaned staleAfter now).2.Orderly :=
    h.perform ⟨now, default⟩ (.requeueOrphaned staleAfter)
  have hnone : (s.requeueOrphaned staleAfter now).2.orphans (staleCutoff now staleAfter) = [] := by
    refine List.eq_nil_iff_forall_not_mem.2 fun j hj => ?_
    obtain ⟨stored, running⟩ := orphans_stored horderly hj
    by_cases hfound : j.id ∈ (s.orphans (staleCutoff now staleAfter)).map (·.id)
    · obtain ⟨k, hk, hid⟩ := List.mem_map.1 hfound
      rw [requeueOrphaned, ← hid, get?_jobs_requeue hdistinct hk] at stored
      cases stored
      cases running
    · -- its row is the old one and so are the reports, so it was an orphan before
      rw [requeueOrphaned, get?_jobs_requeue_other hfound] at stored
      refine hfound (List.mem_map.2 ⟨j, mem_orphans.2 ⟨Table.mem_rows.2 ⟨_, stored⟩, ?_⟩, rfl⟩)
      have horphan := (mem_orphans.1 hj).2
      unfold isOrphan isVouchedFor at horphan ⊢
      rwa [requeueOrphaned, workers_requeue] at horphan
  generalize (s.requeueOrphaned staleAfter now).2 = t at hnone ⊢
  rw [requeueOrphaned, hnone]
  rfl

end Dispatch.Store
