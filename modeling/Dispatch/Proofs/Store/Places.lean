import Dispatch.Proofs.Job.Listing
import Dispatch.Proofs.Store.Change

/-!
# Places in listings are for good

A job keeps the place in listings that it was created with, whatever is done to it (`Turn.place`).
`Onward` says that of two stores, together with what new jobs cannot do: turn up before a cutoff
that has passed.
-/

namespace Dispatch.Store

variable {s t u : Store} {now cutoff : Time} {d : Deed} {after : Job} {id : JobId}

/-- A turn creates the job now, or it leaves the job at its place. -/
theorem Turn.place (turn : Turn now s d after t) :
    (d.kind = .created ∧ s.jobs.get? after.id = none ∧ after.createdAt = (now : Timestamp)) ∨
      ∃ j, s.jobs.get? after.id = some j ∧ after.listKey = j.listKey := by
  cases turn with
  | created valid unclaimed unknown => exact .inl ⟨rfl, unknown, rfl⟩
  | started worker stored | succeeded worker usage stored | failed worker code message stored
  | dropped reason stored | stopped reason stored | retried stored | requeued stored =>
    exact .inr ⟨_, stored, rfl⟩

/-- Every job of the first store is in the second one, at the same place, and what is only in the
second one was not created before the cutoff. -/
structure Onward (cutoff : Time) (s t : Store) : Prop where
  kept : ∀ id j, s.jobs.get? id = some j → ∃ k, t.jobs.get? id = some k ∧ k.listKey = j.listKey
  old : ∀ id k, t.jobs.get? id = some k → k.createdAt < (cutoff : Timestamp) →
    ∃ j, s.jobs.get? id = some j

namespace Onward

theorem of_jobs_eq (h : t.jobs = s.jobs) : Onward cutoff s t where
  kept _ j hj := ⟨j, h ▸ hj, rfl⟩
  old _ k hk _ := ⟨k, h ▸ hk⟩

theorem trans (h : Onward cutoff s t) (h' : Onward cutoff t u) : Onward cutoff s u where
  kept id j hj := by
    obtain ⟨k, hk, hplace⟩ := h.kept id j hj
    obtain ⟨l, hl, hplace'⟩ := h'.kept id k hk
    exact ⟨l, hl, hplace'.trans hplace⟩
  old id l hl hold := by
    obtain ⟨k, hk⟩ := h'.old id l hl hold
    obtain ⟨l', hl', hplace⟩ := h'.kept id k hk
    rw [hl] at hl'
    cases hl'
    have hcreated : l.createdAt = k.createdAt := congrArg ListKey.createdAt hplace
    exact h.old id k hk (hcreated ▸ hold)

theorem turn (turn : Turn now s d after t) (late : d.kind = .created → cutoff ≤ now) :
    Onward cutoff s t where
  kept id j hj := by
    rw [turn.get?_jobs]
    split
    · rename_i hid
      rcases turn.place with ⟨-, unknown, -⟩ | ⟨k, stored, hplace⟩
      · rw [hid, hj] at unknown
        cases unknown
      · rw [hid, hj] at stored
        cases stored
        exact ⟨after, rfl, hplace⟩
    · exact ⟨j, hj, rfl⟩
  old id k hk hold := by
    rw [turn.get?_jobs] at hk
    split at hk
    · rename_i hid
      cases hk
      rcases turn.place with ⟨hkind, -, hcreated⟩ | ⟨j, stored, -⟩
      · rw [hcreated, Timestamp.ofTime_lt_ofTime] at hold
        have hlt : now.nanos < cutoff.nanos := hold
        have hle : cutoff.nanos ≤ now.nanos := late hkind
        omega
      · exact ⟨j, hid ▸ stored⟩
    · exact ⟨k, hk⟩

/-- Whatever is asked of a store, it goes on, unless a job is created before the cutoff. -/
theorem perform (h : s.Orderly) (m : Moment) {c : StoreCall}
    (late : ∀ draft, c = .create draft → cutoff ≤ m.now) : Onward cutoff s (s.perform m c).2 := by
  cases hreporter : c.reporter with
  | none =>
    have hlate : c.kind? = some .created → cutoff ≤ m.now := by
      intro hkind
      cases c with
      | create draft => exact late draft rfl
      | _ => cases hkind
    have hturns := perform_turns h m hreporter
    generalize (s.perform m c).2 = t at hturns
    induction hturns with
    | refl => exact .of_jobs_eq rfl
    | tail _ hturn ih =>
      obtain ⟨d, after, hkind, turn⟩ := hturn
      exact ih.trans (.turn turn fun hd => hlate (by rw [← hkind, hd]))
  | some worker =>
    cases c with
    | beat worker state running concurrency => exact .of_jobs_eq rfl
    | _ => cases hreporter

end Onward

end Dispatch.Store
