import Dispatch.Proofs.Lists
import Dispatch.Proofs.Store.Change
import Mathlib.Data.List.Induction

/-!
# Runs of the store

A run is a list of calls, each at a moment of its own; nothing is asked of the moments.  What was
done is a list of dealings, and a dealing says everything about its call: the store that it found,
its answer and the store that it left.  `Lived` says that a list of dealings leads from the empty
store to a store, every dealing finding what the one before it left.

What holds of the empty store and is kept by every change holds after every run (`Lived.kept`).
Where the clock counts, the moments of a run do not go back, and what is kept besides while time
passes holds after every such run (`Store.kept_in_time`).
-/

namespace Dispatch

/-- A call as it was made. -/
structure Dealing where
  /-- The store that the call found. -/
  before : Store
  moment : Moment
  call : StoreCall

namespace Dealing

/-- The answer. -/
def reply (d : Dealing) : d.call.Reply := (d.before.perform d.moment d.call).1

/-- The store that the call left. -/
def after (d : Dealing) : Store := (d.before.perform d.moment d.call).2

end Dealing

namespace Store

/-- The store after some calls. -/
def afterAll (s : Store) : List (Moment × StoreCall) → Store
  | [] => s
  | (m, c) :: rest => (s.perform m c).2.afterAll rest

/-- The dealings that some calls are, oldest first. -/
def dealings (s : Store) : List (Moment × StoreCall) → List Dealing
  | [] => []
  | (m, c) :: rest => ⟨s, m, c⟩ :: (s.perform m c).2.dealings rest

/-- What every change keeps, all calls keep. -/
theorem kept_by_afterAll {P : Store → Prop} {s : Store} (h : s.Orderly)
    (kept : ∀ {now a b}, a.Orderly → Change now a b → P a → P b) (hP : P s)
    (calls : List (Moment × StoreCall)) :
    (s.afterAll calls).Orderly ∧ P (s.afterAll calls) := by
  induction calls generalizing s with
  | nil => exact ⟨h, hP⟩
  | cons call rest ih =>
    obtain ⟨m, c⟩ := call
    have hnext := kept_by_perform h m c kept hP
    exact ih hnext.1 hnext.2

/-- All calls keep the order among the rows. -/
theorem Orderly.afterAll {s : Store} (h : s.Orderly) (calls : List (Moment × StoreCall)) :
    (s.afterAll calls).Orderly :=
  (kept_by_afterAll (P := fun _ => True) h (fun _ _ _ => trivial) trivial calls).1

theorem afterAll_append (s : Store) (calls rest : List (Moment × StoreCall)) :
    s.afterAll (calls ++ rest) = (s.afterAll calls).afterAll rest := by
  induction calls generalizing s with
  | nil => rfl
  | cons call calls ih => exact ih _

/-- Some time or other all of some calls have been made. -/
theorem exists_reached (calls : List (Moment × StoreCall)) :
    ∃ now : Time, ∀ call ∈ calls, call.1.now ≤ now := by
  induction calls with
  | nil => exact ⟨⟨0⟩, fun e he => absurd he List.not_mem_nil⟩
  | cons call calls ih =>
    obtain ⟨now, hrest⟩ := ih
    refine ⟨⟨max call.1.now.nanos now.nanos⟩, fun e he => ?_⟩
    show e.1.now.nanos ≤ max call.1.now.nanos now.nanos
    rcases List.mem_cons.1 he with rfl | he
    · exact Int.le_max_left _ _
    · exact Int.le_trans (hrest e he) (Int.le_max_right _ _)

/-- What the empty store has at any time, and what is kept while time passes and by every change,
holds after calls on a clock that does not go back. -/
theorem kept_in_time {P : Time → Store → Prop} (start : ∀ now, P now empty)
    (later : ∀ {now next s}, now ≤ next → P now s → P next s)
    (kept : ∀ {now a b}, a.Orderly → Change now a b → P now a → P now b)
    {calls : List (Moment × StoreCall)} (clock : calls.Pairwise fun a b => a.1.now ≤ b.1.now)
    {now : Time} (reached : ∀ call ∈ calls, call.1.now ≤ now) :
    (empty.afterAll calls).Orderly ∧ P now (empty.afterAll calls) := by
  induction calls using List.reverseRecOn generalizing now with
  | nil => exact ⟨.empty, start now⟩
  | append_singleton calls call ih =>
    obtain ⟨m, c⟩ := call
    obtain ⟨hclock, -, hlast⟩ := List.pairwise_append.1 clock
    -- the earlier calls hold at the moment of the last one
    have hbefore := ih hclock fun e he => hlast e he (m, c) (List.mem_singleton_self _)
    have hafter := kept_by_perform hbefore.1 m c kept hbefore.2
    rw [afterAll_append]
    exact ⟨hafter.1, later (reached (m, c) (by simp)) hafter.2⟩

end Store

/-- The dealings, oldest first, lead from the empty store to a store. -/
inductive Lived : List Dealing → Store → Prop
  | born : Lived [] .empty
  | deal {past : List Dealing} {s : Store} (m : Moment) (c : StoreCall) (lived : Lived past s) :
      Lived (past ++ [⟨s, m, c⟩]) (s.perform m c).2

namespace Lived

variable {past : List Dealing} {s : Store}

theorem append_dealings (h : Lived past s) (calls : List (Moment × StoreCall)) :
    Lived (past ++ s.dealings calls) (s.afterAll calls) := by
  induction calls generalizing past s with
  | nil => simpa [Store.dealings, Store.afterAll] using h
  | cons call rest ih =>
    obtain ⟨m, c⟩ := call
    simpa [Store.dealings, Store.afterAll] using ih (.deal m c h)

/-- Calls on the empty store lead to the store after them. -/
theorem dealings (calls : List (Moment × StoreCall)) :
    Lived (Store.empty.dealings calls) (Store.empty.afterAll calls) :=
  born.append_dealings calls

/-- What the empty store has and every change keeps, every store has. -/
theorem kept {P : Store → Prop} (start : P .empty)
    (change : ∀ {now a b}, a.Orderly → Store.Change now a b → P a → P b) (h : Lived past s) :
    s.Orderly ∧ P s := by
  induction h with
  | born => exact ⟨.empty, start⟩
  | deal m c _ ih => exact Store.kept_by_perform ih.1 m c change ih.2

theorem orderly (h : Lived past s) : s.Orderly :=
  (h.kept (P := fun _ => True) trivial fun _ _ _ => trivial).1

/-- The last dealing of a run. -/
theorem snoc_inv {d : Dealing} (h : Lived (past ++ [d]) s) : Lived past d.before ∧ s = d.after := by
  generalize hlog : past ++ [d] = log at h
  cases h with
  | born => simp at hlog
  | deal m c lived =>
    obtain ⟨rfl, hlast⟩ := List.append_inj' hlog rfl
    cases List.singleton_inj.1 hlast
    exact ⟨lived, rfl⟩

theorem eq_empty (h : Lived [] s) : s = .empty := by
  generalize hlog : ([] : List Dealing) = log at h
  cases h with
  | born => rfl
  | deal m c _ => simp at hlog

/-- The dealings of a run lead to one store. -/
theorem unique {t : Store} (hs : Lived past s) (ht : Lived past t) : s = t := by
  rcases List.eq_nil_or_concat past with rfl | ⟨earlier, d, rfl⟩
  · rw [hs.eq_empty, ht.eq_empty]
  · rw [List.concat_eq_append] at hs ht
    rw [hs.snoc_inv.2, ht.snoc_inv.2]

/-- The store that a dealing found is the one that the dealings before it led to. -/
theorem before_of_append {earlier later : List Dealing} {d : Dealing}
    (h : Lived (earlier ++ d :: later) s) : Lived earlier d.before := by
  generalize hpast : earlier ++ d :: later = past at h
  induction h generalizing later with
  | born => simp at hpast
  | @deal past s m c lived ih =>
    rcases append_cons_eq_snoc.1 hpast with ⟨rfl, rfl, -⟩ | ⟨mid, -, rfl⟩
    · exact lived
    · exact ih rfl

/-- A run is a run at every moment of it. -/
theorem of_append {earlier later : List Dealing} (h : Lived (earlier ++ later) s) :
    ∃ s, Lived earlier s := by
  cases later with
  | nil => exact ⟨s, by simpa using h⟩
  | cons d later => exact ⟨d.before, h.before_of_append⟩

end Lived

end Dispatch
