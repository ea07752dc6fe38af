import Dispatch.Proofs.Store.Effect
import Dispatch.Proofs.Store.Run
import Mathlib.Data.List.Induction

/-!
# One start and one ending for each attempt

`Underway` reads from the calls and answers of a run alone whether an attempt is under way: some
call opened it and no call since has ended it.  The store agrees (`Lived.underway_iff`), and so the
answer to a commit is determined by what the callers have seen: the commit of an attempt that is
under way succeeds, and any other commit is refused and leaves the store as it was.

`OnceOnly` collects what follows for every run: the attempts of a job are opened in the order of
their numbers, none of them twice, and an attempt that has ended is never under way again.
-/

namespace Dispatch

namespace StoreCall

/-- The attempt that the call is to commit. -/
def commits : StoreCall → Option (JobId × Int)
  | .succeed id n _ _ => some (id, n)
  | .fail id n _ _ _ => some (id, n)
  | _ => none

end StoreCall

/-- Why a call failed. -/
def refusal {α : Type} : Except StoreError α → Option StoreError
  | .ok _ => none
  | .error e => some e

namespace Dealing

/-- Why the call failed. -/
def error (d : Dealing) : Option StoreError := refusal d.reply

/-- The attempt that the call opened. -/
def opens (d : Dealing) : Option (JobId × Int) := d.call.opens d.reply

/-- The call ended the attempt, if the attempt was running. -/
def Ends (d : Dealing) (id : JobId) (n : Int) : Prop := d.call.Ends id n d.reply

end Dealing

/-- A commit succeeds if the job is running the attempt, and otherwise it does nothing. -/
theorem Dealing.commit {d : Dealing} {id : JobId} {n : Int} (hc : d.call.commits = some (id, n)) :
    (d.error = none ↔ d.before.Runs id n) ∧
      (d.error ≠ none → d.error = some (Store.notRunning id n) ∧ d.after = d.before) := by
  obtain ⟨s, m, c⟩ := d
  rw [← Store.running?_isSome]
  cases c <;> cases hc
  case succeed worker usage =>
    cases hj : s.running? id n <;>
      simp [error, refusal, reply, after, Store.perform, Store.succeed, Store.settle, hj]
  case fail worker code message =>
    cases hj : s.running? id n <;>
      simp [error, refusal, reply, after, Store.perform, Store.fail, Store.settle, hj]

/-- Some call opened the attempt, and no call since has ended it. -/
def Underway (past : List Dealing) (id : JobId) (n : Int) : Prop :=
  ∃ before d after, past = before ++ d :: after ∧ d.opens = some (id, n) ∧
    ∀ e ∈ after, ¬ e.Ends id n

/-- The attempts that were opened, oldest first. -/
def openings (past : List Dealing) : List (JobId × Int) := past.filterMap (·.opens)

/-- The numbers of the job's attempts, as they were opened. -/
def numbersOf (past : List Dealing) (id : JobId) : List Int :=
  ((openings past).filter (·.1 = id)).map (·.2)

/-- What a run says about attempts. -/
structure OnceOnly (past : List Dealing) : Prop where
  /-- The attempts of a job are numbered from one up. -/
  numbered : ∀ id, numbersOf past id = countedTo (numbersOf past id).length
  /-- No attempt is opened twice. -/
  once : (openings past).Nodup
  /-- An attempt is committed if it is under way; otherwise the commit is refused and nothing
  happens. -/
  committed : ∀ earlier d later id n, past = earlier ++ d :: later →
    d.call.commits = some (id, n) →
      (d.error = none ↔ Underway earlier id n) ∧
        (d.error ≠ none → d.error = some (Store.notRunning id n) ∧ d.after = d.before)
  /-- An attempt that has ended is not under way again. -/
  final : ∀ earlier d mid later id n, past = earlier ++ d :: (mid ++ later) →
    Underway earlier id n → d.Ends id n → ¬ Underway (earlier ++ d :: mid) id n
  /-- Only the attempt of a job that was opened last can be under way. -/
  last : ∀ earlier later id n, past = earlier ++ later → Underway earlier id n →
    (numbersOf earlier id).getLast? = some n

section History

variable {past earlier mid later : List Dealing} {d e : Dealing} {s : Store} {id : JobId} {n : Int}

theorem underway_nil : ¬ Underway [] id n := by
  rintro ⟨before, d, after, hpast, -⟩
  simp at hpast

/-- One more call opens the attempt, or leaves it under way by not ending it. -/
theorem underway_snoc :
    Underway (past ++ [d]) id n ↔
      d.opens = some (id, n) ∨ (Underway past id n ∧ ¬ d.Ends id n) := by
  constructor
  · rintro ⟨before, x, after, hpast, hopens, hafter⟩
    rcases append_cons_eq_snoc.1 hpast.symm with ⟨-, rfl, -⟩ | ⟨mid, rfl, rfl⟩
    · exact .inl hopens
    · refine .inr ⟨⟨before, x, mid, rfl, hopens, fun e he => ?_⟩, ?_⟩
      · exact hafter e (List.mem_append_left [d] he)
      · exact hafter d (List.mem_append_right mid List.mem_cons_self)
  · rintro (hopens | ⟨⟨before, x, after, rfl, hopens, hafter⟩, hends⟩)
    · exact ⟨past, d, [], rfl, hopens, by simp⟩
    · refine ⟨before, x, after ++ [d], by simp, hopens, fun e he => ?_⟩
      rcases List.mem_append.1 he with he | he
      · exact hafter e he
      · rwa [List.mem_singleton.1 he]

theorem mem_openings (h : Underway past id n) : (id, n) ∈ openings past := by
  obtain ⟨before, d, after, rfl, hopens, -⟩ := h
  exact List.mem_filterMap.2 ⟨d, by simp, hopens⟩

theorem openings_snoc : openings (past ++ [d]) = openings past ++ d.opens.toList := by
  unfold openings
  cases hopens : d.opens <;> simp [hopens]

theorem mem_numbersOf : n ∈ numbersOf past id ↔ (id, n) ∈ openings past := by
  simp [numbersOf]

theorem numbersOf_snoc :
    numbersOf (past ++ [d]) id =
      numbersOf past id ++ ((d.opens.filter (·.1 = id)).map (·.2)).toList := by
  unfold numbersOf
  rw [openings_snoc]
  cases d.opens with
  | none => simp
  | some key => by_cases hkey : key.1 = id <;> simp [hkey, Option.filter_some]

/-- If no attempt is opened twice, what has ended is over. -/
theorem not_underway_of_ended (once : (openings (earlier ++ d :: mid)).Nodup)
    (underway : Underway earlier id n) (ended : d.Ends id n) :
    ¬ Underway (earlier ++ d :: mid) id n := by
  have hmem := mem_openings underway
  induction mid using List.reverseRecOn with
  | nil =>
    rw [openings_snoc] at once
    rw [underway_snoc]
    rintro (hopens | ⟨-, hends⟩)
    · rw [hopens] at once
      exact (List.nodup_append.1 once).2.2 _ hmem _ (by simp) rfl
    · exact hends ended
  | append_singleton mid e ih =>
    -- one more call could only open the attempt again
    rw [← List.cons_append, ← List.append_assoc] at once ⊢
    rw [openings_snoc] at once
    rw [underway_snoc]
    rintro (hopens | ⟨hunderway, -⟩)
    · rw [hopens] at once
      refine (List.nodup_append.1 once).2.2 (id, n) ?_ (id, n) (by simp) rfl
      unfold openings at hmem ⊢
      rw [List.filterMap_append]
      exact List.mem_append_left _ hmem
    · exact ih (List.nodup_append.1 once).1 hunderway

namespace Lived

/-- What a dealing did to attempts. -/
theorem effect (h : Lived past s) (m : Moment) (c : StoreCall) :
    Store.Effect m.now s (s.perform m c).2 (Dealing.mk s m c).opens (Dealing.mk s m c).Ends
      c.verdict :=
  Store.perform_effect h.orderly m c

/-- The store knows what is under way. -/
theorem underway_iff (h : Lived past s) : Underway past id n ↔ s.Runs id n := by
  induction h with
  | born => exact iff_of_false underway_nil (by simp [Store.Runs, Store.empty])
  | deal m c lived ih => rw [underway_snoc, (lived.effect m c).runs, ih]

/-- Attempts are opened in the order of their numbers. -/
theorem numbersOf_eq (h : Lived past s) (id : JobId) :
    0 ≤ s.latest id ∧ numbersOf past id = countedTo (s.latest id).toNat := by
  induction h with
  | born => exact ⟨Int.le_refl 0, rfl⟩
  | @deal past s m c lived ih =>
    obtain ⟨hcounted, hnumbers⟩ := ih
    have heffect := lived.effect m c
    rw [numbersOf_snoc, heffect.latest, hnumbers]
    cases hopens : ((Dealing.mk s m c).opens.filter (·.1 = id)) with
    | none => exact ⟨hcounted, by simp⟩
    | some key =>
      obtain ⟨hkey, hid⟩ := Option.filter_eq_some_iff.1 hopens
      have hnext : key.2 = s.latest id + 1 := heffect.next id key.2 (by
        rw [hkey, ← of_decide_eq_true hid])
      have hnat : (s.latest id + 1).toNat = (s.latest id).toNat + 1 := by omega
      simp only [Option.map_some, Option.getD_some, Option.toList_some]
      rw [hnext, hnat, countedTo_succ, Int.toNat_of_nonneg hcounted]
      exact ⟨by omega, rfl⟩

/-- No attempt is opened twice. -/
theorem nodup_openings (h : Lived past s) : (openings past).Nodup := by
  induction h with
  | born => exact List.nodup_nil
  | @deal past s m c lived ih =>
    rw [openings_snoc]
    cases hopens : (Dealing.mk s m c).opens with
    | none => simpa using ih
    | some key =>
      -- the number of the new attempt is one more than the numbers of those before it
      refine List.nodup_append.2 ⟨ih, by simp, fun old hold new hnew => ?_⟩
      rintro rfl
      obtain rfl : old = key := by simpa using hnew
      obtain ⟨hcounted, hnumbers⟩ := lived.numbersOf_eq old.1
      have hnext := (lived.effect m c).next old.1 old.2 hopens
      have hold := mem_numbersOf.2 hold
      rw [hnumbers, mem_countedTo] at hold
      omega

/-- Every run opens and ends each attempt once. -/
theorem onceOnly (h : Lived past s) : OnceOnly past where
  numbered id := by
    rw [(h.numbersOf_eq id).2, length_countedTo]
  once := h.nodup_openings
  committed earlier d later id n hpast hcommits := by
    subst hpast
    have hearlier := h.before_of_append
    rw [hearlier.underway_iff]
    exact d.commit hcommits
  final earlier d mid later id n hpast underway ended := by
    subst hpast
    refine not_underway_of_ended ?_ underway ended
    have once := h.nodup_openings
    rw [openings, ← List.cons_append, ← List.append_assoc, List.filterMap_append] at once
    exact (List.nodup_append.1 once).1
  last earlier later id n hpast underway := by
    subst hpast
    obtain ⟨m, hearlier⟩ := h.of_append
    have hmem := mem_numbersOf.2 (mem_openings underway)
    have hnumbers := (hearlier.numbersOf_eq id).2
    rw [(hearlier.underway_iff.1 underway).latest_eq] at hnumbers
    rw [hnumbers, mem_countedTo] at hmem
    obtain ⟨k, rfl⟩ : ∃ k : Nat, n = k + 1 := ⟨(n - 1).toNat, by omega⟩
    rw [hnumbers, show ((k : Int) + 1).toNat = k + 1 by omega, countedTo_succ]
    simp

end Lived

end History

/-- The number of a job's attempt is how often the job was started, so a job that was started fewer
than 2147483647 times has a number of 31 bits, and so does its next attempt. -/
theorem Store.attempt_fits (calls : List (Moment × StoreCall)) {id : JobId} {j : Job}
    (stored : (empty.afterAll calls).jobs.get? id = some j) :
    j.attempt = (numbersOf (empty.dealings calls) id).length ∧
      ((numbersOf (empty.dealings calls) id).length < 2147483647 →
        ∀ now, (j.begun now).attempt ≤ 2147483647) := by
  obtain ⟨hcounted, hnumbers⟩ := (Lived.dealings calls).numbersOf_eq id
  have hlatest : (empty.afterAll calls).latest id = j.attempt := by
    rw [latest, stored]
    rfl
  have hattempt : j.attempt = (numbersOf (empty.dealings calls) id).length := by
    rw [hnumbers, length_countedTo, ← hlatest, Int.toNat_of_nonneg hcounted]
  refine ⟨hattempt, fun few now => ?_⟩
  show j.attempt + 1 ≤ 2147483647
  omega

/-- Whatever calls are made on the empty store and at whatever moments, each attempt is opened once
and ended once. -/
theorem Store.onceOnly_dealings (calls : List (Moment × StoreCall)) :
    OnceOnly (empty.dealings calls) :=
  (Lived.dealings calls).onceOnly

end Dispatch
