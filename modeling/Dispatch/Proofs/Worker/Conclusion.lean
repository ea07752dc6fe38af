import Dispatch.Proofs.Store.Turn
import Dispatch.Worker.Poll

/-!
# How an attempt ends

The rows of a job and of its next attempt after the attempt has ended with a result
(`Job.concluded`, `Attempt.concluded`).  The row of the attempt tells the result: no two results
leave the same row, but for limits that read alike.

A start writes the row of a running job and of an open attempt (`Store.start_waiting`), and where
these rows are still there the commit of a result is taken and writes the rows of the ended ones
(`Store.perform_commitCall`).
-/

namespace Dispatch

/-- The job after its next attempt has ended with a result. -/
def Job.concluded (j : Job) (start stop : Time) : Except ProviderError Usage → Job
  | .ok _ => { j with
      status := .succeeded, attempt := j.attempt + 1, startedAt := some start
      finishedAt := some stop, errorCode := none, errorMessage := none }
  | .error e => { j with
      status := .failed, attempt := j.attempt + 1, startedAt := some start
      finishedAt := some stop, errorCode := some e.code, errorMessage := some e.message }

/-- An attempt that has ended with a result. -/
def Attempt.concluded (job : JobId) (number : Int) (start stop : Time) :
    Except ProviderError Usage → Attempt
  | .ok usage =>
    { job, number, startedAt := start, finishedAt := some stop, success := some true
      tokens := usage.tokens, cost := usage.cost, providerMeta := usage.providerMeta }
  | .error e =>
    { job, number, startedAt := start, finishedAt := some stop, success := some false
      errorCode := some e.code, errorMessage := some e.message }

section Concluded

variable {job : JobId} {number : Int} {start stop : Time} {result : Except ProviderError Usage}

theorem Attempt.concluded_eq_ok {usage : Usage} :
    concluded job number start stop result = concluded job number start stop (.ok usage) ↔
      result = .ok usage := by
  refine ⟨fun h => ?_, congrArg _⟩
  rcases result with e | used
  · exact nomatch Option.some.inj (congrArg Attempt.success h)
  · have htokens : used.tokens = usage.tokens := congrArg Attempt.tokens h
    have hcost : used.cost = usage.cost := congrArg Attempt.cost h
    have hmeta : used.providerMeta = usage.providerMeta := congrArg Attempt.providerMeta h
    obtain ⟨tokens, cost, providerMeta⟩ := used
    cases htokens
    cases hcost
    cases hmeta
    rfl

theorem Attempt.concluded_eq_failed {reason : String} :
    concluded job number start stop result =
        concluded job number start stop (.error (.failed reason)) ↔
      result = .error (.failed reason) := by
  refine ⟨fun h => ?_, congrArg _⟩
  rcases result with (limit | said) | usage
  · exact nomatch Option.some.inj (congrArg Attempt.errorCode h)
  · have hmessage : "provider failed: " ++ said = "provider failed: " ++ reason :=
      Option.some.inj (congrArg Attempt.errorMessage h)
    rw [← String.toList_inj, String.toList_append, String.toList_append] at hmessage
    rw [String.toList_inj.1 (List.append_cancel_left hmessage)]
  · exact nomatch Option.some.inj (congrArg Attempt.success h)

/-- An attempt that ran out of time was given a limit, and its row does not tell limits apart that
read alike. -/
theorem Attempt.concluded_eq_timeout {limit : Span}
    (h : concluded job number start stop result =
      concluded job number start stop (.error (.timeout limit))) :
    ∃ limit, result = .error (.timeout limit) := by
  rcases result with (limit | said) | usage
  · exact ⟨limit, rfl⟩
  · exact nomatch Option.some.inj (congrArg Attempt.errorCode h)
  · exact nomatch Option.some.inj (congrArg Attempt.success h)

end Concluded

/-! ## Answers under a limit -/

namespace Answer

variable {a : Answer} {limit : Span}

theorem within_eq_ok {usage : Usage} :
    a.within limit = .ok usage ↔ a.delay ≤ limit ∧ a.result = .ok usage := by
  unfold within
  split <;> simp_all

theorem within_eq_failed {reason : String} :
    a.within limit = .error (.failed reason) ↔
      a.delay ≤ limit ∧ a.result = .error (.failed reason) := by
  unfold within
  split <;> simp_all

theorem within_eq_timeout :
    (∃ l, a.within limit = .error (.timeout l)) ↔
      limit < a.delay ∨ ∃ l, a.result = .error (.timeout l) := by
  unfold within
  by_cases intime : a.delay ≤ limit
  · have hnot : ¬ limit < a.delay := Nat.not_lt.2 intime
    simp only [if_pos intime, hnot, false_or]
  · have hlate : limit < a.delay := Nat.not_le.1 intime
    simp only [if_neg intime, hlate, true_or, iff_true]
    exact ⟨limit, rfl⟩

end Answer

/-! ## Starts and commits in the store -/

namespace Store

variable {s : Store} {id : JobId} {j : Job} {worker : WorkerId} {now start : Time}

/-- The store after a job that waits was started. -/
structure Started (s : Store) (j : Job) (now : Time) (t : Store) : Prop where
  jobs : t.jobs = s.jobs.set j.id (j.begun now)
  attempts : t.attempts = s.attempts.set (j.id, j.attempt + 1) (.opened j.id (j.attempt + 1) now)
  workers : t.workers = s.workers

theorem start_waiting (stored : s.jobs.get? j.id = some j) (waiting : j.status = .queued)
    (worker : WorkerId) (now : Time) :
    ∃ t, s.start j.id worker now = (some (j.begun now), t) ∧ s.Started j now t := by
  have hfound : s.jobIf? j.id (·.status = .queued) = some j := by
    simp [jobIf?, stored, waiting]
  unfold start
  rw [hfound]
  exact ⟨_, rfl, rfl, rfl, rfl⟩

/-- The commit of a result for a job that runs is taken. -/
theorem perform_commitCall (stored : s.jobs.get? j.id = some (j.begun start))
    (opened : s.attempts.get? (j.id, j.attempt + 1) = some (.opened j.id (j.attempt + 1) start))
    (worker : WorkerId) (result : Except ProviderError Usage) (m : Moment) :
    Poll.commitReply worker (j.begun start) result
        (s.perform m (Poll.commitCall worker (j.begun start) result)).1 = .ok () ∧
      (s.perform m (Poll.commitCall worker (j.begun start) result)).2.jobs =
        s.jobs.set j.id (j.concluded start m.now result) ∧
      (s.perform m (Poll.commitCall worker (j.begun start) result)).2.attempts =
        s.attempts.set (j.id, j.attempt + 1)
          (.concluded j.id (j.attempt + 1) start m.now result) ∧
      (s.perform m (Poll.commitCall worker (j.begun start) result)).2.workers = s.workers := by
  have hrunning : s.running? (j.begun start).id (j.begun start).attempt = some (j.begun start) := by
    show s.running? j.id (j.attempt + 1) = _
    simp [running?, jobIf?, stored, Job.begun]
  have hrow : s.attemptRow (j.begun start).id (j.begun start).attempt m.now =
      .opened j.id (j.attempt + 1) start := by
    show (s.attempts.get? (j.id, j.attempt + 1)).getD _ = _
    rw [opened]
    rfl
  cases result with
  | ok usage =>
    have htaken : ∃ t, s.succeed (j.begun start).id (j.begun start).attempt worker usage m.now =
        .ok ((), t) ∧ t.jobs = s.jobs.set j.id (j.concluded start m.now (.ok usage)) ∧
        t.attempts = s.attempts.set (j.id, j.attempt + 1)
          (.concluded j.id (j.attempt + 1) start m.now (.ok usage)) ∧ t.workers = s.workers := by
      unfold succeed
      rw [hrunning]
      dsimp only
      rw [hrow]
      exact ⟨_, rfl, rfl, rfl, rfl⟩
    obtain ⟨t, htaken, hjobs, hattempts, hworkers⟩ := htaken
    simp only [Poll.commitCall, perform, htaken, settle]
    exact ⟨rfl, hjobs, hattempts, hworkers⟩
  | error e =>
    have htaken : ∃ t, s.fail (j.begun start).id (j.begun start).attempt worker e.code e.message
        m.now = .ok ((), t) ∧ t.jobs = s.jobs.set j.id (j.concluded start m.now (.error e)) ∧
        t.attempts = s.attempts.set (j.id, j.attempt + 1)
          (.concluded j.id (j.attempt + 1) start m.now (.error e)) ∧ t.workers = s.workers := by
      unfold fail
      rw [hrunning]
      dsimp only
      rw [hrow]
      exact ⟨_, rfl, rfl, rfl, rfl⟩
    obtain ⟨t, htaken, hjobs, hattempts, hworkers⟩ := htaken
    simp only [Poll.commitCall, perform, htaken, settle]
    exact ⟨rfl, hjobs, hattempts, hworkers⟩

end Store

end Dispatch
