import Dispatch.Proofs.Store.History
import Dispatch.Proofs.Store.Ledger
import Dispatch.Proofs.Store.Replay

/-!
# What is settled stays settled

An attempt whose row is closed and a job that has ended are history, and later calls leave history
alone.  `Untouched` says that two stores agree on everything they have about one job.  A turn that
concerns another job leaves a job untouched (`Turn.untouched`), and of an ended job there is one
turn left at most: an operator sends it back to waiting, unless it has succeeded
(`Turn.untouched_of_terminal`).

`Settled` collects what follows for all further calls.
-/

namespace Dispatch

/-- All that is left to do to a job that has ended is to send it back to waiting, and a job that
has succeeded is not sent back. -/
theorem Life.Step.of_terminal {before after : JobStatus} {kind : EventKind}
    (h : Step (some before) kind after) (terminal : before.isTerminal = true) :
    kind = .retryScheduled ∧ before ≠ .succeeded := by
  cases h with
  | retriedFailed => exact ⟨rfl, by decide⟩
  | retriedCancelled => exact ⟨rfl, by decide⟩
  | _ => cases terminal

namespace Store

variable {s s' t : Store} {now : Time} {id : JobId} {j : Job}

/-! ## All that there is about a job -/

/-- From one store to the other nothing about a job is different: not its row, nor the rows of its
attempts, nor the entries about it. -/
structure Untouched (id : JobId) (s t : Store) : Prop where
  job : t.jobs.get? id = s.jobs.get? id
  attempts : ∀ n, t.attempts.get? (id, n) = s.attempts.get? (id, n)
  events : t.eventsOf id = s.eventsOf id

namespace Untouched

theorem refl (id : JobId) (s : Store) : Untouched id s s := ⟨rfl, fun _ => rfl, rfl⟩

theorem trans (h : Untouched id s s') (h' : Untouched id s' t) : Untouched id s t where
  job := h'.job.trans h.job
  attempts n := (h'.attempts n).trans (h.attempts n)
  events := h'.events.trans h.events

/-- The attempts of an untouched job are listed as before. -/
theorem attemptsOf_eq (h : Untouched id s t) (hs : s.Orderly) (ht : t.Orderly) :
    t.attemptsOf id = s.attemptsOf id := by
  have hsorted : ∀ {u : Store}, u.Orderly →
      (u.attemptsOf id).Pairwise fun a b => a.number < b.number := fun hu =>
    List.pairwise_map.1 (pairwise_attemptsOf hu id)
  have hnodup : ∀ {u : Store}, u.Orderly → (u.attemptsOf id).Nodup := fun hu =>
    List.Nodup.of_map _ (nodup_attemptsOf hu id)
  have hperm : (t.attemptsOf id).Perm (s.attemptsOf id) := by
    rw [List.perm_ext_iff_of_nodup (hnodup ht) (hnodup hs)]
    intro row
    rw [mem_attemptsOf ht, mem_attemptsOf hs, h.attempts]
  refine List.Perm.eq_of_pairwise ?_ (hsorted ht) (hsorted hs) hperm
  intro a b _ _ hab hba
  omega

end Untouched

/-! ## Jobs that have ended -/

namespace Turn

variable {d : Deed} {after : Job}

/-- A turn of another job does not touch a job. -/
theorem untouched (turn : Turn now s d after s') (h : s.Orderly) (other : after.id ≠ id) :
    Untouched id s s' where
  job := by rw [turn.get?_jobs, if_neg other]
  attempts n := by
    rw [turn.get?_attempts h, if_neg]
    intro hkey
    exact other (congrArg Prod.fst hkey)
  events := by rw [Chronicle.eventsOf_turn turn, if_neg other, List.append_nil]

/-- A turn does not touch a job that has ended, unless it sends the job back to waiting. -/
theorem untouched_of_terminal (turn : Turn now s d after s') (h : s.Orderly)
    (stored : s.jobs.get? id = some j) (terminal : j.status.isTerminal = true)
    (spared : d.kind = .retryScheduled → j.status = .succeeded) : Untouched id s s' := by
  by_cases hid : after.id = id
  · exfalso
    subst hid
    rcases turn.found with ⟨-, unknown, -⟩ | ⟨k, hk, step, -⟩
    · rw [unknown] at stored
      cases stored
    · obtain rfl : k = j := Option.some.inj (hk.symm.trans stored)
      obtain ⟨hkind, hfailed⟩ := step.of_terminal terminal
      exact hfailed (spared hkind)
  · exact turn.untouched h hid

end Turn

/-- Turns of a kind that ended jobs do not take do not touch a job that has ended. -/
theorem Turns.untouched {kind : Option EventKind} (turns : Turns now kind s t) (h : s.Orderly)
    (stored : s.jobs.get? id = some j) (terminal : j.status.isTerminal = true)
    (spared : kind = some .retryScheduled → j.status = .succeeded) : Untouched id s t := by
  suffices hboth : t.Orderly ∧ Untouched id s t from hboth.2
  induction turns with
  | refl => exact ⟨h, .refl id s⟩
  | @tail b c _ hturn ih =>
    obtain ⟨hb, hsame⟩ := ih
    obtain ⟨d, after, hkind, turn⟩ := hturn
    have hstored : b.jobs.get? id = some j := hsame.job.trans stored
    have hspared : d.kind = .retryScheduled → j.status = .succeeded := by
      intro hd
      rw [hd] at hkind
      exact spared hkind.symm
    exact ⟨turn.orderly hb, hsame.trans (turn.untouched_of_terminal hb hstored terminal hspared)⟩

/-- A call does not touch a job that has ended, unless it is a retry of the job that succeeds. -/
theorem perform_untouched (h : s.Orderly) (m : Moment) (c : StoreCall)
    (stored : s.jobs.get? id = some j) (terminal : j.status.isTerminal = true) :
    Untouched id s (s.perform m c).2 ∨
      (j.status ≠ .succeeded ∧ c = .retry id ∧ Dealing.error ⟨s, m, c⟩ = none) := by
  cases c with
  | retry id' =>
    show Untouched id s (s.settle (s.retry id' m.now)).2 ∨ _ ∧ _ ∧
      refusal (s.settle (s.retry id' m.now)).1 = none
    cases hs : s.retry id' m.now with
    | error e => exact .inl (.refl id s)
    | ok r =>
      obtain ⟨after, next⟩ := r
      obtain ⟨rfl, turn⟩ := retry_turn h hs
      by_cases hid : after.id = id
      · subst hid
        by_cases hdone : j.status = .succeeded
        · exact .inl (turn.untouched_of_terminal h stored terminal fun _ => hdone)
        · exact .inr ⟨hdone, rfl, rfl⟩
      · exact .inl (turn.untouched h hid)
  | beat worker state running concurrency => exact .inl ⟨rfl, fun _ => rfl, rfl⟩
  | _ =>
    refine .inl ((perform_turns h m rfl).untouched h stored terminal fun hkind => ?_)
    cases hkind

/-- Some calls do not touch a job that has ended, unless one of them is a retry of the job that
succeeds; and up to that retry they do not touch it either. -/
theorem afterAll_untouched (h : s.Orderly) (stored : s.jobs.get? id = some j)
    (terminal : j.status.isTerminal = true) (calls : List (Moment × StoreCall)) :
    Untouched id s (s.afterAll calls) ∨
      (j.status ≠ .succeeded ∧ ∃ earlier d later, s.dealings calls = earlier ++ d :: later ∧
        Untouched id s d.before ∧ d.call = .retry id ∧ d.error = none) := by
  induction calls generalizing s with
  | nil => exact .inl (.refl id s)
  | cons call rest ih =>
    obtain ⟨m, c⟩ := call
    rcases perform_untouched h m c stored terminal with hsame | ⟨hfailed, rfl, taken⟩
    · rcases ih (h.perform m c) (hsame.job.trans stored) with hrest | ⟨hfailed, earlier, d, later,
          hsplit, hbefore, hcall, taken⟩
      · exact .inl (hsame.trans hrest)
      · refine .inr ⟨hfailed, ⟨s, m, c⟩ :: earlier, d, later, ?_, hsame.trans hbefore, hcall, taken⟩
        rw [dealings, hsplit, List.cons_append]
    · exact .inr ⟨hfailed, [], ⟨s, m, .retry id⟩, _, rfl, .refl id s, rfl, taken⟩

/-! ## Attempts that have ended -/

/-- A turn leaves a closed row as it is: the attempt that a start opens has no row yet, and what
closes a row does nothing to a closed one. -/
theorem Turn.closed_row {d : Deed} {after : Job} (turn : Turn now s d after s') (h : s.Orderly)
    (ledger : s.Ledger) {key : JobId × Int} {row : Attempt}
    (hrow : s.attempts.get? key = some row) (closed : row.isOpen = false) :
    s'.attempts.get? key = some row := by
  rw [turn.get?_attempts h]
  split
  · rename_i hkey
    subst hkey
    by_cases hstart : d.kind = .started
    · exfalso
      rcases turn.found with ⟨rfl, -⟩ | ⟨k, hk, -, hattempt, -⟩
      · cases hstart
      · have hbound := ((ledger.booked after.id k hk).numbered hrow).2
        rw [if_pos hstart] at hattempt
        omega
    · cases hverdict : d.verdict with
      | some v =>
        rw [d.write_verdict hverdict, hrow]
        show some (v.close now row) = some row
        rw [Verdict.close_of_closed closed]
      | none => rw [d.write_idle hstart hverdict, hrow]
  · exact hrow

/-- A closed row stays as it is whatever calls follow. -/
theorem afterAll_closed_row (h : s.Orderly) (ledger : s.Ledger) {key : JobId × Int}
    {row : Attempt} (hrow : s.attempts.get? key = some row) (closed : row.isOpen = false)
    (calls : List (Moment × StoreCall)) :
    (s.afterAll calls).attempts.get? key = some row := by
  refine (kept_by_afterAll (P := fun u => u.Ledger ∧ u.attempts.get? key = some row) h
    ?_ ⟨ledger, hrow⟩ calls).2.2
  intro now a b ha change hold
  obtain ⟨hledger, hkept⟩ := hold
  cases change with
  | turn turn => exact ⟨hledger.turn turn ha, turn.closed_row ha hledger hkept closed⟩
  | report workers => exact ⟨⟨hledger.booked, hledger.unowned⟩, hkept⟩

/-! ## What is refused -/

/-- Nobody can do anything to the job any more. -/
structure Refuses (s : Store) (id : JobId) : Prop where
  start : ∀ m worker, s.perform m (.start id worker) = (.ok none, s)
  succeed : ∀ m n worker usage,
    s.perform m (.succeed id n worker usage) = (.error (notRunning id n), s)
  fail : ∀ m n worker code message,
    s.perform m (.fail id n worker code message) = (.error (notRunning id n), s)
  cancel : ∀ m reason, s.perform m (.cancel id reason) = (.error (notInState id "cancellable"), s)
  retry : ∀ m, s.perform m (.retry id) = (.error (notInState id "retryable"), s)

theorem jobIf?_eq_none {allowed : Job → Bool} (stored : s.jobs.get? id = some j)
    (forbidden : allowed j = false) : s.jobIf? id allowed = none := by
  rw [jobIf?, stored, Option.filter_some, forbidden]
  rfl

theorem refuses_of_succeeded (stored : s.jobs.get? id = some j) (done : j.status = .succeeded) :
    s.Refuses id where
  start m worker := by
    have hnone : s.jobIf? id (·.status = .queued) = none := jobIf?_eq_none stored (by simp [done])
    simp only [perform, Store.start, hnone]
  succeed m n worker usage := by
    have hnone : s.running? id n = none := jobIf?_eq_none stored (by simp [done])
    simp only [perform, Store.succeed, hnone, settle]
  fail m n worker code message := by
    have hnone : s.running? id n = none := jobIf?_eq_none stored (by simp [done])
    simp only [perform, Store.fail, hnone, settle]
  cancel m reason := by
    have hnone : s.jobIf? id (·.status.isCancellable) = none :=
      jobIf?_eq_none stored (by simp [done, JobStatus.isCancellable])
    simp only [perform, Store.cancel, hnone, settle]
  retry m := by
    have hnone : s.jobIf? id (·.status.isRetryable) = none :=
      jobIf?_eq_none stored (by simp [done, JobStatus.isRetryable])
    simp only [perform, Store.retry, hnone, settle]

/-! ## Settled history -/

/-- What some calls leave alone. -/
structure Settled (s : Store) (calls : List (Moment × StoreCall)) : Prop where
  /-- A closed row of an attempt stays as it is. -/
  closed : ∀ id n row, s.attempts.get? (id, n) = some row → row.isOpen = false →
    (s.afterAll calls).attempts.get? (id, n) = some row
  /-- A job that has succeeded stays as it is, with its attempts and the entries about it. -/
  succeeded : ∀ id j, s.jobs.get? id = some j → j.status = .succeeded →
    Untouched id s (s.afterAll calls) ∧
      (s.afterAll calls).attemptsOf id = s.attemptsOf id
  /-- Whatever is asked of a job that has succeeded is refused. -/
  refused : ∀ id j, s.jobs.get? id = some j → j.status = .succeeded →
    (s.afterAll calls).Refuses id
  /-- A job that failed or was cancelled stays as it is, with its attempts and the entries about
  it, up to the first retry of it that succeeds. -/
  ended : ∀ id j, s.jobs.get? id = some j → j.status = .failed ∨ j.status = .cancelled →
    (Untouched id s (s.afterAll calls) ∧ (s.afterAll calls).attemptsOf id = s.attemptsOf id) ∨
      ∃ earlier d later, s.dealings calls = earlier ++ d :: later ∧
        Untouched id s d.before ∧ d.call = .retry id ∧ d.error = none

/-- Whatever calls are made on the empty store and whatever calls follow them, history stays. -/
theorem settled_afterAll (past calls : List (Moment × StoreCall)) :
    (empty.afterAll past).Settled calls := by
  have hlived := Lived.dealings past
  have hledger := Ledger.lived hlived
  have horderly := hlived.orderly
  generalize empty.afterAll past = s at hledger horderly
  have hlater := horderly.afterAll calls
  have hdone : ∀ id j, s.jobs.get? id = some j → j.status = .succeeded →
      Untouched id s (s.afterAll calls) := by
    intro id j stored done
    rcases afterAll_untouched horderly stored (by rw [done]; rfl) calls with hsame | ⟨hfailed, -⟩
    · exact hsame
    · exact absurd done hfailed
  refine ⟨?_, ?_, ?_, ?_⟩
  · intro id n row hrow closed
    exact afterAll_closed_row horderly hledger hrow closed calls
  · intro id j stored done
    have hsame := hdone id j stored done
    exact ⟨hsame, hsame.attemptsOf_eq horderly hlater⟩
  · intro id j stored done
    have hsame := hdone id j stored done
    exact refuses_of_succeeded (hsame.job.trans stored) done
  · intro id j stored ended
    have terminal : j.status.isTerminal = true := by
      rcases ended with h | h <;> rw [h] <;> rfl
    rcases afterAll_untouched horderly stored terminal calls with hsame | ⟨-, hretried⟩
    · exact .inl ⟨hsame, hsame.attemptsOf_eq horderly hlater⟩
    · exact .inr hretried

end Store

end Dispatch
