import Dispatch.Proofs.Store.Change

/-!
# What a call does to attempts, seen from outside

The caller of a store sees calls and answers.  `StoreCall.opens` and `StoreCall.Ends` read from a
call and its answer which attempt it opened and which attempts it may have ended, and
`StoreCall.verdict` how.  `perform_effect` says that this is enough to know what becomes of every
running attempt and of every row.

The effect of a turn is worked out once (`Turn.effect`); effects that open nothing compose
(`Effect.trans`), which is how the turns of a batch become the effect of one call.
-/

namespace Dispatch

namespace StoreCall

/-- The attempt that the call opened. -/
def opens : (c : StoreCall) → c.Reply → Option (JobId × Int)
  | .start id _, .ok (some j) => some (id, j.attempt)
  | _, _ => none

/-- The call ended the attempt, if the attempt was running. -/
def Ends (id : JobId) (n : Int) : (c : StoreCall) → c.Reply → Prop
  | .succeed job number _ _, .ok _ => job = id ∧ number = n
  | .fail job number _ _ _, .ok _ => job = id ∧ number = n
  | .cancel job _, .ok _ => job = id
  | .requeueOrphaned _, .ok jobs => id ∈ jobs.map (·.id)
  | _, _ => False

/-- How the call ends attempts. -/
def verdict : StoreCall → Option Store.Verdict
  | .succeed _ _ _ usage => some (.done usage)
  | .fail _ _ _ code message => some (.broken code message)
  | .cancel _ reason => some (.broken .cancelled reason)
  | .requeueOrphaned _ => some (.broken .workerLost Store.workerLostNote)
  | _ => none

end StoreCall

namespace Store

variable {s s' s'' : Store} {now : Time}

/-- The job is running the attempt. -/
def Runs (s : Store) (id : JobId) (n : Int) : Prop :=
  ∃ j, s.jobs.get? id = some j ∧ j.status = .running ∧ j.attempt = n

/-- The number of the job's latest attempt, zero if there is none. -/
def latest (s : Store) (id : JobId) : Int := ((s.jobs.get? id).map (·.attempt)).getD 0

theorem Runs.latest_eq {id : JobId} {n : Int} (h : s.Runs id n) : s.latest id = n := by
  obtain ⟨j, hj, -, hn⟩ := h
  simp [latest, hj, hn]

theorem running?_isSome {id : JobId} {n : Int} : (s.running? id n).isSome = true ↔ s.Runs id n := by
  simp [Option.isSome_iff_exists, running?_eq_some, Runs]

/-! ## Effects -/

/-- From one store to the next at most one attempt was opened, and some were ended, all with one
verdict. -/
structure Effect (now : Time) (s s' : Store) (opened : Option (JobId × Int))
    (Ended : JobId → Int → Prop) (verdict : Option Verdict) : Prop where
  runs : ∀ id n, s'.Runs id n ↔ opened = some (id, n) ∨ (s.Runs id n ∧ ¬ Ended id n)
  latest : ∀ id, s'.latest id = ((opened.filter (·.1 = id)).map (·.2)).getD (s.latest id)
  next : ∀ id n, opened = some (id, n) → n = s.latest id + 1
  entered : ∀ id n, opened = some (id, n) →
    s'.attempts.get? (id, n) = some (.opened id n now)
  closed : ∀ id n, s.Runs id n → Ended id n → ∀ v, verdict = some v →
    s'.attempts.get? (id, n) = (s.attempts.get? (id, n)).map (v.close now)
  kept : ∀ id n, opened ≠ some (id, n) → ¬ (s.Runs id n ∧ Ended id n) →
    s'.attempts.get? (id, n) = s.attempts.get? (id, n)

namespace Effect

variable {opened : Option (JobId × Int)} {Ended Ended' : JobId → Int → Prop}
  {verdict verdict' : Option Verdict}

/-- Nothing happens where the jobs and the rows of attempts stay as they are. -/
theorem nothing (jobs : s'.jobs = s.jobs) (attempts : s'.attempts = s.attempts)
    (unended : ∀ id n, ¬ Ended id n) : Effect now s s' none Ended verdict where
  runs id n := by simp [Runs, jobs, unended]
  latest id := by simp [Store.latest, jobs]
  next id n h := by cases h
  entered id n h := by cases h
  closed id n _ h := (unended id n h).elim
  kept id n _ _ := by rw [attempts]

/-- What may have ended matters only of attempts that were running. -/
theorem congr (e : Effect now s s' opened Ended verdict)
    (ended : ∀ id n, s.Runs id n → (Ended' id n ↔ Ended id n)) :
    Effect now s s' opened Ended' verdict where
  runs id n := by
    rw [e.runs]
    refine or_congr_right (and_congr_right fun hruns => ?_)
    rw [ended id n hruns]
  latest := e.latest
  next := e.next
  entered := e.entered
  closed id n hruns hended := e.closed id n hruns ((ended id n hruns).1 hended)
  kept id n hopened hnot := by
    refine e.kept id n hopened fun h => hnot ⟨h.1, (ended id n h.1).2 h.2⟩

/-- Where nothing that was running ended, the verdict does not matter. -/
theorem unended (e : Effect now s s' opened Ended verdict)
    (still : ∀ id n, s.Runs id n → ¬ Ended id n) : Effect now s s' opened Ended verdict' where
  runs := e.runs
  latest := e.latest
  next := e.next
  entered := e.entered
  closed id n hruns hended := (still id n hruns hended).elim
  kept := e.kept

/-- Two effects with one verdict, neither of which opens an attempt, are one. -/
theorem trans (e : Effect now s s' none Ended verdict)
    (e' : Effect now s' s'' none Ended' verdict) :
    Effect now s s'' none (fun id n => Ended id n ∨ Ended' id n) verdict where
  runs id n := by
    rw [e'.runs, e.runs]
    simp only [reduceCtorEq, false_or, not_or, and_assoc]
  latest id := by rw [e'.latest, e.latest]; rfl
  next id n h := by cases h
  entered id n h := by cases h
  closed id n hruns hended v hv := by
    by_cases hfirst : Ended id n
    · have hstill : ¬ s'.Runs id n := by simp [e.runs, hfirst]
      rw [e'.kept id n (by simp) fun h => hstill h.1]
      exact e.closed id n hruns hfirst v hv
    · have hthen : s'.Runs id n := by simp [e.runs, hruns, hfirst]
      rw [e'.closed id n hthen (hended.resolve_left hfirst) v hv]
      rw [e.kept id n (by simp) fun h => hfirst h.2]
  kept id n _ hnot := by
    rw [e'.kept id n (by simp), e.kept id n (by simp)]
    · exact fun h => hnot ⟨h.1, .inl h.2⟩
    · rintro ⟨hruns, hended⟩
      rw [e.runs] at hruns
      simp only [reduceCtorEq, false_or] at hruns
      exact hnot ⟨hruns.1, .inr hended⟩

end Effect

/-! ## The effect of a turn -/

namespace Turn

variable {d : Deed} {after : Job}

/-- A running attempt of the job that takes the turn is its current one, and the turn ends it. -/
theorem ends_running (t : Turn now s d after s') {n : Int} (h : s.Runs after.id n) :
    after.attempt = n ∧ d.verdict.isSome = true := by
  obtain ⟨j, hj, running, rfl⟩ := h
  rcases t.found with ⟨-, unknown, -⟩ | ⟨k, stored, step, hattempt, hends⟩
  · rw [unknown] at hj
    cases hj
  · rw [stored] at hj
    cases hj
    have hverdict := hends.2 running
    refine ⟨?_, hverdict⟩
    rw [hattempt, if_neg, Int.add_zero]
    intro hstart
    rw [d.verdict_started hstart] at hverdict
    cases hverdict

/-- A turn that ends an attempt finds it running. -/
theorem runs_of_verdict (t : Turn now s d after s') (hverdict : d.verdict.isSome = true) :
    s.Runs after.id after.attempt := by
  rcases t.found with ⟨rfl, -⟩ | ⟨j, stored, -, hattempt, hends⟩
  · cases hverdict
  · refine ⟨j, stored, hends.1 hverdict, ?_⟩
    rw [hattempt, if_neg, Int.add_zero]
    intro hstart
    rw [d.verdict_started hstart] at hverdict
    cases hverdict

/-- The attempt that a turn opens. -/
def opens (d : Deed) (after : Job) : Option (JobId × Int) :=
  if d.kind = .started then some (after.id, after.attempt) else none

theorem opens_eq_some {id : JobId} {n : Int} :
    opens d after = some (id, n) ↔ d.kind = .started ∧ after.id = id ∧ after.attempt = n := by
  simp [opens]

theorem runs_iff (t : Turn now s d after s') (id : JobId) (n : Int) :
    s'.Runs id n ↔ opens d after = some (id, n) ∨ (s.Runs id n ∧ ¬ after.id = id) := by
  rw [opens_eq_some]
  unfold Runs
  simp only [t.get?_jobs]
  by_cases hid : after.id = id
  · simp [hid, t.running_iff]
  · simp [hid]

theorem latest_eq (t : Turn now s d after s') (id : JobId) :
    s'.latest id = (((opens d after).filter (·.1 = id)).map (·.2)).getD (s.latest id) := by
  have hcounted := t.counted
  unfold latest opens
  rw [t.get?_jobs]
  by_cases hid : after.id = id
  · subst hid
    by_cases hstart : d.kind = .started
    · simp [hstart, Option.filter_some]
    · simpa [hstart] using hcounted
  · by_cases hstart : d.kind = .started <;> simp [hid, hstart, Option.filter_some]

/-- A turn opens an attempt if it is a start, and it ends the running attempt of its job. -/
theorem effect (t : Turn now s d after s') (h : s.Orderly) :
    Effect now s s' (opens d after) (fun id _ => after.id = id) d.verdict where
  runs := t.runs_iff
  latest := t.latest_eq
  next id n hopened := by
    obtain ⟨hstart, rfl, rfl⟩ := opens_eq_some.1 hopened
    have hcounted := t.counted
    rwa [if_pos hstart] at hcounted
  entered id n hopened := by
    obtain ⟨hstart, rfl, rfl⟩ := opens_eq_some.1 hopened
    rw [t.get?_attempts h, if_pos rfl, d.write_started hstart]
  closed id n hruns hid v hv := by
    subst hid
    obtain ⟨rfl, -⟩ := t.ends_running hruns
    rw [t.get?_attempts h, if_pos rfl, d.write_verdict hv]
  kept id n hopened hnot := by
    rw [t.get?_attempts h]
    split
    · rename_i hkey
      cases hkey
      refine d.write_idle (fun hstart => hopened (opens_eq_some.2 ⟨hstart, rfl, rfl⟩)) ?_
      exact Option.not_isSome_iff_eq_none.1 fun hends => hnot ⟨t.runs_of_verdict hends, rfl⟩
    · rfl

/-- A turn that ends no attempt leaves those that run alone. -/
theorem effect_unended (t : Turn now s d after s') (h : s.Orderly) (hd : d.verdict = none)
    (Ended : JobId → Int → Prop) (ended : ∀ id n, Ended id n → after.id = id)
    (verdict : Option Verdict) : Effect now s s' (opens d after) Ended verdict := by
  have still : ∀ id n, s.Runs id n → after.id ≠ id := by
    rintro id n hruns rfl
    have hends := (t.ends_running hruns).2
    rw [hd] at hends
    cases hends
  refine ((t.effect h).congr fun id n hruns => ?_).unended fun id n hruns hended => ?_
  · exact iff_of_false (fun hended => still id n hruns (ended id n hended)) (still id n hruns)
  · exact still id n hruns (ended id n hended)

end Turn

/-! ## The effect of a call -/

/-- Jobs that all run go back to waiting one by one, and their attempts end. -/
theorem requeue_effect {found : List Job} (h : s.Orderly) (distinct : (found.map (·.id)).Nodup)
    (running : ∀ j ∈ found, s.jobs.get? j.id = some j ∧ j.status = .running) :
    Effect now s (found.foldl (requeueOne now) s) none (fun id _ => id ∈ found.map (·.id))
      (some (.broken .workerLost workerLostNote)) := by
  induction found generalizing s with
  | nil => exact .nothing rfl rfl fun _ _ => List.not_mem_nil
  | cons j rest ih =>
    obtain ⟨stored, runs⟩ := running j List.mem_cons_self
    have turn : Turn now s .requeued (requeuedJob j) (requeueOne now s j) := .requeued stored runs
    have heffect := (turn.effect h).trans (ih (turn.orderly h) (List.nodup_cons.1 distinct).2
      (requeue_running distinct running))
    exact heffect.congr fun id n _ => by simp [requeuedJob, eq_comm]

/-- What a call and its answer say happened to attempts is what happened. -/
theorem perform_effect (h : s.Orderly) (m : Moment) (c : StoreCall) :
    Effect m.now s (s.perform m c).2 (c.opens (s.perform m c).1)
      (fun id n => c.Ends id n (s.perform m c).1) c.verdict := by
  cases c with
  | create draft =>
    rw [perform]
    cases hs : s.create draft m.fresh m.now with
    | error e => exact .nothing rfl rfl fun _ _ => not_false
    | ok r =>
      rcases create_turn hs with ⟨-, hsame⟩ | ⟨-, turn⟩
      · exact .nothing (congrArg jobs hsame) (congrArg attempts hsame) fun _ _ => not_false
      · exact turn.effect_unended h rfl _ (fun _ _ => False.elim) none
  | start id worker =>
    rw [perform]
    rcases start_turn h id worker m.now with ⟨hs, -⟩ | ⟨j, t, hs, rfl, turn⟩
    · rw [hs]
      exact .nothing rfl rfl fun _ _ => not_false
    · rw [hs]
      exact turn.effect_unended h rfl _ (fun _ _ => False.elim) none
  -- a turn ends whatever runs, and a commit names it
  | succeed id n worker usage =>
    rw [perform]
    cases hs : s.succeed id n worker usage m.now with
    | error e => exact .nothing rfl rfl fun _ _ => not_false
    | ok r =>
      obtain ⟨after, turn, rfl, rfl⟩ := succeed_turn h hs
      refine (turn.effect h).congr fun id n hruns => ⟨And.left, ?_⟩
      rintro rfl
      exact ⟨rfl, (turn.ends_running hruns).1⟩
  | fail id n worker code message =>
    rw [perform]
    cases hs : s.fail id n worker code message m.now with
    | error e => exact .nothing rfl rfl fun _ _ => not_false
    | ok r =>
      obtain ⟨after, turn, rfl, rfl⟩ := fail_turn h hs
      refine (turn.effect h).congr fun id n hruns => ⟨And.left, ?_⟩
      rintro rfl
      exact ⟨rfl, (turn.ends_running hruns).1⟩
  | cancel id reason =>
    rw [perform]
    cases hs : s.cancel id reason m.now with
    | error e => exact .nothing rfl rfl fun _ _ => not_false
    | ok r =>
      obtain ⟨rfl, d, rfl | rfl, turn⟩ := cancel_turn h hs
      · exact turn.effect_unended h rfl _ (fun _ _ hid => hid) _
      · exact turn.effect h
  | retry id =>
    rw [perform]
    cases hs : s.retry id m.now with
    | error e => exact .nothing rfl rfl fun _ _ => not_false
    | ok r => exact (retry_turn h hs).2.effect_unended h rfl _ (fun _ _ => False.elim) none
  | requeueOrphaned staleAfter =>
    refine (requeue_effect h (nodup_orphans h _) fun _ hj => orphans_stored h hj).congr
      fun id n _ => ?_
    simp [perform, requeueOrphaned, StoreCall.Ends, requeuedJob]
  | beat worker state running concurrency => exact .nothing rfl rfl fun _ _ => not_false
  | get id => exact .nothing rfl rfl fun _ _ => not_false
  | list filter => exact .nothing rfl rfl fun _ _ => not_false
  | listWorkers => exact .nothing rfl rfl fun _ _ => not_false
  | listEvents id limit => exact .nothing rfl rfl fun _ _ => not_false
  | tally => exact .nothing rfl rfl fun _ _ => not_false
  | ping => exact .nothing rfl rfl fun _ _ => not_false

end Store

end Dispatch
