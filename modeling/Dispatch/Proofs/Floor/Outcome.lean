import Dispatch.Proofs.Floor.Sound
import Dispatch.Proofs.Store.Biography

/-!
# Executions and attempts correspond

However the calls of lanes, reconcilers and the service fall between each other, each attempt is
handed to a provider once at most, by the lane that started it, no two lanes work on one attempt,
and the result that a poll returns is the truth about the attempt's row: what the lane says it has
committed is in the row and stays there, and what it says was taken from it was taken by a
cancellation or by the reconciler.
-/

namespace Dispatch

/-! ## What is stated -/

/-- The attempts that were handed to a provider, oldest first. -/
def handedOf (history : List Note) : List (JobId × Int) :=
  history.filterMap fun
    | .handed _ job _ => some (job.id, job.attempt)
    | _ => none

/-- The job of the attempt that a poll in the phase works on: it has started it and is not done
with committing it. -/
def PollPhase.job? : PollPhase → Option Job
  | announcing job | handing job | limiting job _ | scheduling job _ _ | executing job _ _
  | rousing job _ _ | beating job _ _ | committing job _ _ | pausing job _ _
  | paused job _ _ _ => some job
  | _ => none

/-- The job of the attempt that a lane works on. -/
def Lane.job? (l : Lane) : Option Job :=
  match l.stage with
  | .polling phase => phase.job?
  | _ => none

/-- What the result of a lane's poll says, and what the store says to it.  `past` is the history
at the time when the poll returned. -/
def Accounted (s : Store) (past : List Note) (i : Nat) (config : WorkerConfig) :
    PollResult → Prop
  | .ok .idle => deedsOf i past = []
  | .ok (.leaseHeld _) => deedsOf i past = []
  | .ok (.skipped id) => ∃ d, deedsOf i past = [.dealt i d] ∧
    d.call = .start id config.worker ∧ d.handsOut = none ∧ d.after = d.before
  | .ok (.succeeded id) => ∃ job answer usage d e, job.id = id ∧ Began config job d ∧
    deedsOf i past = [.dealt i d, .handed i job answer, .dealt i e] ∧
    answer.within config.providerTimeout = .ok usage ∧
    e.call = .succeed id job.attempt config.worker usage ∧ e.error = none ∧
    s.attempts.get? (id, job.attempt) =
      some ((Attempt.opened id job.attempt d.moment.now).succeed usage e.moment.now)
  | .ok (.failed id code) => ∃ job answer failure d e, job.id = id ∧ Began config job d ∧
    deedsOf i past = [.dealt i d, .handed i job answer, .dealt i e] ∧
    answer.within config.providerTimeout = .error failure ∧ code = failure.code ∧
    e.call = .fail id job.attempt config.worker code failure.message ∧ e.error = none ∧
    s.attempts.get? (id, job.attempt) =
      some ((Attempt.opened id job.attempt d.moment.now).fail code failure.message e.moment.now)
  | .ok (.abandoned id) => ∃ job answer d e, job.id = id ∧ Began config job d ∧
    deedsOf i past = [.dealt i d, .handed i job answer, .dealt i e] ∧
    e.call.commits = some (id, job.attempt) ∧
    e.error = some (Store.notRunning id job.attempt) ∧ e.after = e.before ∧
    ∃ k c code reason, .dealt k c ∈ past ∧ c.Takes id job.attempt code reason ∧
      s.attempts.get? (id, job.attempt) =
        some ((Attempt.opened id job.attempt d.moment.now).fail code reason c.moment.now) ∧
      e.before.attempts.get? (id, job.attempt) = s.attempts.get? (id, job.attempt)
  | .ok (.uncommitted _) => False
  | .error _ => False

/-- Executions correspond to attempts. -/
structure Floor.Faithful (f : Floor) : Prop where
  /-- No attempt is handed to a provider twice. -/
  once : (handedOf f.history).Nodup
  /-- An attempt is handed over by the lane that started it, whose start opened the attempt's
  row. -/
  own : ∀ past i job answer later, f.history = past ++ .handed i job answer :: later →
    ∃ config d, Began config job d ∧ .dealt i d ∈ past ∧
      d.after.attempts.get? (job.id, job.attempt) =
        some (.opened job.id job.attempt d.moment.now)
  /-- One lane at most works on an attempt. -/
  apart : ∀ (i j : Nat) (l m : Lane) (a b : Job), f.agents[i]? = some (.lane l) →
    f.agents[j]? = some (.lane m) → l.job? = some a → m.job? = some b → a.id = b.id →
    a.attempt = b.attempt → i = j
  /-- A poll returns the truth. -/
  accounted : ∀ past i config result later,
    f.history = past ++ .polled i config result :: later → Accounted f.store past i config result

/-! ## Once -/

theorem stampsOf_sublist (note : Note) (history : List Note) :
    (stampsOf history).Sublist (stampsOf (note :: history)) :=
  (List.sublist_cons_self note history).filterMap _

theorem handedOf_sublist (history : List Note) :
    ((handedOf history).map fun key => Stamp.handed key.1 key.2).Sublist (stampsOf history) := by
  induction history with
  | nil => exact List.Sublist.refl _
  | cons note rest ih =>
    cases note with
    | handed agent job answer => exact ih.cons_cons _
    | dealt agent d => exact ih.trans (stampsOf_sublist _ rest)
    | polled agent config result => exact ih

theorem Dealing.stamp_of_commits {d : Dealing} {key : JobId × Int}
    (h : d.call.commits = some key) (agent : Nat) :
    (Note.dealt agent d).stamp = some (.committed key.1 key.2) := by
  have hopens : d.opens = none := by
    obtain ⟨s, m, c⟩ := d
    cases c <;> first | rfl | cases h
  simp [Note.stamp, hopens, h]

theorem commitsOf_sublist (history : List Note) :
    ((commitsOf (dealingsOf history)).map fun key => Stamp.committed key.1 key.2).Sublist
      (stampsOf history) := by
  induction history with
  | nil => exact List.Sublist.refl _
  | cons note rest ih =>
    cases note with
    | handed agent job answer => exact ih.cons _
    | polled agent config result => exact ih
    | dealt agent d =>
      change (List.map _ (commitsOf (d :: dealingsOf rest))).Sublist _
      cases hcommits : d.call.commits with
      | none =>
        simp only [commitsOf, List.filterMap_cons, hcommits]
        exact ih.trans (stampsOf_sublist _ rest)
      | some key =>
        rw [stampsOf, List.filterMap_cons_some (Dealing.stamp_of_commits hcommits agent)]
        simp only [commitsOf, List.filterMap_cons, hcommits]
        exact ih.cons_cons _

namespace Floor.Sound

variable {f : Floor}

theorem nodup_handedOf (h : f.Sound) : (handedOf f.history).Nodup := by
  have hstamps := (List.nodup_append.1 h.once).1
  exact List.Nodup.of_map _ (hstamps.sublist (handedOf_sublist f.history))

/-- No attempt is committed twice. -/
theorem nodup_commitsOf (h : f.Sound) : (commitsOf (dealingsOf f.history)).Nodup := by
  have hstamps := (List.nodup_append.1 h.once).1
  exact List.Nodup.of_map _ (hstamps.sublist (commitsOf_sublist f.history))

end Floor.Sound

/-! ## Apart -/

/-- A lane that works on an attempt is still to commit it. -/
theorem Lane.owes_of_job {l : Lane} {a : Job} (h : l.job? = some a) :
    .committed a.id a.attempt ∈ l.owes := by
  obtain ⟨config, presence, seen, stage⟩ := l
  cases stage with
  | polling phase => cases phase <;> cases h <;> simp [owes, PollPhase.owes]
  | _ => cases h

/-- What two agents owe is not the same. -/
theorem Floor.Sound.owes_apart {f : Floor} (h : f.Sound) {i j : Nat} {a b : Agent} {x : Stamp}
    (hi : f.agents[i]? = some a) (hj : f.agents[j]? = some b) (ha : x ∈ a.owes)
    (hb : x ∈ b.owes) : i = j := by
  -- the book would count the stamp twice
  have howed := (List.nodup_flatMap.1 (List.nodup_append.1 h.once).2.1).2
  rw [List.pairwise_iff_getElem] at howed
  obtain ⟨hilt, rfl⟩ := List.getElem?_eq_some_iff.1 hi
  obtain ⟨hjlt, rfl⟩ := List.getElem?_eq_some_iff.1 hj
  rcases Nat.lt_trichotomy i j with hlt | heq | hgt
  · exact (howed i j hilt hjlt hlt ha hb).elim
  · exact heq
  · exact (howed j i hjlt hilt hgt hb ha).elim

/-! ## What the rows say -/

theorem Began.opens {config : WorkerConfig} {job : Job} {d : Dealing} (h : Began config job d) :
    d.opens = some (job.id, job.attempt) := by
  obtain ⟨s, m, c⟩ := d
  obtain ⟨rfl, hout⟩ := h
  unfold Dealing.handsOut at hout
  unfold Dealing.opens
  generalize Dealing.reply _ = reply at hout ⊢
  cases reply with
  | error e => cases hout
  | ok handed =>
    cases hout
    rfl

/-- A start that hands out nothing does nothing. -/
theorem Dealing.after_of_skipped {d : Dealing} {id : JobId} {worker : WorkerId}
    (orderly : d.before.Orderly) (hcall : d.call = .start id worker) (hnone : d.handsOut = none) :
    d.after = d.before := by
  obtain ⟨s, m, c⟩ := d
  obtain rfl : c = .start id worker := hcall
  rcases Store.start_turn orderly id worker m.now with ⟨hs, -⟩ | ⟨job, t, hs, -, -⟩
  · exact congrArg Prod.snd hs
  · have hreply : (Dealing.mk s m (.start id worker)).reply = .ok (some job) := by
      simp [Dealing.reply, Store.perform, hs]
    rw [Dealing.handsOut, hreply] at hnone
    cases hnone

/-- The verdict that a lane commits. -/
def verdictOf : Except ProviderError Usage → Store.Verdict
  | .ok usage => .done usage
  | .error failure => .broken failure.code failure.message

theorem Committed.verdict {i : Nat} {config : WorkerConfig} {job : Job} {answer : Answer}
    {e : Dealing} {deeds : List Note} (h : Committed i config job answer e deeds) :
    e.call.verdict = some (verdictOf (answer.within config.providerTimeout)) := by
  obtain ⟨d, -, -, hcall⟩ := h
  rw [hcall]
  cases answer.within config.providerTimeout <;> rfl

namespace Floor.Sound

variable {f : Floor} {past later : List Note} {note : Note}

/-- The store that a call found. -/
theorem lived_before (h : f.Sound) {i : Nat} {d : Dealing} (hmem : .dealt i d ∈ f.history) :
    ∃ earlier, Lived earlier d.before := by
  have hmem : d ∈ dealingsOf f.history := List.mem_filterMap.2 ⟨.dealt i d, hmem, rfl⟩
  obtain ⟨earlier, later, hsplit⟩ := List.append_of_mem hmem
  exact ⟨earlier, (hsplit ▸ h.lived).before_of_append⟩

theorem own (h : f.Sound) {i : Nat} {job : Job} {answer : Answer}
    (hpast : f.history = past ++ .handed i job answer :: later) :
    ∃ config d, Began config job d ∧ .dealt i d ∈ past ∧
      d.after.attempts.get? (job.id, job.attempt) =
        some (.opened job.id job.attempt d.moment.now) := by
  obtain ⟨config, d, hbegan, hmem⟩ := h.told past _ later hpast
  refine ⟨config, d, hbegan, hmem, ?_⟩
  obtain ⟨earlier, hlived⟩ := h.lived_before (hpast ▸ List.mem_append_left _ hmem)
  exact (hlived.effect d.moment d.call).entered job.id job.attempt hbegan.opens

theorem apart (h : f.Sound) {i j : Nat} {l m : Lane} {a b : Job}
    (hi : f.agents[i]? = some (.lane l)) (hj : f.agents[j]? = some (.lane m))
    (ha : l.job? = some a) (hb : m.job? = some b) (hid : a.id = b.id)
    (hattempt : a.attempt = b.attempt) : i = j := by
  have howed := Lane.owes_of_job hb
  rw [← hid, ← hattempt] at howed
  exact h.owes_apart hi hj (Lane.owes_of_job ha) howed

/-- The calls of the history around a lane's start and its commit. -/
theorem calls_around (h : f.history = past ++ note :: later) {i : Nat} {job : Job}
    {answer : Answer} {d e : Dealing}
    (hdeeds : deedsOf i past = [.dealt i d, .handed i job answer, .dealt i e]) :
    ∃ earlier mid rest, dealingsOf f.history = earlier ++ d :: (mid ++ e :: rest) ∧
      ∀ c ∈ mid, ∃ k, .dealt k c ∈ past := by
  have hdeeds := hdeeds ▸ deedsOf_sublist i past
  have hcalls : [d, e].Sublist (dealingsOf past) := hdeeds.filterMap Note.dealing
  obtain ⟨earlier, mid, rest, hsplit⟩ := exists_of_pair_sublist hcalls
  refine ⟨earlier, mid, rest ++ dealingsOf (note :: later), ?_, fun c hc => ?_⟩
  · rw [h, dealingsOf, List.filterMap_append]
    change dealingsOf past ++ dealingsOf (note :: later) = _
    simp [hsplit]
  · have hmem : c ∈ dealingsOf past := by simp [hsplit, hc]
    obtain ⟨other, hother, hdealing⟩ := List.mem_filterMap.1 hmem
    cases other with
    | dealt k x =>
      cases hdealing
      exact ⟨k, hother⟩
    | _ => cases hdealing

section Committed

variable {i : Nat} {config : WorkerConfig} {job : Job} {answer : Answer} {e : Dealing}

/-- A commit that was taken is in the row of the attempt that the lane started. -/
theorem row_committed (h : f.Sound) (hpast : f.history = past ++ note :: later)
    (committed : Committed i config job answer e (deedsOf i past)) (taken : e.error = none) :
    ∃ d, Began config job d ∧
      deedsOf i past = [.dealt i d, .handed i job answer, .dealt i e] ∧
      f.store.attempts.get? (job.id, job.attempt) =
        some ((verdictOf (answer.within config.providerTimeout)).close e.moment.now
          (.opened job.id job.attempt d.moment.now)) := by
  have hcommits := committed.commits
  have hverdict := committed.verdict
  obtain ⟨d, hbegan, hdeeds, -⟩ := committed
  obtain ⟨earlier, mid, rest, hsplit, -⟩ := calls_around hpast hdeeds
  have hlived := h.lived
  rw [hsplit] at hlived
  exact ⟨d, hbegan, hdeeds, hlived.row_committed hbegan.opens hcommits taken hverdict⟩

/-- An attempt whose commit was refused was taken away from the lane that started it. -/
theorem row_taken (h : f.Sound) (hpast : f.history = past ++ note :: later)
    (committed : Committed i config job answer e (deedsOf i past)) (refused : e.error ≠ none) :
    ∃ d, Began config job d ∧
      deedsOf i past = [.dealt i d, .handed i job answer, .dealt i e] ∧
      ∃ k c code reason, .dealt k c ∈ past ∧ c.Takes job.id job.attempt code reason ∧
        f.store.attempts.get? (job.id, job.attempt) =
          some ((Attempt.opened job.id job.attempt d.moment.now).fail code reason c.moment.now) ∧
        e.before.attempts.get? (job.id, job.attempt) =
          f.store.attempts.get? (job.id, job.attempt) := by
  have hcommits := committed.commits
  obtain ⟨d, hbegan, hdeeds, -⟩ := committed
  obtain ⟨earlier, mid, rest, hsplit, hmid⟩ := calls_around hpast hdeeds
  have hlived := h.lived
  have honce := h.nodup_commitsOf
  rw [hsplit] at hlived honce
  obtain ⟨c, hc, code, reason, htakes, hrow, hsame⟩ :=
    hlived.row_taken honce hbegan.opens hcommits refused
  obtain ⟨k, hk⟩ := hmid c hc
  exact ⟨d, hbegan, hdeeds, k, c, code, reason, hk, htakes, hrow, hsame⟩

end Committed

/-- What a poll returns is what was done, and the rows say so. -/
theorem accounted (h : f.Sound) {i : Nat} {config : WorkerConfig} {result : PollResult}
    (hpast : f.history = past ++ .polled i config result :: later) :
    Accounted f.store past i config result := by
  have hconcluded : Concluded i config (deedsOf i past) result := h.told past _ later hpast
  cases result with
  | error e => exact hconcluded
  | ok outcome =>
    cases outcome with
    | idle => exact hconcluded
    | leaseHeld id => exact hconcluded
    | uncommitted id => exact hconcluded
    | skipped id =>
      -- what was not handed out was not started
      obtain ⟨d, hdeeds, hcall, hnone⟩ := hconcluded
      have hmem : .dealt i d ∈ past :=
        (deedsOf_sublist i past).subset (hdeeds ▸ List.mem_singleton_self _)
      obtain ⟨earlier, hlived⟩ := h.lived_before (hpast ▸ List.mem_append_left _ hmem)
      exact ⟨d, hdeeds, hcall, hnone, d.after_of_skipped hlived.orderly hcall hnone⟩
    | succeeded id =>
      obtain ⟨job, answer, usage, e, rfl, hcommitted, taken, hanswer⟩ := hconcluded
      obtain ⟨d, hbegan, hdeeds, hrow⟩ := h.row_committed hpast hcommitted taken
      obtain ⟨-, -, -, hcall⟩ := hcommitted
      rw [hanswer] at hcall hrow
      exact ⟨job, answer, usage, d, e, rfl, hbegan, hdeeds, hanswer, hcall, taken, hrow⟩
    | failed id code =>
      obtain ⟨job, answer, failure, e, rfl, hcommitted, taken, hanswer, rfl⟩ := hconcluded
      obtain ⟨d, hbegan, hdeeds, hrow⟩ := h.row_committed hpast hcommitted taken
      obtain ⟨-, -, -, hcall⟩ := hcommitted
      rw [hanswer] at hcall hrow
      exact ⟨job, answer, failure, d, e, rfl, hbegan, hdeeds, hanswer, rfl, hcall, taken, hrow⟩
    | abandoned id =>
      obtain ⟨job, answer, e, rfl, hcommitted, herror⟩ := hconcluded
      have hrefused : e.error ≠ none := by simp [herror]
      have hsame := ((e.commit hcommitted.commits).2 hrefused).2
      obtain ⟨d, hbegan, hdeeds, hrow⟩ := h.row_taken hpast hcommitted hrefused
      exact ⟨job, answer, d, e, rfl, hbegan, hdeeds, hcommitted.commits, herror, hsame, hrow⟩

end Floor.Sound

/-- Whatever happens on an empty floor, executions correspond to attempts. -/
theorem Floor.faithful_run (now : Time) (schedule : List Action) :
    ((empty now).run schedule).Faithful := by
  have hsound := sound_run now schedule
  exact {
    once := hsound.nodup_handedOf
    own := fun _ _ _ _ _ hpast => hsound.own hpast
    apart := fun _ _ _ _ _ _ hi hj ha hb => hsound.apart hi hj ha hb
    accounted := fun _ _ _ _ _ hpast => hsound.accounted hpast }

/-- A job that is cancelled while the provider works on it is handed over once, and its poll is
abandoned. -/
example :
    let turns (i k : Nat) : List Action := List.replicate k (.act i { fresh := .numbered 0 1 })
    let id := (FreshIds.numbered 0 1).job
    let f := (Floor.empty ⟨0⟩).run
      (.ask (.create { tenant := "t1", model := "m" }) :: turns 0 2 ++ .hire {} :: turns 1 8 ++
        .ask (.cancel id) :: turns 2 2 ++ turns 1 9)
    handedOf f.history = [(id, 1)] ∧
      (f.history.any fun | .polled 1 _ (.ok (.abandoned job)) => job = id | _ => false) = true := by
  decide

end Dispatch
