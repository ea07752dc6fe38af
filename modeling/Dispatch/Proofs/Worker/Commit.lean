import Dispatch.Proofs.Floor.Next
import Dispatch.Proofs.Stack.Ending

/-!
# How often a result is reported, and what is said about it

A poll that has a result reports it to the store, pauses while the store is out of reach, and tries
again, so many times at most.  Here the store is not the one in memory but anything that answers:
the answers are a sequence, and the calls get them in turn.

A machine's run is told by what is seen of it from outside (`Sight`), in order.  `Committing` says
for every place of a commit what has been seen by then: tries that came to nothing, a pause after
each (`InVain`), and what the place adds to that.  Which answer is the one that counts is settled by
the answers alone (`Decides`), so every run ends with the same outcome (`Poll.commit_tells`).
-/

namespace Dispatch

/-- What is seen of one step of a machine from outside. -/
inductive Sight where
  /-- A call to the store, and whether it was done. -/
  | asked (call : StoreCall) (answer : Except StoreError Unit)
  /-- An alarm was set at an instant. -/
  | armed (now : Time) (alarm : Alarm)
  /-- At an instant the first of some alarms had gone off, and the machine went on. -/
  | woke (now : Time) (alarms : List Alarm)

namespace Sight

/-- The call to the store. -/
def call? : Sight → Option StoreCall
  | asked call _ => some call
  | _ => none

/-- For how long an alarm was set. -/
def nap? : Sight → Option Span
  | armed now alarm => some (alarm.due.since now)
  | _ => none

/-- The calls to the store, oldest first. -/
def calls (log : List Sight) : List StoreCall := log.filterMap call?

/-- For how long alarms were set, oldest first. -/
def naps (log : List Sight) : List Span := log.filterMap nap?

theorem calls_append (log rest : List Sight) : calls (log ++ rest) = calls log ++ calls rest :=
  List.filterMap_append

theorem naps_append (log rest : List Sight) : naps (log ++ rest) = naps log ++ naps rest :=
  List.filterMap_append

end Sight

/-- At an instant a machine takes a step that is seen so.  The store may give any answer. -/
inductive Next.Shows {σ ρ : Type} (now : Time) : Next σ ρ → Sight → σ → Prop
  | store (call : StoreCall) (k : call.Reply → σ) (reply : call.Reply) :
      Shows now (.store call k) (.asked call (reply.map fun _ => ())) (k reply)
  | arm (due : Time) (k : Alarm → σ) (ticket : Nat) :
      Shows now (.arm due k) (.armed now ⟨due, ticket⟩) (k ⟨due, ticket⟩)
  | sleep (alarms : List Alarm) (a : σ) (rung : alarms.any (·.isDue now) = true) :
      Shows now (.sleep alarms a) (.woke now alarms) a

/-- The sight does not contradict that the calls to the store get these answers in turn. -/
def Sight.Fits (answers : Nat → Except StoreError Unit) (log : List Sight) : Sight → Prop
  | asked _ answer => answer = answers (calls log).length
  | _ => True

/-- A machine that calls the store and sets alarms has come to a state.  Its calls got these answers
in turn, and time passed before each of its steps as it would. -/
inductive Seen {σ ρ : Type} (next : Time → σ → Next σ ρ) (answers : Nat → Except StoreError Unit)
    (start : Time) (a : σ) : List Sight → Time → σ → Prop
  | start : Seen next answers start a [] start a
  | step {log : List Sight} {before now : Time} {b b' : σ} {sight : Sight}
      (seen : Seen next answers start a log before b) (later : before ≤ now)
      (shows : (next now b).Shows now sight b') (fits : sight.Fits answers log) :
      Seen next answers start a (log ++ [sight]) now b'

/-! ## Which answer counts -/

/-- The store was out of reach. -/
def IsOutage (answer : Except StoreError Unit) : Prop := ∃ detail, answer = .error (.storage detail)

/-- With so many tries the answer at this place, counted from zero, is the one that counts: the
store was out of reach in all tries before it, and not in this one, unless it is the last. -/
structure Decides (answers : Nat → Except StoreError Unit) (tries place : Nat) : Prop where
  inReach : place < tries
  before : ∀ i < place, IsOutage (answers i)
  final : place + 1 = tries ∨ ¬ IsOutage (answers place)

namespace Decides

variable {answers : Nat → Except StoreError Unit} {tries place other : Nat}

theorem unique (h : Decides answers tries place) (h' : Decides answers tries other) :
    place = other := by
  have no_earlier : ∀ {m n}, Decides answers tries m → Decides answers tries n → ¬ m < n := by
    intro m n hm hn hlt
    rcases hm.final with hlast | hreached
    · have := hn.inReach
      omega
    · exact hreached (hn.before m hlt)
  exact Nat.le_antisymm (Nat.not_lt.1 (no_earlier h' h)) (Nat.not_lt.1 (no_earlier h h'))

/-- Among one or more tries there is one that counts. -/
theorem exists_place (answers : Nat → Except StoreError Unit) (left : Nat) :
    ∃ place, Decides answers (left + 1) place := by
  induction left with
  | zero => exact ⟨0, Nat.one_pos, fun i hi => absurd hi (Nat.not_lt_zero i), .inl rfl⟩
  | succ left ih =>
    obtain ⟨place, inReach, before, final⟩ := ih
    by_cases houtage : IsOutage (answers place)
    · -- then it was the last one, and one more try follows it
      obtain rfl : place = left := by
        rcases final with hlast | hreached
        · omega
        · exact absurd houtage hreached
      refine ⟨place + 1, by omega, fun i hi => ?_, .inl rfl⟩
      rcases Nat.lt_succ_iff_lt_or_eq.1 hi with hi | rfl
      · exact before i hi
      · exact houtage
    · exact ⟨place, by omega, before, .inr houtage⟩

end Decides

namespace Poll

variable {config : WorkerConfig} {presence : Presence} {job : Job}
  {result : Except ProviderError Usage} {answers : Nat → Except StoreError Unit} {now : Time}
  {n : Nat} {log : List Sight} {p : Poll}

/-- What a poll says about a result after the answer that counts. -/
def verdict (job : Job) (result : Except ProviderError Usage) : Except StoreError Unit → PollOutcome
  | .ok _ => committed job result
  | .error (.notFound _) => .abandoned job.id
  | .error _ => .uncommitted job.id

theorem verdict_eq_committed {answer : Except StoreError Unit} :
    verdict job result answer = committed job result ↔ answer = .ok () := by
  cases result <;> rcases answer with (_ | _ | _ | _) | _ <;> simp [verdict, committed]

theorem verdict_eq_abandoned {answer : Except StoreError Unit} :
    verdict job result answer = .abandoned job.id ↔
      ∃ detail, answer = .error (.notFound detail) := by
  cases result <;> rcases answer with (_ | _ | _ | _) | _ <;> simp [verdict, committed]

theorem verdict_eq_uncommitted {answer : Except StoreError Unit} :
    verdict job result answer = .uncommitted job.id ↔
      answer ≠ .ok () ∧ ∀ detail, answer ≠ .error (.notFound detail) := by
  cases result <;> rcases answer with (_ | _ | _ | _) | _ <;> simp [verdict, committed]

/-- After a try to commit there is another one if the store was out of reach and tries are left;
else the answer was the one that counts. -/
theorem afterCommit_eq (config : WorkerConfig) (job : Job) (result : Except ProviderError Usage)
    (round : Nat) (answer : Except StoreError Unit) :
    (IsOutage answer ∧ round < config.commitTries ∧
        afterCommit config job result round answer = .pausing job result round) ∨
      ((config.commitTries ≤ round ∨ ¬ IsOutage answer) ∧
        afterCommit config job result round answer =
          .releasing job.id (verdict job result answer)) := by
  have settled : ∀ {a : Except StoreError Unit}, (∀ detail, a ≠ .error (.storage detail)) →
      ¬ IsOutage a := fun h ⟨detail, ha⟩ => h detail ha
  rcases answer with (_ | _ | _ | detail) | _
  · exact .inr ⟨.inr (settled nofun), rfl⟩
  · exact .inr ⟨.inr (settled nofun), if_neg fun h => nomatch h.2⟩
  · exact .inr ⟨.inr (settled nofun), if_neg fun h => nomatch h.2⟩
  · by_cases hround : round < config.commitTries
    · exact .inl ⟨⟨detail, rfl⟩, hround, if_pos ⟨hround, rfl⟩⟩
    · exact .inr ⟨.inl (Nat.not_lt.1 hround), if_neg fun h => hround h.1⟩
  · exact .inr ⟨.inr (settled nofun), rfl⟩

theorem commitReply_eq_map (worker : WorkerId) (reply : (commitCall worker job result).Reply) :
    commitReply worker job result reply = reply.map fun _ => () := by
  cases result <;> cases reply <;> rfl

/-- Every answer is the answer of a commit, whichever of the two it is. -/
theorem exists_commitReply (worker : WorkerId) (job : Job) (result : Except ProviderError Usage)
    (answer : Except StoreError Unit) :
    ∃ reply, commitReply worker job result reply = answer := by
  cases result <;> exact ⟨answer, rfl⟩

/-! ## What has been seen of a commit -/

/-- So many tries came to nothing, and a pause followed each of them. -/
inductive InVain (config : WorkerConfig) (job : Job) (result : Except ProviderError Usage)
    (answers : Nat → Except StoreError Unit) : Nat → List Sight → Prop
  | none : InVain config job result answers 0 []
  | again {n : Nat} {log : List Sight} (before : InVain config job result answers n log)
      (outage : IsOutage (answers n)) (now woken : Time) (ticket : Nat)
      (slept : now + config.errorBackoff ≤ woken) :
      InVain config job result answers (n + 1) (log ++
        [.asked (commitCall config.worker job result) (answers n),
          .armed now ⟨now + config.errorBackoff, ticket⟩,
          .woke woken [⟨now + config.errorBackoff, ticket⟩]])

namespace InVain

theorem outage (h : InVain config job result answers n log) : ∀ i < n, IsOutage (answers i) := by
  induction h with
  | none => exact fun i hi => absurd hi (Nat.not_lt_zero i)
  | again before outage now woken ticket slept ih =>
    intro i hi
    rcases Nat.lt_succ_iff_lt_or_eq.1 hi with hi | rfl
    · exact ih i hi
    · exact outage

theorem calls (h : InVain config job result answers n log) :
    Sight.calls log = List.replicate n (commitCall config.worker job result) := by
  induction h with
  | none => rfl
  | again before outage now woken ticket slept ih =>
    rw [Sight.calls_append, ih, List.replicate_succ']
    rfl

theorem naps (h : InVain config job result answers n log) :
    Sight.naps log = List.replicate n config.errorBackoff := by
  induction h with
  | none => rfl
  | again before outage now woken ticket slept ih =>
    rw [Sight.naps_append, ih, List.replicate_succ']
    refine congrArg _ (congrArg (fun s : Span => [s]) ?_)
    exact Time.since_add ..

end InVain

/-- Where a commit is, with what has been seen of it. -/
inductive Committing (config : WorkerConfig) (presence : Presence) (job : Job)
    (result : Except ProviderError Usage) (answers : Nat → Except StoreError Unit) :
    List Sight → Poll → Prop
  | trying {n : Nat} {log : List Sight} (vain : InVain config job result answers n log)
      (left : n < config.commitTries) :
      Committing config presence job result answers log
        ⟨presence, .committing job result (n + 1)⟩
  | pausing {n : Nat} {log : List Sight} (vain : InVain config job result answers n log)
      (outage : IsOutage (answers n)) (left : n + 1 < config.commitTries) :
      Committing config presence job result answers
        (log ++ [.asked (commitCall config.worker job result) (answers n)])
        ⟨presence, .pausing job result (n + 1)⟩
  | paused {n : Nat} {log : List Sight} (vain : InVain config job result answers n log)
      (outage : IsOutage (answers n)) (left : n + 1 < config.commitTries) (now : Time)
      (ticket : Nat) :
      Committing config presence job result answers
        (log ++ [.asked (commitCall config.worker job result) (answers n),
          .armed now ⟨now + config.errorBackoff, ticket⟩])
        ⟨presence, .paused job result (n + 1) ⟨now + config.errorBackoff, ticket⟩⟩
  | ended {n : Nat} {log : List Sight} (vain : InVain config job result answers n log)
      (decides : Decides answers config.commitTries n) :
      Committing config presence job result answers
        (log ++ [.asked (commitCall config.worker job result) (answers n)])
        ⟨presence, .releasing job.id (verdict job result (answers n))⟩

namespace Committing

theorem start : Committing config presence job result answers []
    ⟨presence, .committing job result 1⟩ :=
  .trying .none (Nat.lt_of_lt_of_le Nat.one_pos (Nat.le_max_right ..))

/-- A try gets its answer. -/
theorem answered (vain : InVain config job result answers n log) (left : n < config.commitTries) :
    Committing config presence job result answers
      (log ++ [.asked (commitCall config.worker job result) (answers n)])
      ⟨presence, afterCommit config job result (n + 1) (answers n)⟩ := by
  rcases afterCommit_eq config job result (n + 1) (answers n) with
    ⟨outage, again, hphase⟩ | ⟨final, hphase⟩
  · rw [hphase]
    exact .pausing vain outage again
  · rw [hphase]
    exact .ended vain ⟨left, vain.outage, final.imp_left fun h => by omega⟩

/-- Every step of a commit leads from one of its places to another. -/
theorem step {p' : Poll} {sight : Sight} (h : Committing config presence job result answers log p)
    (shows : (p.next config now).Shows now sight p') (fits : sight.Fits answers log) :
    Committing config presence job result answers (log ++ [sight]) p' := by
  cases h with
  | @trying n log vain left =>
    cases shows with
    | store _ _ reply =>
      have hanswer : (reply.map fun _ => ()) = answers n := by
        rw [show _ = _ from fits, vain.calls, List.length_replicate]
      rw [hanswer]
      have hreply := (commitReply_eq_map config.worker reply).trans hanswer
      dsimp only
      rw [hreply]
      exact answered vain left
  | @pausing n log vain outage left =>
    cases shows with
    | arm _ _ ticket =>
      rw [List.append_assoc]
      exact .paused vain outage left now ticket
  | @paused n log vain outage left since ticket =>
    cases shows with
    | sleep _ _ rung =>
      rw [List.append_assoc]
      refine .trying (.again vain outage since now ticket ?_) left
      simpa [Alarm.isDue] using rung
  | ended vain decides => cases shows

/-- What has been seen of a commit says where it is. -/
theorem of_seen {since : Time}
    (seen : Seen (Poll.next config) answers since ⟨presence, .committing job result 1⟩ log now p) :
    Committing config presence job result answers log p := by
  induction seen with
  | start => exact start
  | step _ _ shows fits ih => exact ih.step shows fits

end Committing

/-! ## How a commit ends -/

variable {since : Time} {a : Poll}

/-- What has been seen leads on to where the lease is given back. -/
def CanRelease (config : WorkerConfig) (answers : Nat → Except StoreError Unit) (since : Time)
    (a : Poll) (log : List Sight) (last : Presence) (id : JobId) : Prop :=
  ∃ rest now outcome, Seen (Poll.next config) answers since a (log ++ rest) now
    ⟨last, .releasing id outcome⟩

/-- A sleep that has begun comes to its end, and then the next try is made. -/
theorem seen_woke {alarm : Alarm} {round : Nat}
    (seen : Seen (Poll.next config) answers since a log now
      ⟨presence, .paused job result round alarm⟩) :
    ∃ woken, alarm.due ≤ woken ∧ Seen (Poll.next config) answers since a
      (log ++ [.woke woken [alarm]]) woken ⟨presence, .committing job result (round + 1)⟩ := by
  obtain ⟨span, hdue⟩ := alarm.exists_isDue now
  exact ⟨now + span, of_decide_eq_true hdue,
    seen.step (Time.le_add ..) (.sleep _ _ (by simp [hdue])) trivial⟩

/-- A commit that has tries left comes to its end. -/
theorem canRelease_trying (vain : InVain config job result answers n log)
    (left : n < config.commitTries)
    (seen : Seen (Poll.next config) answers since a log now
      ⟨presence, .committing job result (n + 1)⟩) :
    CanRelease config answers since a log presence job.id := by
  -- on the tries that are left
  induction hleft : config.commitTries - n using Nat.strongRecOn generalizing n log now with
  | ind _ ih =>
    obtain ⟨reply, hreply⟩ := exists_commitReply config.worker job result (answers n)
    have hanswer := (commitReply_eq_map config.worker reply).symm.trans hreply
    have hasked := seen.step (Int.le_refl _) (.store _ _ reply)
      (hanswer.trans (by rw [vain.calls, List.length_replicate]))
    rw [hanswer] at hasked
    dsimp only at hasked
    rw [hreply] at hasked
    rcases afterCommit_eq config job result (n + 1) (answers n) with
      ⟨outage, again, hphase⟩ | ⟨-, hphase⟩
    · rw [hphase] at hasked
      have harmed := hasked.step (Int.le_refl _) (.arm _ _ 0) trivial
      obtain ⟨woken, hslept, hwoke⟩ := seen_woke harmed
      rw [List.append_assoc, List.append_assoc] at hwoke
      obtain ⟨rest, now', outcome, hend⟩ :=
        ih _ (by omega) (.again vain outage now woken 0 hslept) again hwoke rfl
      exact ⟨_, now', outcome, List.append_assoc .. ▸ hend⟩
    · rw [hphase] at hasked
      exact ⟨_, now, _, hasked⟩

/-- Wherever a commit is, it comes to its end. -/
theorem Committing.canRelease (h : Committing config presence job result answers log p)
    (seen : Seen (Poll.next config) answers since a log now p) :
    CanRelease config answers since a log presence job.id := by
  cases h with
  | trying vain left => exact canRelease_trying vain left seen
  | @pausing n log vain outage left =>
    have harmed := seen.step (Int.le_refl _) (.arm _ _ 0) trivial
    obtain ⟨woken, hslept, hwoke⟩ := seen_woke harmed
    rw [List.append_assoc, List.append_assoc] at hwoke
    obtain ⟨rest, now', outcome, hend⟩ :=
      canRelease_trying (.again vain outage now woken 0 hslept) left hwoke
    exact ⟨_ :: _ :: rest, now', outcome, by simpa using hend⟩
  | @paused n log vain outage left now' ticket =>
    obtain ⟨woken, hslept, hwoke⟩ := seen_woke seen
    rw [List.append_assoc] at hwoke
    obtain ⟨rest, now', outcome, hend⟩ :=
      canRelease_trying (.again vain outage now' woken ticket hslept) left hwoke
    exact ⟨_ :: rest, now', outcome, by simpa using hend⟩
  | ended vain decides => exact ⟨[], now, _, by rwa [List.append_nil]⟩

/-- What has been seen of a commit that has come to its end by the answer at a place. -/
structure Told (config : WorkerConfig) (job : Job) (result : Except ProviderError Usage)
    (answers : Nat → Except StoreError Unit) (place : Nat) (log : List Sight) : Prop where
  calls : Sight.calls log = List.replicate (place + 1) (commitCall config.worker job result)
  naps : Sight.naps log = List.replicate place config.errorBackoff
  /-- Tries and pauses took turns, and no pause was cut short. -/
  turns : ∃ vain, InVain config job result answers place vain ∧
    log = vain ++ [.asked (commitCall config.worker job result) (answers place)]

theorem InVain.told (vain : InVain config job result answers n log) :
    Told config job result answers n
      (log ++ [.asked (commitCall config.worker job result) (answers n)]) := by
  refine ⟨?_, ?_, log, vain, rfl⟩
  · rw [Sight.calls_append, vain.calls, List.replicate_succ']
    rfl
  · rw [Sight.naps_append, vain.naps]
    exact List.append_nil _

/-- Whatever the store answers to the tries to commit a result, one answer is the one that counts,
and it alone decides what the poll says.  However the time passes, the commit comes to its end: by
then it has made the same call up to that answer, once for every answer, and has paused between the
calls.  It never makes more tries than it has, and after the last of them it does not pause. -/
theorem commit_tells (config : WorkerConfig) (presence : Presence) (job : Job)
    (result : Except ProviderError Usage) (answers : Nat → Except StoreError Unit) (since : Time) :
    ∃ place outcome, Decides answers config.commitTries place ∧
      (outcome = committed job result ↔ answers place = .ok ()) ∧
      (outcome = .abandoned job.id ↔ ∃ detail, answers place = .error (.notFound detail)) ∧
      (outcome = .uncommitted job.id ↔
        answers place ≠ .ok () ∧ ∀ detail, answers place ≠ .error (.notFound detail)) ∧
      ∀ log now p, Seen (Poll.next config) answers since ⟨presence, .committing job result 1⟩
          log now p →
        (∃ rest now', Seen (Poll.next config) answers since ⟨presence, .committing job result 1⟩
          (log ++ rest) now' ⟨presence, .releasing job.id outcome⟩) ∧
        (∀ last id said, p = ⟨last, .releasing id said⟩ →
          last = presence ∧ id = job.id ∧ said = outcome ∧
            Told config job result answers place log) ∧
        (∀ j r round, p.phase = .committing j r round →
          j = job ∧ r = result ∧ 1 ≤ round ∧ round ≤ config.commitTries) ∧
        ∀ j r round, p.phase = .pausing j r round → round < config.commitTries := by
  have htries : 0 < config.commitTries := Nat.lt_of_lt_of_le Nat.one_pos (Nat.le_max_right ..)
  obtain ⟨place, decides⟩ := Decides.exists_place answers (config.commitTries - 1)
  rw [Nat.sub_add_cancel htries] at decides
  have ends : ∀ {log p last id said}, Committing config presence job result answers log p →
      p = ⟨last, .releasing id said⟩ → last = presence ∧ id = job.id ∧
        said = verdict job result (answers place) ∧ Told config job result answers place log := by
    intro log p last id said h hp
    cases h with
    | @ended n log vain hdecides =>
      cases hp
      obtain rfl := hdecides.unique decides
      exact ⟨rfl, rfl, rfl, vain.told⟩
    | trying | pausing | paused => cases hp
  refine ⟨place, verdict job result (answers place), decides, verdict_eq_committed,
    verdict_eq_abandoned, verdict_eq_uncommitted, fun log now p seen => ?_⟩
  have stands := Committing.of_seen seen
  refine ⟨?_, fun last id said hp => ends stands hp, fun j r round hphase => ?_,
    fun j r round hphase => ?_⟩
  · obtain ⟨rest, now', said, hend⟩ := stands.canRelease seen
    obtain ⟨-, -, rfl, -⟩ := ends (.of_seen hend) rfl
    exact ⟨rest, now', hend⟩
  · cases stands with
    | @trying n log vain left =>
      cases hphase
      exact ⟨rfl, rfl, Nat.le_add_left .., left⟩
    | pausing | paused | ended => cases hphase
  · cases stands with
    | @pausing n log vain outage left =>
      cases hphase
      exact left
    | trying | paused | ended => cases hphase

/-- The store is out of reach at the first try and takes the result at the second one. -/
theorem commit_tells_secondTry :
    let config : WorkerConfig := {}
    let job : Job := .queued { tenant := "acme", model := "small" } (.numbered 0 1) ⟨0⟩
    let result : Except ProviderError Usage := .ok { tokens := 7 }
    let answers (i : Nat) : Except StoreError Unit :=
      if i = 0 then .error (.storage "down") else .ok ()
    ∃ log now, Seen (Poll.next config) answers ⟨0⟩ ⟨{}, .committing job result 1⟩ log now
        ⟨{}, .releasing job.id (.succeeded job.id)⟩ ∧
      Told config job result answers 1 log := by
  intro config job result answers
  have houtage : IsOutage (answers 0) := ⟨"down", rfl⟩
  have hreached : ¬ IsOutage (answers 1) := fun ⟨_, h⟩ => nomatch h
  obtain ⟨place, outcome, decides, hdone, -, -, runs⟩ :=
    commit_tells config {} job result answers ⟨0⟩
  obtain rfl : place = 1 := decides.unique ⟨by decide, fun i hi => by
    obtain rfl : i = 0 := by omega
    exact houtage, .inr hreached⟩
  obtain rfl : outcome = .succeeded job.id := hdone.2 rfl
  obtain ⟨⟨log, now, hend⟩, -⟩ := runs [] ⟨0⟩ _ .start
  exact ⟨log, now, hend, ((runs log now _ hend).2.1 _ _ _ rfl).2.2.2⟩

end Poll

end Dispatch
