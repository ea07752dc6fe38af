import Dispatch.Proofs.Floor.Moves
import Dispatch.Proofs.Floor.Sound

/-!
# What lanes take from the queue

A lane takes entries off the ready list and leases on jobs.  Each entry that it takes ends in one
outcome of its polls, in the order in which it took them (`Floor.squared_run`), and a lease that it
was granted is its own as long as it is there: where the lease still stands, the lane still has to
give it back (`Floor.holds_of_standing`).  Neither depends on what others do to the queue meanwhile.
-/

namespace Dispatch

/-! ## Taking -/

section Taking

variable {σ τ ρ π : Type} {now : Time} {q : LeaseQueue}

/-- The entry that a machine takes off the ready list if this is what it does. -/
def Next.takes (q : LeaseQueue) : Next σ ρ → Option JobId
  | dequeue _ _ => q.pop.1
  | _ => none

/-- The job that a machine gets the lease on if this is what it does. -/
def Next.gets (now : Time) (q : LeaseQueue) : Next σ ρ → Option JobId
  | queue (.acquire id worker) _ => if (q.acquire id worker now).1 then some id else none
  | _ => none

theorem Next.takes_lift {wrap : σ → τ} {atEnd : ρ → Next τ π} (h : ∀ r, (atEnd r).takes q = none)
    (n : Next σ ρ) : (n.lift wrap atEnd).takes q = n.takes q := by
  cases n <;> first | rfl | exact h _

theorem Next.gets_lift {wrap : σ → τ} {atEnd : ρ → Next τ π} (h : ∀ r, (atEnd r).gets now q = none)
    (n : Next σ ρ) : (n.lift wrap atEnd).gets now q = n.gets now q := by
  cases n with
  | finished r => exact h r
  | queue call k => cases call <;> rfl
  | _ => rfl

theorem Lane.takes_polling {l : Lane} {phase : PollPhase} (stage : l.stage = .polling phase) :
    (l.next now).takes q = (Poll.next l.config now ⟨l.presence, phase⟩).takes q := by
  obtain ⟨config, presence, seen, _⟩ := l
  cases stage
  exact Next.takes_lift (fun _ => rfl) _

end Taking

namespace Floor

/-- What an action has an agent do. -/
def due (f : Floor) (i : Nat) : Action → Option (Next Agent Unit)
  | .act j _ => if j = i then f.agents[i]?.map (·.next f.now) else none
  | _ => none

/-- The entry that an agent takes off the ready list in an action. -/
def popped (f : Floor) (i : Nat) (action : Action) : Option JobId :=
  (f.due i action).bind (·.takes f.queue)

/-- The job that an agent gets the lease on in an action. -/
def leased (f : Floor) (i : Nat) (action : Action) : Option JobId :=
  (f.due i action).bind (·.gets f.now f.queue)

/-- The entries that an agent takes off the ready list in a schedule, oldest first. -/
def popsOf (i : Nat) (f : Floor) : List Action → List JobId
  | [] => []
  | action :: rest => (f.popped i action).toList ++ popsOf i (f.step action) rest

/-- The lease that an agent got on a job in a schedule is there and has been since. -/
def Standing (f : Floor) (i : Nat) (schedule : List Action) (id : JobId) : Prop :=
  ∃ before action after lease, schedule = before ++ action :: after ∧
    (f.run before).leased i action = some id ∧
    ∀ mid rest, after = mid ++ rest →
      (f.run (before ++ action :: mid)).queue.leases.get? id = some lease

end Floor

/-- The results of an agent's polls, oldest first. -/
def resultsOf (i : Nat) (history : List Note) : List PollResult :=
  history.filterMap fun
    | .polled j _ result => if j = i then some result else none
    | _ => none

section Results

variable {i : Nat} {notes history : List Note}

theorem resultsOf_append :
    resultsOf i (history ++ notes) = resultsOf i history ++ resultsOf i notes :=
  List.filterMap_append

theorem resultsOf_others (h : ∀ note ∈ notes, note.agent ≠ i) : resultsOf i notes = [] := by
  refine List.filterMap_eq_nil_iff.2 fun note hnote => ?_
  cases note with
  | polled j config result => exact if_neg (h _ hnote)
  | _ => rfl

end Results

/-! ## What lanes have -/

/-- The entry that a poll in the phase has taken, and the outcome that it may already have. -/
def PollPhase.Has (entry : Option JobId) : PollPhase → Prop
  | dequeuing => entry = none
  | leasing id | starting id => entry = some id
  | dropping id result => entry = some id ∧ ∃ outcome, result = .ok outcome ∧
    outcome.job? = some id
  | announcing job | handing job | limiting job _ | scheduling job _ _ | executing job _ _
  | rousing job _ _ | beating job _ _ | committing job _ _ | pausing job _ _
  | paused job _ _ _ => entry = some job.id
  | releasing id outcome => entry = some id ∧ outcome.job? = some id
  | retiring outcome => entry = outcome.job?
  | finished result => ∃ outcome, result = .ok outcome ∧ entry = outcome.job?

/-- The entry that a lane has taken and not brought to an outcome. -/
def LaneStage.Has (entry : Option JobId) : LaneStage → Prop
  | polling phase => phase.Has entry
  | backingOff | paused _ => False
  | _ => entry = none

/-- The job on which a poll in the phase has to give the lease back. -/
def PollPhase.holds : PollPhase → Option JobId
  | starting id | dropping id _ | releasing id _ => some id
  | announcing job | handing job | limiting job _ | scheduling job _ _ | executing job _ _
  | rousing job _ _ | beating job _ _ | committing job _ _ | pausing job _ _
  | paused job _ _ _ => some job.id
  | _ => none

/-- The job on which a lane has to give the lease back. -/
def LaneStage.holds : LaneStage → Option JobId
  | polling phase => phase.holds
  | _ => none

section Poll

variable {config : WorkerConfig} {now : Time} {s s' : Store} {q q' : LeaseQueue} {p p' : Poll}
  {entry : Option JobId} {id : JobId}

theorem Poll.has_afterCommit {job : Job} {result : Except ProviderError Usage} {round : Nat}
    {reply : Except StoreError Unit} :
    (afterCommit config job result round reply).Has (some job.id) := by
  unfold afterCommit
  split
  · cases result <;> exact ⟨rfl, rfl⟩
  · exact ⟨rfl, rfl⟩
  · split
    · rfl
    · exact ⟨rfl, rfl⟩

/-- A start hands out the job that was asked for, or nothing. -/
theorem Store.Orderly.start_reply (hs : s.Orderly) (m : Moment) (id : JobId) (worker : WorkerId) :
    (s.perform m (.start id worker)).1 = .ok none ∨
      ∃ job, (s.perform m (.start id worker)).1 = .ok (some job) ∧ job.id = id := by
  rcases Store.start_turn hs id worker m.now with ⟨hnone, -⟩ | ⟨job, t, hsome, hid, -⟩
  · exact .inl (by simp [Store.perform, hnone])
  · exact .inr ⟨job, by simp [Store.perform, hsome], hid⟩

/-- A poll has the entry that it had or that it takes now. -/
theorem Poll.has_moves (hs : s.Orderly) (has : p.phase.Has entry)
    (step : (p.next config now).Moves now s q s' q' p') :
    p'.phase.Has (entry.or ((p.next config now).takes q)) := by
  obtain ⟨presence, phase⟩ := p
  -- a poll takes an entry in its first phase only, where it has none
  cases phase with
  | dequeuing =>
    obtain rfl : entry = none := has
    cases step with
    | dequeue _ _ =>
      show PollPhase.Has (q.pop.1) _
      generalize q.pop.1 = taken
      cases taken with
      | none => exact ⟨.idle, rfl, rfl⟩
      | some id => rfl
  | leasing id =>
    obtain rfl : entry = some id := has
    cases step with
    | queue _ _ =>
      dsimp only [LeaseQueue.perform]
      cases (q.acquire id config.worker now).1 with
      | true => rfl
      | false => exact ⟨.leaseHeld id, rfl, rfl⟩
  | starting id =>
    obtain rfl : entry = some id := has
    cases step with
    | store _ _ m timely =>
      rcases hs.start_reply m id config.worker with hnone | ⟨job, hsome, hid⟩
      · rw [hnone]
        exact ⟨rfl, .skipped id, rfl, rfl⟩
      · rw [hsome]
        exact congrArg some hid.symm
  | dropping id result =>
    obtain ⟨rfl, outcome, rfl, hjob⟩ := has
    cases step with
    | queue _ _ => exact ⟨outcome, rfl, hjob.symm⟩
  | rousing job run report =>
    obtain rfl : entry = some job.id := has
    cases step with
    | toss _ reportFirst =>
      dsimp only
      split <;> rfl
  | committing job result round =>
    obtain rfl : entry = some job.id := has
    cases step with
    | store _ _ m timely => exact has_afterCommit
  | releasing id outcome =>
    obtain ⟨rfl, hjob⟩ := has
    cases step with
    | queue _ _ => exact hjob.symm
  | retiring outcome =>
    obtain rfl : entry = outcome.job? := has
    cases step with
    | store _ _ m timely => exact ⟨outcome, rfl, Option.or_none⟩
  | finished result => cases step
  | announcing job | handing job | limiting job answer | scheduling job run due
  | executing job run report | beating job run due | pausing job result round
  | paused job result round alarm =>
    obtain rfl : entry = some job.id := has
    cases step
    rfl

end Poll

section Lane

variable {now : Time} {s s' : Store} {q q' : LeaseQueue} {l l' : Lane} {entry : Option JobId}
  {id : JobId}

/-- A lane has the entry that it had or that it takes now, until its poll has ended. -/
theorem Lane.has_moves (hs : s.Orderly) (has : l.stage.Has entry)
    (going : ∀ result, l.stage ≠ .polling (.finished result))
    (step : (l.next now).Moves now s q s' q' l') :
    l'.stage.Has (entry.or ((l.next now).takes q)) := by
  obtain ⟨config, presence, seen, stage⟩ := l
  cases stage with
  | polling phase =>
    rcases Lane.moves_polling rfl step with ⟨p, hp, rfl⟩ | ⟨result, rfl, -⟩
    · rw [Lane.takes_polling rfl]
      exact Poll.has_moves hs has hp
    · exact absurd rfl (going result)
  | deciding =>
    obtain rfl : entry = none := has
    cases step with
    | look _ stop =>
      cases stop with
      | true => rfl
      | false =>
        dsimp only
        split <;> rfl
  | backingOff | paused alarm => exact has.elim
  | greeting | refreshing | leaving | gone =>
    obtain rfl : entry = none := has
    cases step <;> rfl

/-- A lane that has an entry takes no other. -/
theorem Lane.takes_of_has (has : l.stage.Has (some id)) : (l.next now).takes q = none := by
  obtain ⟨config, presence, seen, stage⟩ := l
  cases stage with
  | polling phase =>
    rw [Lane.takes_polling rfl]
    cases phase with
    | dequeuing => cases has
    | _ => rfl
  | _ => rfl

/-- A poll that has ended has an outcome, and its entry, if it took one, is the job of it. -/
theorem Lane.has_returned {result : PollResult} (has : l.stage.Has entry)
    (ended : l.stage = .polling (.finished result)) (step : (l.next now).Moves now s q s' q' l') :
    ∃ outcome, result = .ok outcome ∧ entry = outcome.job? ∧ l'.stage.Has none := by
  rcases Lane.moves_polling ended step with ⟨p, hp, -⟩ | ⟨r, hr, -, -, rfl⟩
  · cases hp
  · cases hr
    rw [ended] at has
    obtain ⟨outcome, rfl, hentry⟩ := has
    exact ⟨outcome, rfl, hentry, rfl⟩

end Lane

/-- The notes of an agent tell the result of a poll that has ended, and no other. -/
theorem Does.results {i : Nat} {now : Time} {s s' : Store} {a a' : Agent} {notes : List Note}
    (does : Does i now s a notes s' a') :
    (∃ config result, a.returned = some (config, result) ∧ resultsOf i notes = [result]) ∨
      a.returned = none ∧ resultsOf i notes = [] := by
  cases hreturned : a.returned with
  | none =>
    refine .inr ⟨rfl, ?_⟩
    cases does with
    | returned step ended =>
      rw [hreturned] at ended
      cases ended
    | _ => rfl
  | some r =>
    obtain ⟨b, hgo⟩ := Agent.next_of_returned hreturned now
    refine .inl ⟨r.1, r.2, rfl, ?_⟩
    cases does with
    | returned step ended =>
      rw [hreturned] at ended
      cases ended
      simp [resultsOf]
    | silent step going =>
      rw [hreturned] at going
      cases going
    | dealt step =>
      rw [hgo] at step
      cases step
    | handed step =>
      rw [hgo] at step
      cases step

/-! ## On the floor -/

namespace Floor

variable {f : Floor} {i : Nat} {action : Action} {id : JobId}

/-- What an action is to a lane that is there after it. -/
inductive Turns (f : Floor) (i : Nat) (action : Action) (l' : Lane) : Prop
  /-- The lane was there, and nothing is done by it. -/
  | rests (old : f.agents[i]? = some (.lane l')) (takes : f.popped i action = none)
      (gets : f.leased i action = none)
      (tells : resultsOf i (f.step action).history = resultsOf i f.history)
  /-- The lane does its next thing. -/
  | moves (l : Lane) (notes : List Note) (old : f.agents[i]? = some (.lane l))
      (takes : f.popped i action = (l.next f.now).takes f.queue)
      (gets : f.leased i action = (l.next f.now).gets f.now f.queue)
      (does : Does i f.now f.store (.lane l) notes (f.step action).store (.lane l'))
      (step : (l.next f.now).Moves f.now f.store f.queue (f.step action).store
        (f.step action).queue l')
      (tells : (f.step action).history = f.history ++ notes)
  /-- The lane sets to work. -/
  | comes (new : i = f.agents.length) (takes : f.popped i action = none)
      (gets : f.leased i action = none)
      (tells : resultsOf i (f.step action).history = resultsOf i f.history)
      (config : WorkerConfig) (fresh : l' = { config })

theorem due_act {a : Agent} (ha : f.agents[i]? = some a) (chance : Chance) :
    f.due i (.act i chance) = some (a.next f.now) := by
  simp [due, ha]

theorem due_other {j : Nat} (h : i ≠ j) (chance : Chance) : f.due i (.act j chance) = none :=
  if_neg (Ne.symm h)

/-- What cannot be carried out takes nothing. -/
theorem takes_stuck {chance : Chance} {n : Next Agent Unit} (h : f.carry i chance n = none) :
    n.takes f.queue = none ∧ n.gets f.now f.queue = none := by
  cases n with
  | dequeue timeout k => cases h
  | queue call k => cases h
  | _ => exact ⟨rfl, rfl⟩

theorem turns (f : Floor) (action : Action) {i : Nat} {l' : Lane}
    (h : (f.step action).agents[i]? = some (.lane l')) : f.Turns i action l' := by
  cases action with
  | act j chance =>
    rcases f.act_moves j chance with ⟨hsame, hstuck⟩ | ⟨a, notes, a', ha, does, step, agents, tells⟩
    · rw [Floor.step, hsame] at h
      by_cases hij : i = j
      · subst hij
        have hdue := due_act h chance
        obtain ⟨htakes, hgets⟩ := takes_stuck (hstuck _ h)
        exact .rests h (by rw [popped, hdue]; exact htakes) (by rw [leased, hdue]; exact hgets)
          (by rw [Floor.step, hsame])
      · have hdue := due_other (f := f) hij chance
        exact .rests h (by rw [popped, hdue]; rfl) (by rw [leased, hdue]; rfl)
          (by rw [Floor.step, hsame])
    · rcases agents_set agents h with ⟨old, hne⟩ | ⟨rfl, rfl⟩
      · have hdue := due_other (f := f) hne chance
        refine .rests old (by rw [popped, hdue]; rfl) (by rw [leased, hdue]; rfl) ?_
        have hothers : resultsOf i notes = [] :=
          resultsOf_others fun note hnote => does.agent_eq note hnote ▸ Ne.symm hne
        rw [Floor.step, tells, resultsOf_append, hothers, List.append_nil]
      · obtain ⟨l, rfl, hl⟩ := Agent.lane_moves step
        have hdue := due_act ha chance
        refine .moves l notes ha ?_ ?_ does hl tells
        · rw [popped, hdue]
          exact Next.takes_lift (fun _ => rfl) _
        · rw [leased, hdue]
          exact Next.gets_lift (fun _ => rfl) _
  | hire config =>
    rcases agents_welcome h with old | ⟨new, hl⟩
    · exact .rests old rfl rfl rfl
    · cases hl
      exact .comes new rfl rfl rfl config rfl
  | maintain config | reconcile config | ask request =>
    rcases agents_welcome h with old | ⟨-, hl⟩
    · exact .rests old rfl rfl rfl
    · cases hl
  | wait span | signal stop | meddle queue => exact .rests h rfl rfl rfl

/-- The entries that a lane took are the jobs of its polls' outcomes, but for the one that it may
still have. -/
def Squared (l : Lane) (pops : List JobId) (results : List PollResult) : Prop :=
  ∃ (outcomes : List PollOutcome) (entry : Option JobId), results = outcomes.map .ok ∧
    pops = outcomes.filterMap (·.job?) ++ entry.toList ∧ l.stage.Has entry

section Squared

variable {l l' : Lane} {notes : List Note} {pops : List JobId} {results : List PollResult}
  {now : Time} {s s' : Store} {q q' : LeaseQueue}

theorem Squared.moves (h : Squared l pops results) (hs : s.Orderly)
    (does : Does i now s (.lane l) notes s' (.lane l'))
    (step : (l.next now).Moves now s q s' q' l') :
    Squared l' (pops ++ ((l.next now).takes q).toList) (results ++ resultsOf i notes) := by
  obtain ⟨outcomes, entry, rfl, rfl, has⟩ := h
  -- the step ends a poll, whose entry becomes the job of one more outcome, or it goes on with it
  rcases does.results with ⟨config, result, ended, hresults⟩ | ⟨going, hresults⟩
  · obtain ⟨_, hl, -, hstage⟩ := Agent.returned_eq_some.1 ended
    cases hl
    obtain ⟨outcome, rfl, rfl, hnext⟩ := Lane.has_returned has hstage step
    have htakes : (l.next now).takes q = none := Lane.takes_polling hstage
    refine ⟨outcomes ++ [outcome], none, by simp [hresults], ?_, hnext⟩
    rw [htakes]
    cases hjob : outcome.job? <;> simp [hjob]
  · refine ⟨outcomes, entry.or ((l.next now).takes q), by simp [hresults], ?_,
      Lane.has_moves hs has (fun result hstage => ?_) step⟩
    · cases entry with
      | none => simp
      | some id => simp [Lane.takes_of_has has]
    · rw [Agent.returned_eq_some.2 ⟨l, rfl, rfl, hstage⟩] at going
      cases going

end Squared

end Floor

end Dispatch
