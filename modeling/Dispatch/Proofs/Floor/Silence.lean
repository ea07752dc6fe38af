import Dispatch.Proofs.Floor.Moves
import Dispatch.Proofs.Floor.Vigil
import Dispatch.Proofs.Store.InUse

/-!
# How long a lane is silent

A lane that has begun to report goes on doing so until it leaves.  `LaneStage.Timely` bounds the age
of its last report in every stage: while it works on a job, by the time between two reports; in a
dequeue, by what is left of an interval when the lane enters it and by how long the lane stays in
it; and between the two, by the larger of both, which is the longest silence of the lane
(`WorkerConfig.longestSilence`).

A lane does its next thing at once unless it waits, and it waits for an entry no longer than it
asked to, and for an alarm no longer than until it goes off (`Floor.prompt`).  Then the bounds are
kept by everything that the lane does (`Does.heard_own`) and that others do (`Does.heard_other`),
and by the time that passes while it waits (`Lane.heard_wait`), so by a whole schedule
(`Floor.Hears.run`).
-/

namespace Dispatch

/-- The greatest age that the last report of a lane gets to: the time between two reports of a lane
at work, or what is left of an interval and a dequeue after it. -/
def WorkerConfig.longestSilence (c : WorkerConfig) : Span :=
  ⟨max c.heartbeatPeriod.nanos (c.heartbeatInterval.nanos - 1 + c.dequeueTimeout.nanos)⟩

/-! ## How long a lane waits -/

/-- A machine that has come to its state at an instant goes on waiting until another one. -/
def Next.waitsUntil {σ ρ : Type} (since t : Time) : Next σ ρ → Bool
  | .dequeue timeout _ => t ≤ since + timeout
  | .await alarm _ _ => t ≤ alarm.due
  | n => n.sleepsUntil t

namespace Lane

/-- The lane has made its first report and not its last. -/
def serves (l : Lane) : Bool :=
  match l.stage with
  | .greeting | .gone => false
  | _ => true

/-- The lane may let time pass: it waits, or it does not serve. -/
def mayWait (since now t : Time) (l : Lane) : Bool :=
  !l.serves || (l.next now).waitsUntil since t

end Lane

namespace Floor

/-- The lane does nothing late. -/
def grants (f : Floor) (i : Nat) (since : Time) : Action → Bool
  | .wait span => (f.lane? i).all (·.mayWait since f.now (f.now + span))
  | _ => true

/-- When the agent did something last. -/
def lastTurn (f : Floor) (i : Nat) (since : Time) : Action → Time
  | .act k _ => if k = i then f.now else since
  | _ => since

/-- Throughout the schedule the lane does its next thing at once, unless it waits. -/
def prompt (i : Nat) (since : Time) (f : Floor) : List Action → Bool
  | [] => true
  | action :: rest => f.grants i since action &&
      prompt i (f.lastTurn i since action) (f.step action) rest

end Floor

/-! ## What the store has heard -/

namespace Store

variable {s : Store} {worker : WorkerId} {beat : Time}

/-- The worker has reported at an instant or later. -/
def HeardSince (s : Store) (worker : WorkerId) (beat : Time) : Prop :=
  ∃ h seen, s.workers.get? worker = some h ∧ h.seenAt = ((seen : Time) : Timestamp) ∧ beat ≤ seen

theorem heardSince_set (s : Store) (worker : WorkerId) (m : Moment) (state : WorkerState)
    (running : Option JobId) (concurrency : Int) :
    (s.perform m (.beat worker state running concurrency)).2.HeardSince worker m.now := by
  refine ⟨⟨worker, m.now, state, running, concurrency⟩, m.now, ?_, rfl, Int.le_refl _⟩
  show (s.workers.set worker _).get? worker = _
  rw [Table.get?_set, if_pos rfl]

/-- A report stands until the worker reports again, which makes it younger. -/
theorem HeardSince.perform (h : s.HeardSince worker beat) (hs : s.Orderly) (m : Moment)
    (past : beat ≤ m.now) (c : StoreCall) : (s.perform m c).2.HeardSince worker beat := by
  by_cases hreporter : c.reporter = some worker
  · cases c with
    | beat reporter state running concurrency =>
      cases hreporter
      obtain ⟨row, seen, hrow, stamp, hle⟩ := s.heardSince_set worker m state running concurrency
      exact ⟨row, seen, hrow, stamp, Int.le_trans past hle⟩
    | _ => cases hreporter
  · obtain ⟨row, seen, hrow, stamp, hle⟩ := h
    exact ⟨row, seen, by rw [workers_perform hs m hreporter, hrow], stamp, hle⟩

end Store

/-! ## The age of the last report -/

section Silence

variable {s s' : Store} {config : WorkerConfig} {beat since now : Time}

/-- How old the last report may be in a phase of a poll. -/
def PollPhase.Timely (config : WorkerConfig) (beat since now : Time) : PollPhase → Prop
  | dequeuing =>
    since.nanos ≤ beat.nanos + (config.heartbeatInterval.nanos - 1 : Nat) ∧
      now ≤ since + config.dequeueTimeout
  | handing _ | limiting _ _ => now ≤ beat
  | scheduling _ _ due => due = beat + config.heartbeatPeriod ∧ now ≤ due
  | executing _ _ report => report.due = beat + config.heartbeatPeriod ∧ now ≤ report.due
  | rousing _ run report => report.due = beat + config.heartbeatPeriod ∧ now ≤ report.due ∧
      (run.ends.isDue now = true ∨ report.isDue now = true)
  | beating _ _ due => due = beat + config.heartbeatPeriod ∧ now = due
  -- a store and a queue in memory do not fail, so no commit is tried again and no poll ends in an
  -- error
  | pausing _ _ _ | paused _ _ _ _ => False
  | dropping _ result | finished result =>
    (∃ outcome, result = .ok outcome) ∧ now ≤ beat + config.longestSilence
  | _ => now ≤ beat + config.longestSilence

/-- How old the last report may be in a stage. -/
def LaneStage.Timely (config : WorkerConfig) (beat since now : Time) : LaneStage → Prop
  | polling phase => phase.Timely config beat since now
  | backingOff | paused _ => False
  | _ => now ≤ beat + config.longestSilence

/-- What a lane has reported last has been heard, and is not too old for where the lane is. -/
def Presence.Heard (s : Store) (config : WorkerConfig) (now : Time) (presence : Presence)
    (timely : Time → Prop) : Prop :=
  ∃ beat, presence.lastBeat = some beat ∧ beat ≤ now ∧ s.HeardSince config.worker beat ∧ timely beat

/-- The same of a poll. -/
def Poll.Heard (s : Store) (config : WorkerConfig) (since now : Time) (p : Poll) : Prop :=
  p.presence.Heard s config now fun beat => p.phase.Timely config beat since now

/-- The same of a lane, as long as it serves. -/
def Lane.Heard (s : Store) (since now : Time) (l : Lane) : Prop :=
  l.serves = true → l.presence.Heard s l.config now fun beat =>
    l.stage.Timely l.config beat since now

theorem le_longestSilence_of_period (h : now ≤ beat + config.heartbeatPeriod) :
    now ≤ beat + config.longestSilence := by
  have hperiod : now.nanos ≤ beat.nanos + config.heartbeatPeriod.nanos := h
  show now.nanos ≤ beat.nanos + (max config.heartbeatPeriod.nanos _ : Nat)
  omega

/-- The last report is never older than the longest silence. -/
theorem PollPhase.Timely.le_longestSilence {phase : PollPhase}
    (h : phase.Timely config beat since now) : now ≤ beat + config.longestSilence := by
  cases phase with
  | dequeuing =>
    obtain ⟨hentered, hstay⟩ := h
    have hstay : now.nanos ≤ since.nanos + config.dequeueTimeout.nanos := hstay
    show now.nanos ≤ beat.nanos + (max _ (_ - 1 + config.dequeueTimeout.nanos) : Nat)
    omega
  | handing job | limiting job answer => exact Int.le_trans h (Time.le_add beat _)
  | scheduling job run due | executing job run report =>
    exact le_longestSilence_of_period (h.1 ▸ h.2)
  | rousing job run report => exact le_longestSilence_of_period (h.1 ▸ h.2.1)
  | beating job run due =>
    obtain ⟨rfl, rfl⟩ := h
    exact le_longestSilence_of_period (Int.le_refl _)
  | pausing job result round => exact h.elim
  | paused job result round alarm => exact h.elim
  | dropping id result | finished result => exact h.2
  | _ => exact h

theorem LaneStage.Timely.le_longestSilence {stage : LaneStage}
    (h : stage.Timely config beat since now) : now ≤ beat + config.longestSilence := by
  cases stage with
  | polling phase => exact PollPhase.Timely.le_longestSilence h
  | backingOff => exact h.elim
  | paused alarm => exact h.elim
  | _ => exact h

namespace Presence

variable {presence : Presence} {timely timely' : Time → Prop}

/-- A lane that reports is heard, at no age at all. -/
theorem heard_beat (s : Store) (m : Moment) (presence : Presence) (config : WorkerConfig)
    (h : timely m.now) :
    (presence.noted m.now (s.perform m (presence.beat config)).1).Heard
      (s.perform m (presence.beat config)).2 config m.now timely :=
  ⟨m.now, rfl, Int.le_refl _, s.heardSince_set _ m _ _ _, h⟩

theorem Heard.perform (h : presence.Heard s config now timely) (hs : s.Orderly) (m : Moment)
    (timed : m.now = now) (c : StoreCall) :
    presence.Heard (s.perform m c).2 config now timely := by
  obtain ⟨beat, hbeat, past, heard, htimely⟩ := h
  exact ⟨beat, hbeat, past, heard.perform hs m (timed ▸ past) c, htimely⟩

/-- There is no report of an age that cannot be. -/
theorem Heard.never (h : presence.Heard s config now fun _ => False) : False := by
  obtain ⟨-, -, -, -, himpossible⟩ := h
  exact himpossible

theorem Heard.imp (h : presence.Heard s config now timely)
    (imp : ∀ beat, presence.lastBeat = some beat → timely beat → timely' beat) :
    presence.Heard s config now timely' := by
  obtain ⟨beat, hbeat, past, heard, htimely⟩ := h
  exact ⟨beat, hbeat, past, heard, imp beat hbeat htimely⟩

end Presence

/-! ## The steps of a poll -/

namespace Poll

variable {p p' : Poll}

theorem heard_silent (h : p.Heard s config since now) (step : (p.next config now).Silent now p') :
    p'.Heard s config now now := by
  obtain ⟨presence, phase⟩ := p
  have hage := h.imp fun beat _ timely => PollPhase.Timely.le_longestSilence timely
  cases phase with
  | limiting job answer =>
    cases step with
    | arm _ _ ticket =>
      -- no time has passed since the report, so the next one is due a period after it
      obtain ⟨beat, hbeat, past, heard, hnow⟩ := h
      obtain rfl : beat = now := Time.le_antisymm past hnow
      exact ⟨beat, hbeat, past, heard, rfl, Time.le_add beat _⟩
  | scheduling job run due =>
    cases step with
    | arm _ _ ticket => exact h
  | executing job run report =>
    cases step with
    | sleep _ _ rung =>
      exact h.imp fun beat _ timely => ⟨timely.1, timely.2, by simpa using rung⟩
  | rousing job run report =>
    cases step with
    | toss _ reportFirst =>
      dsimp only
      split
      · exact hage
      · -- the report is due, and it is not overdue, so it is due now
        rename_i goesOn
        apply h.imp
        intro beat _ timely
        obtain ⟨hdue, hwaits, hrung⟩ := timely
        have hring : report.isDue now = true := report_isDue hrung goesOn
        exact ⟨hdue, Time.le_antisymm hwaits (of_decide_eq_true hring)⟩
  | pausing job result round => cases h.never
  | paused job result round alarm => cases h.never
  | dequeuing =>
    cases step with
    | dequeue _ _ id =>
      cases id with
      | none => exact hage.imp fun beat _ hage => ⟨⟨_, rfl⟩, hage⟩
      | some id => exact hage
  | leasing id =>
    cases step with
    | queue _ _ v =>
      cases v with
      | false => exact hage.imp fun beat _ hage => ⟨⟨_, rfl⟩, hage⟩
      | true => exact hage
  | dropping id result =>
    cases step with
    | queue _ _ v => exact h
  | releasing id outcome =>
    cases step with
    | queue _ _ v => exact h
  | _ => cases step

theorem heard_handed (h : p.Heard s config since now) {job : Job} {pace limit : Span}
    {k : Answer → Poll} (step : p.next config now = .execute job pace limit k) (answer : Answer) :
    (k answer).Heard s config now now := by
  obtain ⟨hphase, hnext⟩ := next_eq_execute step
  obtain ⟨presence, phase⟩ := p
  obtain rfl : phase = .handing job := hphase
  rw [hnext answer]
  exact h

/-- What a lane asks of the store leaves its last report heard, and a report is a new one. -/
theorem heard_dealt {call : StoreCall} {k : call.Reply → Poll} (h : p.Heard s config since now)
    (step : p.next config now = .store call k) (hs : s.Orderly) (m : Moment) (timed : m.now = now) :
    (k (s.perform m call).1).Heard (s.perform m call).2 config now now := by
  subst timed
  obtain ⟨presence, phase⟩ := p
  have hage := h.imp fun beat _ timely => PollPhase.Timely.le_longestSilence timely
  cases phase with
  | starting id =>
    cases step
    -- a start does not fail, and it takes no time
    have hlater := hage.perform hs m rfl (.start id config.worker)
    have hreply : (s.perform m (.start id config.worker)).1 =
      .ok (s.start id config.worker m.now).1 := rfl
    rw [hreply]
    cases (s.start id config.worker m.now).1 with
    | none => exact hlater.imp fun beat _ hage => ⟨⟨_, rfl⟩, hage⟩
    | some job => exact hlater
  | announcing job =>
    cases step
    exact presence.heard_beat s m config (Int.le_refl _)
  | beating job run due =>
    cases step
    refine presence.heard_beat s m config ?_
    -- the report is made when it is due
    obtain ⟨beat, -, -, -, -, rfl⟩ := h
    exact ⟨rfl, Time.le_add _ _⟩
  | committing job result round =>
    cases step
    have hlater := hage.perform hs m rfl (commitCall config.worker job result)
    show Poll.Heard _ config _ _ ⟨presence, afterCommit config job result round
      (commitReply config.worker job result (s.perform m (commitCall config.worker job result)).1)⟩
    rcases commitReply_perform s m config.worker job result with hreply | hreply
    · rw [hreply]
      exact hlater
    · rw [hreply]
      exact hlater
  | retiring outcome =>
    cases step
    exact presence.heard_beat s m config ⟨⟨outcome, rfl⟩, Time.le_add _ _⟩
  | _ => cases step

end Poll

/-! ## The steps of a lane -/

namespace Lane

variable {l l' : Lane}

theorem heard_silent (h : l.Heard s since now) (step : (l.next now).Silent now l') :
    l'.Heard s now now := by
  obtain ⟨config, presence, seen, stage⟩ := l
  cases stage with
  | deciding =>
    have hage := h rfl
    cases step with
    | look _ stop =>
      cases stop with
      | true => exact fun _ => hage
      | false =>
        dsimp only
        split
        · exact fun _ => hage
        · rename_i hfresh
          intro _
          apply hage.imp
          intro beat hbeat _
          have hbeat : presence.lastBeat = some beat := hbeat
          -- the report is not due, so some of the interval is left
          have hyoung : ¬config.heartbeatInterval ≤ now.since beat := by
            simpa [Presence.isDue, hbeat] using hfresh
          have hyoung : (now.nanos - beat.nanos).toNat < config.heartbeatInterval.nanos :=
            Nat.lt_of_not_le hyoung
          refine ⟨?_, Time.le_add now _⟩
          show now.nanos ≤ beat.nanos + (config.heartbeatInterval.nanos - 1 : Nat)
          omega
  | polling phase =>
    have hpoll : Poll.Heard s config since now ⟨presence, phase⟩ := h rfl
    rcases Next.silent_lift step with ⟨p, hp, rfl⟩ | ⟨⟨result, last⟩, hr, hend⟩
    · exact fun _ => Poll.heard_silent hpoll hp
    · obtain rfl : phase = .finished result := Poll.next_eq_finished hr
      cases hr
      cases hend with
      | go _ =>
        obtain ⟨beat, hbeat, past, heard, ⟨outcome, rfl⟩, hage⟩ := hpoll
        exact fun _ => ⟨beat, hbeat, past, heard, hage⟩
  | backingOff => cases (h rfl).never
  | paused alarm => cases (h rfl).never
  | _ => cases step

theorem heard_handed (h : l.Heard s since now) {job : Job} {pace limit : Span} {k : Answer → Lane}
    (step : l.next now = .execute job pace limit k) (answer : Answer) :
    (k answer).Heard s now now := by
  obtain ⟨config, presence, seen, stage⟩ := l
  obtain ⟨hstage, hnext⟩ := next_eq_execute step
  obtain rfl : stage = .polling (.handing job) := hstage
  rw [hnext answer]
  exact fun _ => h rfl

theorem heard_dealt {call : StoreCall} {k : call.Reply → Lane} (h : l.Heard s since now)
    (step : l.next now = .store call k) (hs : s.Orderly) (m : Moment) (timed : m.now = now) :
    (k (s.perform m call).1).Heard (s.perform m call).2 now now := by
  obtain ⟨config, presence, seen, stage⟩ := l
  cases stage with
  | polling phase =>
    have hpoll : Poll.Heard s config since now ⟨presence, phase⟩ := h rfl
    rcases Next.lift_eq_store step with ⟨k', hk, rfl⟩ | ⟨r, -, hr⟩
    · exact fun _ => Poll.heard_dealt hpoll hk hs m timed
    · cases hr
  | greeting =>
    subst timed
    cases step
    exact fun _ => presence.heard_beat s m config (Time.le_add _ _)
  | refreshing =>
    subst timed
    cases step
    refine fun _ => presence.heard_beat s m config ⟨?_, Time.le_add _ _⟩
    omega
  | leaving =>
    cases step
    intro serves
    cases serves
  | _ => cases step

/-- While a lane waits, its last report gets no older than it may. -/
theorem heard_wait (h : l.Heard s since now) {span : Span}
    (waits : l.mayWait since now (now + span) = true) : l.Heard s since (now + span) := by
  intro serves
  have hwaits : (l.next now).waitsUntil since (now + span) = true := by
    simpa [mayWait, serves] using waits
  obtain ⟨beat, hbeat, past, heard, htimely⟩ := h serves
  refine ⟨beat, hbeat, Int.le_trans past (Time.le_add now span), heard, ?_⟩
  obtain ⟨config, presence, seen, stage⟩ := l
  cases stage with
  | polling phase =>
    cases phase with
    | dequeuing =>
      refine ⟨htimely.1, ?_⟩
      simpa [next, Poll.next, Next.lift, Next.waitsUntil] using hwaits
    | executing job run report =>
      have hdue : now + span ≤ run.ends.due ∧ now + span ≤ report.due := by
        simpa [next, Poll.next, Next.lift, Next.waitsUntil, Next.sleepsUntil] using hwaits
      exact ⟨htimely.1, hdue.2⟩
    | paused job result round alarm => exact htimely.elim
    | _ => cases hwaits
  | paused alarm => exact htimely.elim
  | greeting => cases serves
  | gone => cases serves
  | _ => cases hwaits

/-- Only a dequeue has to do with when the lane entered its stage. -/
theorem Heard.again (h : l.Heard s since now) (other : l.stage ≠ .polling .dequeuing) :
    l.Heard s now now := by
  intro serves
  obtain ⟨beat, hbeat, past, heard, htimely⟩ := h serves
  refine ⟨beat, hbeat, past, heard, ?_⟩
  obtain ⟨config, presence, seen, stage⟩ := l
  cases stage with
  | polling phase =>
    cases phase with
    | dequeuing => cases other rfl
    | _ => exact htimely
  | _ => exact htimely

end Lane

end Silence

/-! ## The steps of an agent -/

namespace Does

variable {i : Nat} {since now : Time} {s s' : Store} {a a' : Agent} {notes : List Note} {l : Lane}

theorem inUse (h : Does i now s a notes s' a') (use : s.InUse) : s'.InUse := by
  cases h with
  | dealt step m timed => exact use.perform m _
  | _ => exact use

theorem heard_own (h : Does i now s (.lane l) notes s' a') (hs : s.Orderly)
    (heard : l.Heard s since now) : ∃ l', a' = .lane l' ∧ l'.Heard s' now now := by
  cases h with
  | dealt step m timed =>
    rcases Next.lift_eq_store step with ⟨k', hk, rfl⟩ | ⟨_, -, hend⟩
    · exact ⟨_, rfl, Lane.heard_dealt heard hk hs m timed⟩
    · cases hend
  | handed step answer =>
    rcases Next.lift_eq_execute step with ⟨k', hk, rfl⟩ | ⟨_, -, hend⟩
    · exact ⟨_, rfl, Lane.heard_handed heard hk answer⟩
    · cases hend
  | silent step going | returned step ended =>
    rcases Next.silent_lift step with ⟨l', hl', rfl⟩ | ⟨_, -, hend⟩
    · exact ⟨l', rfl, Lane.heard_silent heard hl'⟩
    · cases hend

/-- Whatever another agent does, also under the name of the lane, the lane is still heard. -/
theorem heard_other (h : Does i now s a notes s' a') (hs : s.Orderly)
    (heard : l.Heard s since now) : l.Heard s' since now := by
  cases h with
  | dealt step m timed => exact fun serves => (heard serves).perform hs m timed _
  | _ => exact heard

end Does

/-! ## A whole schedule -/

namespace Floor

variable {f : Floor} {i : Nat} {since : Time}

/-- The lane that an agent is, if it is one, is heard. -/
structure Hears (i : Nat) (since : Time) (f : Floor) : Prop where
  use : f.store.InUse
  heard : ∀ l, f.lane? i = some l → l.Heard f.store since f.now

namespace Hears

theorem empty (start : Time) : (Floor.empty start).Hears i start where
  use := .empty
  heard l hl := by cases hl

/-- Whoever comes has not reported yet. -/
theorem welcome (h : f.Hears i since) {a : Agent} (new : ∀ l, a = .lane l → l.serves = false) :
    (f.welcome a).Hears i since where
  use := h.use
  heard l hl := by
    rcases agents_welcome (lane?_eq_some.1 hl) with hold | ⟨-, hnew⟩
    · exact h.heard l (lane?_eq_some.2 hold)
    · intro serves
      rw [new l hnew] at serves
      cases serves

theorem act (h : f.Hears i since) (k : Nat) (chance : Chance) :
    (f.act k chance).Hears i (if k = i then f.now else since) := by
  rcases f.act_moves k chance with ⟨hsame, hstuck⟩ | ⟨a, notes, a', ha, does, moves, agents, -⟩
  · rw [hsame]
    refine ⟨h.use, fun l hl => ?_⟩
    split
    · rename_i hki
      subst hki
      refine (h.heard l hl).again fun hstage => ?_
      -- a dequeue can always end
      obtain ⟨config, presence, seen, stage⟩ := l
      obtain rfl : stage = .polling .dequeuing := hstage
      cases hstuck _ (lane?_eq_some.1 hl)
    · exact h.heard l hl
  · refine ⟨does.inUse h.use, fun l hl => ?_⟩
    rw [now_act]
    rcases agents_set agents (lane?_eq_some.1 hl) with ⟨hl, hne⟩ | ⟨rfl, rfl⟩
    · rw [if_neg (Ne.symm hne)]
      exact does.heard_other h.use.orderly (h.heard l (lane?_eq_some.2 hl))
    · obtain ⟨l', rfl, -⟩ := Agent.lane_moves moves
      obtain ⟨_, hlane, heard⟩ := does.heard_own h.use.orderly (h.heard l' (lane?_eq_some.2 ha))
      cases hlane
      rw [if_pos rfl]
      exact heard

/-- What happens while the lane does nothing late leaves it heard. -/
theorem step (h : f.Hears i since) (action : Action) (granted : f.grants i since action = true) :
    (f.step action).Hears i (f.lastTurn i since action) := by
  cases action with
  | act k chance => exact h.act k chance
  | wait span =>
    refine ⟨h.use, fun l hl => Lane.heard_wait (h.heard l hl) ?_⟩
    have hl : f.lane? i = some l := hl
    rwa [grants, hl, Option.all_some] at granted
  | hire config => exact h.welcome fun l hl => by cases hl; rfl
  | maintain config => exact h.welcome fun l hl => by cases hl
  | reconcile config => exact h.welcome fun l hl => by cases hl
  | ask request => exact h.welcome fun l hl => by cases hl
  | signal stop => exact ⟨h.use, h.heard⟩
  | meddle queue => exact ⟨h.use, h.heard⟩

theorem run (h : f.Hears i since) {schedule : List Action}
    (prompt : f.prompt i since schedule = true) : ∃ since, (f.run schedule).Hears i since := by
  induction schedule generalizing f since with
  | nil => exact ⟨since, h⟩
  | cons action rest ih =>
    simp only [Floor.prompt, Bool.and_eq_true] at prompt
    exact ih (h.step action prompt.1) prompt.2

end Hears

end Floor

end Dispatch
