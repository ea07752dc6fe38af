import Dispatch.Proofs.Floor.Silence
import Dispatch.Proofs.Http.Answer
import Dispatch.Proofs.Http.Liveness

/-!
# Which lanes are shown as live

On a schedule on which a lane does nothing late, the store always has a report of the lane that is
no older than the lane's longest silence (`Floor.Hears.run`), whatever the others on the floor do.
So the lane is shown as live as long as its silence is shorter than the grace
(`Floor.Hears.showsLive`).

The longest silence does occur: a lane can come to any age at which its report is not due yet by
taking entries of jobs that do not exist, and then wait in vain for an entry
(`Floor.exists_silence`).  Settings relate the grace to the interval between reports and to nothing
else, so there are settings that are accepted under which a lane that waits is not shown as live
(`Settings.keepsShown_iff`).
-/

namespace Dispatch

theorem Time.add_add (t : Time) (a b : Span) : t + a + b = t + (⟨a.nanos + b.nanos⟩ : Span) :=
  congrArg Time.mk (Int.add_assoc t.nanos a.nanos b.nanos)

namespace Floor

variable {f : Floor} {i : Nat} {since : Time}

/-! ## Views -/

/-- The worker has a view, and every view of it is live. -/
def ShowsLive (f : Floor) (staleAfter : Span) (worker : WorkerId) : Prop :=
  (∃ v ∈ Http.workerViews staleAfter f.now f.store.listWorkers, v.heartbeat.worker = worker) ∧
    ∀ v ∈ Http.workerViews staleAfter f.now f.store.listWorkers, v.heartbeat.worker = worker →
      v.live = true

/-- What a worker is shown as is about its row. -/
theorem showsLive_iff (use : f.store.InUse) {staleAfter : Span} {worker : WorkerId} :
    f.ShowsLive staleAfter worker ↔
      ∃ h, f.store.workers.get? worker = some h ∧
        h.isLive f.now (Http.graceOf staleAfter) = true := by
  constructor
  · rintro ⟨⟨v, hv, rfl⟩, hall⟩
    obtain ⟨hmem, hflag⟩ := Http.mem_workerViews.1 hv
    obtain ⟨worker, hrow⟩ := Store.mem_listWorkers.1 hmem
    rw [use.reported worker _ hrow] at hall ⊢
    exact ⟨v.heartbeat, hrow, hflag ▸ hall v hv (use.reported worker _ hrow)⟩
  · rintro ⟨h, hrow, hlive⟩
    constructor
    · refine ⟨⟨h, true⟩, ?_, use.reported worker h hrow⟩
      exact Http.mem_workerViews.2 ⟨Store.mem_listWorkers.2 ⟨worker, hrow⟩, hlive.symm⟩
    · intro v hv hworker
      obtain ⟨hmem, hflag⟩ := Http.mem_workerViews.1 hv
      obtain ⟨name, hrow'⟩ := Store.mem_listWorkers.1 hmem
      obtain rfl : name = worker := (use.reported name _ hrow').symm.trans hworker
      rw [hflag, Option.some.inj (hrow'.symm.trans hrow), hlive]

/-- A lane that serves is shown as live if it is never silent for as long as the grace. -/
theorem Hears.showsLive (h : f.Hears i since) {l : Lane} (hl : f.lane? i = some l)
    (serves : l.serves = true) {staleAfter : Span}
    (short : l.config.longestSilence.nanos < Http.graceOf staleAfter) :
    f.ShowsLive staleAfter l.config.worker := by
  obtain ⟨beat, -, -, ⟨row, seen, hrow, stamp, hle⟩, htimely⟩ := h.heard l hl serves
  apply (showsLive_iff h.use).2
  refine ⟨row, hrow, (Heartbeat.isLive_iff stamp).2 ?_⟩
  have hage : f.now.nanos ≤ beat.nanos + l.config.longestSilence.nanos := htimely.le_longestSilence
  have hle : beat.nanos ≤ seen.nanos := hle
  omega

/-! ## As silent as can be -/

/-- When the agent did something last in a schedule. -/
def turnAfter (i : Nat) (since : Time) (f : Floor) : List Action → Time
  | [] => since
  | action :: rest => turnAfter i (f.lastTurn i since action) (f.step action) rest

theorem prompt_append (i : Nat) (since : Time) (f : Floor) (schedule rest : List Action) :
    f.prompt i since (schedule ++ rest) = (f.prompt i since schedule &&
      (f.run schedule).prompt i (f.turnAfter i since schedule) rest) := by
  induction schedule generalizing since f with
  | nil => rfl
  | cons action schedule ih =>
    rw [List.cons_append, prompt, ih, ← Bool.and_assoc]
    rfl

theorem turnAfter_append (i : Nat) (since : Time) (f : Floor) (schedule rest : List Action) :
    f.turnAfter i since (schedule ++ rest) =
      (f.run schedule).turnAfter i (f.turnAfter i since schedule) rest := by
  induction schedule generalizing since f with
  | nil => rfl
  | cons action schedule ih => exact ih _ _

/-- A lane that reported at an instant and waits for an entry. -/
def idleLane (config : WorkerConfig) (beat : Time) : Lane where
  config := config
  presence := { lastBeat := some beat }
  stage := .polling .dequeuing

/-- One lane is alone on the floor; its report was made at an instant.  There are no jobs. -/
structure Alone (l : Lane) (beat : Time) (f : Floor) : Prop where
  alone : f.agents = [.lane l]
  jobless : f.store.jobs = .empty
  reported : ∃ h, f.store.workers.get? l.config.worker = some h ∧ h.seenAt = (beat : Timestamp)
  goesOn : f.stop = false

theorem Alone.lane? {l : Lane} {beat : Time} (h : f.Alone l beat) : f.lane? 0 = some l := by
  rw [lane?_eq_some, h.alone]
  rfl

/-- A lane that is alone and shown as live reported less than the grace ago. -/
theorem Alone.age_lt {l : Lane} {beat : Time} (h : f.Alone l beat) (use : f.store.InUse)
    {staleAfter : Span} (shown : f.ShowsLive staleAfter l.config.worker) :
    f.now.nanos - beat.nanos < Http.graceOf staleAfter := by
  obtain ⟨row, hrow, hlive⟩ := (showsLive_iff use).1 shown
  -- the row is the one of the only report
  obtain ⟨row', hrow', stamp⟩ := h.reported
  obtain rfl : row' = row := Option.some.inj (hrow'.symm.trans hrow)
  exact (Heartbeat.isLive_iff stamp).1 hlive

/-- The first agent does its next things. -/
def ownTurns (n : Nat) : List Action := List.replicate n (.act 0 { fresh := .numbered 0 0 })

/-- After a time there is an entry of a job that does not exist, and the lane takes it and sees that
there is nothing to do. -/
def fruitless (span : Span) : List Action :=
  .wait span :: .meddle { ready := [(FreshIds.numbered 0 0).job] } :: ownTurns 6

variable {config : WorkerConfig} {beat : Time}

/-- A lane that takes an entry in vain before its report is due waits for the next entry after
that. -/
theorem Alone.fruitless (h : f.Alone (idleLane config beat) beat) {span : Span}
    (stays : span ≤ config.dequeueTimeout)
    (early : (f.now + span).since beat < config.heartbeatInterval) :
    f.prompt 0 f.now (Floor.fruitless span) = true ∧
      (f.run (Floor.fruitless span)).Alone (idleLane config beat) beat ∧
      f.turnAfter 0 f.now (Floor.fruitless span) = f.now + span ∧
      (f.run (Floor.fruitless span)).now = f.now + span := by
  obtain ⟨now, store, queue, alarms, stop, news, agents, history⟩ := f
  obtain ⟨jobs, keys, attempts, events, workers⟩ := store
  obtain ⟨halone, hjobless, hreported, hgoes⟩ := h
  obtain rfl : agents = _ := halone
  obtain rfl : jobs = .empty := hjobless
  obtain rfl : stop = false := hgoes
  have hstays : now + span ≤ now + config.dequeueTimeout := by
    have hstays : span.nanos ≤ config.dequeueTimeout.nanos := stays
    show now.nanos + span.nanos ≤ now.nanos + config.dequeueTimeout.nanos
    omega
  have hearly : ¬config.heartbeatInterval ≤ (now + span).since beat := Nat.not_le_of_lt early
  -- the lane takes the entry, leases the job, does not find it, gives the lease back, ends the poll
  -- and looks whether it is to stop
  have hrun : Floor.run ⟨now, ⟨.empty, keys, attempts, events, workers⟩, queue, alarms, false, news,
      [.lane (idleLane config beat)], history⟩ (Floor.fruitless span) =
      ⟨now + span, ⟨.empty, keys, attempts, events, workers⟩, _, alarms, false, news,
        [.lane (if decide (config.heartbeatInterval ≤ (now + span).since beat) = true then
          { idleLane config beat with stage := .refreshing } else idleLane config beat)], _⟩ := rfl
  rw [hrun, decide_eq_false hearly]
  refine ⟨?_, ⟨rfl, rfl, hreported, rfl⟩, rfl, rfl⟩
  show (decide (now + span ≤ now + config.dequeueTimeout) && _) = true
  rw [decide_eq_true hstays]
  rfl

/-- The row of a lane that reports. -/
theorem reported_set (workers : Table WorkerId Heartbeat) (row : Heartbeat) : ∃ h,
    (workers.set row.worker row).get? row.worker = some h ∧ h.seenAt = row.seenAt := by
  rw [Table.get?_set, if_pos rfl]
  exact ⟨row, rfl, rfl⟩

/-- A lane whose report is due reports and waits for an entry. -/
theorem Alone.refresh (h : f.Alone { idleLane config beat with stage := .refreshing } beat) :
    (f.run (ownTurns 1)).Alone (idleLane config f.now) f.now ∧
      (f.run (ownTurns 1)).now = f.now := by
  obtain ⟨now, store, queue, alarms, stop, news, agents, history⟩ := f
  obtain ⟨jobs, keys, attempts, events, workers⟩ := store
  obtain ⟨halone, hjobless, -, hgoes⟩ := h
  obtain rfl : agents = _ := halone
  obtain rfl : jobs = .empty := hjobless
  obtain rfl : stop = false := hgoes
  exact ⟨⟨rfl, rfl, reported_set workers ⟨config.worker, now, .idle, none, config.concurrency⟩,
    rfl⟩, rfl⟩

/-- A lane that is hired reports and looks whether it is to stop; without an interval it reports
once more. -/
theorem exists_alone (config : WorkerConfig) (start : Time) : ∃ n,
    (empty start).prompt 0 start (.hire config :: ownTurns n) = true ∧
      ((empty start).run (.hire config :: ownTurns n)).Alone (idleLane config start) start ∧
      (empty start).turnAfter 0 start (.hire config :: ownTurns n) = start ∧
      ((empty start).run (.hire config :: ownTurns n)).now = start := by
  have hreported := reported_set .empty ⟨config.worker, start, .idle, none, config.concurrency⟩
  by_cases hdue : config.heartbeatInterval ≤ start.since start
  · have hrefreshing : ((empty start).run (.hire config :: ownTurns 2)).Alone
        { idleLane config start with stage := .refreshing } start := by
      refine ⟨?_, rfl, hreported, rfl⟩
      show [Agent.lane (if decide (config.heartbeatInterval ≤ start.since start) = true then _
        else idleLane config start)] = _
      rw [decide_eq_true hdue]
      rfl
    obtain ⟨halone, hnow⟩ := hrefreshing.refresh
    exact ⟨3, rfl, halone, rfl, hnow⟩
  · refine ⟨2, rfl, ⟨?_, rfl, hreported, rfl⟩, rfl, rfl⟩
    show [Agent.lane (if decide (config.heartbeatInterval ≤ start.since start) = true then _
      else idleLane config start)] = _
    rw [decide_eq_false hdue]
    rfl

/-- A schedule on which nothing is late and after which a lane that reported some time ago waits for
an entry. -/
structure Reaches (config : WorkerConfig) (start : Time) (age : ℕ) (schedule : List Action) :
    Prop where
  prompt : (empty start).prompt 0 start schedule = true
  alone : ((empty start).run schedule).Alone (idleLane config start) start
  entered : (empty start).turnAfter 0 start schedule = start + (⟨age⟩ : Span)
  now : ((empty start).run schedule).now = start + (⟨age⟩ : Span)

theorem Reaches.fruitless {start : Time} {age : ℕ} {schedule : List Action}
    (h : Reaches config start age schedule) {span : Span} (stays : span ≤ config.dequeueTimeout)
    (early : age + span.nanos < config.heartbeatInterval.nanos) :
    Reaches config start (age + span.nanos) (schedule ++ Floor.fruitless span) := by
  have hlater : start + (⟨age⟩ : Span) + span = start + (⟨age + span.nanos⟩ : Span) :=
    Time.add_add start ⟨age⟩ span
  have hearly : (((empty start).run schedule).now + span).since start <
      config.heartbeatInterval := by
    rw [h.now, hlater, Time.since_add]
    exact early
  obtain ⟨hprompt, halone, hturn, hnow⟩ := h.alone.fruitless stays hearly
  rw [h.now] at hprompt hturn hnow
  refine ⟨?_, ?_, ?_, ?_⟩
  · rw [prompt_append, h.prompt, h.entered]
    exact hprompt
  · rw [run_append]
    exact halone
  · rw [turnAfter_append, h.entered, hturn, hlater]
  · rw [run_append, hnow, hlater]

/-- Every age at which a report is not due can be that of a lane that begins to wait. -/
theorem exists_reaches (start : Time) (positive : 0 < config.dequeueTimeout.nanos) (age : ℕ)
    (early : age ≤ config.heartbeatInterval.nanos - 1) :
    ∃ schedule, Reaches config start age schedule := by
  induction age using Nat.strong_induction_on with
  | h age ih =>
    rcases Nat.eq_zero_or_pos age with rfl | hage
    · obtain ⟨n, hprompt, halone, hturn, hnow⟩ := exists_alone config start
      have hzero : start + (⟨0⟩ : Span) = start := congrArg Time.mk (Int.add_zero _)
      exact ⟨_, hprompt, halone, hturn.trans hzero.symm, hnow.trans hzero.symm⟩
    · -- the last wait is as long as it may be, or as the age
      obtain ⟨schedule, hreaches⟩ := ih (age - min age config.dequeueTimeout.nanos) (by omega)
        (by omega)
      have hstays : (⟨min age config.dequeueTimeout.nanos⟩ : Span) ≤ config.dequeueTimeout :=
        Nat.min_le_right _ _
      have hlast := hreaches.fruitless hstays (by show _ + min _ _ < _; omega)
      rw [Nat.sub_add_cancel (Nat.min_le_left _ _)] at hlast
      exact ⟨_, hlast⟩

/-- A lane can be silent for what is left of an interval and a dequeue after it, while it serves. -/
theorem exists_silence (start : Time) (positive : 0 < config.dequeueTimeout.nanos) :
    ∃ schedule, (empty start).prompt 0 start schedule = true ∧
      ((empty start).run schedule).Alone (idleLane config start) start ∧
      ((empty start).run schedule).now =
        start + (⟨config.heartbeatInterval.nanos - 1 + config.dequeueTimeout.nanos⟩ : Span) := by
  obtain ⟨schedule, h⟩ := exists_reaches start positive _ (Nat.le_refl _)
  refine ⟨schedule ++ [.wait config.dequeueTimeout], ?_, ?_, ?_⟩
  · rw [prompt_append, h.prompt, h.entered]
    have hwait : (idleLane config start).mayWait
        (start + (⟨config.heartbeatInterval.nanos - 1⟩ : Span)) ((empty start).run schedule).now
        (((empty start).run schedule).now + config.dequeueTimeout) = true := by
      rw [h.now]
      exact decide_eq_true (Int.le_refl _)
    simp only [prompt, grants, h.alone.lane?, Option.all_some, hwait, Bool.and_true]
  · rw [run_append]
    exact ⟨h.alone.alone, h.alone.jobless, h.alone.reported, h.alone.goesOn⟩
  · rw [run_append]
    show ((empty start).run schedule).now + config.dequeueTimeout = _
    rw [h.now, Time.add_add]

end Floor

/-! ## The lanes of a process -/

namespace Settings

variable {lookup : Lookup} {settings : Settings}

/-- Under settings that are accepted a dequeue takes at least as long as the shortest time between
two reports, so a lane is silent longest in a dequeue. -/
theorem longestSilence_eq (h : load lookup = .ok settings) :
    settings.workerConfig.longestSilence.nanos =
      settings.heartbeatInterval.nanos - 1 + settings.dequeueTimeout.nanos := by
  have hdequeue : 1000000 ≤ settings.dequeueTimeout.nanos := milli_le_dequeueTimeout h
  show max (max settings.heartbeatInterval.nanos 1000000)
    (settings.heartbeatInterval.nanos - 1 + settings.dequeueTimeout.nanos) = _
  omega

/-- Whatever happens on a floor on which one of the lanes that settings provide for does nothing
late, the lane is shown as live from its first report until its last. -/
def KeepsShown (settings : Settings) : Prop :=
  ∀ (start : Time) (schedule : List Action) (i : ℕ) (l : Lane),
    (Floor.empty start).prompt i start schedule = true →
    ((Floor.empty start).run schedule).lane? i = some l → l.serves = true →
    l.config ∈ (Lane.spawn settings.workerConfig settings.concurrency).map (·.config) →
      ((Floor.empty start).run schedule).ShowsLive settings.staleAfter l.config.worker

/-- The lanes of a process have its settings, but for their names. -/
theorem forLane_of_mem_spawn {config c : WorkerConfig} {lanes : ℕ}
    (h : c ∈ (Lane.spawn config lanes).map (·.config)) : ∃ k n, c = config.forLane k n := by
  obtain ⟨lane, hlane, rfl⟩ := List.mem_map.1 h
  obtain ⟨k, -, rfl⟩ := List.mem_map.1 hlane
  exact ⟨k, _, rfl⟩

/-- A process has a lane. -/
theorem exists_mem_spawn (config : WorkerConfig) (lanes : ℕ) :
    ∃ c, c ∈ (Lane.spawn config lanes).map (·.config) := by
  refine List.exists_mem_of_length_pos ?_
  simp [Lane.spawn]

/-- Under settings that are accepted lanes are always shown as live just if the grace is longer
than what is left of an interval together with a dequeue; and what is shown is what a request for
the workers is answered with. -/
theorem keepsShown_iff (h : load lookup = .ok settings) :
    (settings.KeepsShown ↔
      ((settings.heartbeatInterval.nanos - 1 + settings.dequeueTimeout.nanos : ℕ) : Int) <
        Http.graceOf settings.staleAfter) ∧
    ∀ (f : Floor) (u : Http.Surroundings) (m : Moment) (r : Http.Request),
      r.Asks "GET" "/v1/workers".toList → u.now = f.now → u.staleAfter = settings.staleAfter →
        ((Http.App.serve u r).run (.memory m) (f.store, f.queue)).1 =
          Http.App.sent u r (Http.App.listed "workers" Http.WorkerView.toJson
            (Http.workerViews settings.staleAfter f.now f.store.listWorkers)) := by
  refine ⟨⟨?_, ?_⟩, ?_⟩
  · intro hshown
    -- a lane that is alone on the floor is as silent as can be
    obtain ⟨c, hc⟩ := exists_mem_spawn settings.workerConfig settings.concurrency
    obtain ⟨k, n, hforLane⟩ := forLane_of_mem_spawn hc
    have hinterval : c.heartbeatInterval = settings.heartbeatInterval := by
      rw [hforLane]
      rfl
    have hdequeue : c.dequeueTimeout = settings.dequeueTimeout := by
      rw [hforLane]
      rfl
    have hpositive : 0 < c.dequeueTimeout.nanos := by
      rw [hdequeue]
      exact Nat.lt_of_lt_of_le (by decide : 0 < 1000000) (milli_le_dequeueTimeout h)
    obtain ⟨schedule, hprompt, halone, hnow⟩ := Floor.exists_silence ⟨0⟩ hpositive
    obtain ⟨since, hears⟩ := (Floor.Hears.empty ⟨0⟩).run hprompt
    have hshown := hshown ⟨0⟩ schedule 0 _ hprompt halone.lane? rfl hc
    have hage := halone.age_lt hears.use hshown
    rw [hnow, hinterval, hdequeue] at hage
    have hage : (0 : Int) + ((settings.heartbeatInterval.nanos - 1 +
      settings.dequeueTimeout.nanos : ℕ) : Int) - 0 < Http.graceOf settings.staleAfter := hage
    omega
  · intro hshort start schedule i l prompt hl serves hconfig
    obtain ⟨k, n, hforLane⟩ := forLane_of_mem_spawn hconfig
    obtain ⟨since, hears⟩ := (Floor.Hears.empty start).run prompt
    apply hears.showsLive hl serves
    rw [hforLane]
    show (settings.workerConfig.longestSilence.nanos : Int) < _
    rwa [longestSilence_eq h]
  · intro f u m r asks hnow hstale
    rw [← hnow, ← hstale]
    exact Http.App.serve_workers asks u m f.store f.queue

/-- Lanes that report every two and a half seconds and wait for a second and a half at most are
always shown with a grace of twenty seconds. -/
theorem keepsShown_threeLanes :
    ∃ settings, load threeLanes = .ok settings ∧ settings.concurrency = 3 ∧
      settings.KeepsShown :=
  ⟨_, load_threeLanes, rfl, (keepsShown_iff load_threeLanes).1.2 (by decide)⟩

/-- A dequeue may take two minutes although the grace is one: ninety seconds into the first dequeue
the lane is not shown as live. -/
theorem not_keepsShown_long_dequeue :
    let lookup : Lookup := fun name => if name = "DEQUEUE_TIMEOUT" then some "120s" else none
    ∃ settings c, load lookup = .ok settings ∧
      c ∈ (Lane.spawn settings.workerConfig settings.concurrency).map (·.config) ∧
      let schedule := .hire c :: Floor.ownTurns 2 ++ [.wait (.ofSeconds 90)]
      let f := (Floor.empty ⟨0⟩).run schedule
      (Floor.empty ⟨0⟩).prompt 0 ⟨0⟩ schedule = true ∧
      (∃ l, f.lane? 0 = some l ∧ l.serves = true ∧ l.config = c) ∧
      ¬f.ShowsLive settings.staleAfter c.worker := by
  intro lookup
  refine ⟨_, _, rfl, List.mem_singleton_self _, ?_⟩
  intro schedule f
  have hprompt : (Floor.empty ⟨0⟩).prompt 0 ⟨0⟩ schedule = true := by decide +kernel
  refine ⟨hprompt, ⟨_, rfl, rfl, rfl⟩, fun hshown => ?_⟩
  obtain ⟨since, hears⟩ := (Floor.Hears.empty ⟨0⟩).run hprompt
  obtain ⟨row, hrow, hlive⟩ := (Floor.showsLive_iff hears.use).1 hshown
  cases hrow
  revert hlive
  decide +kernel

end Settings

end Dispatch
