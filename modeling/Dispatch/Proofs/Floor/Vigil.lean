import Dispatch.Proofs.Floor.Watch
import Dispatch.Proofs.Settings.Load

/-!
# A lane at work keeps its job

A lane that is at work loses no job to the reconciler (`Floor.safe_run`).  That needs that nothing
else takes time while the lane has something to do, that no alarm of the lane goes unheard, and
that nobody else reports under its name; `Floor.undisturbed` says that of a schedule.  Everything
else may happen at every instant, before the lane's report of that instant or after it.
-/

namespace Dispatch

/-! ## What is asked of a schedule -/

namespace Floor

/-- The lane that an agent is. -/
def lane? (f : Floor) (i : Nat) : Option Lane :=
  match f.agents[i]? with
  | some (.lane l) => some l
  | _ => none

theorem lane?_eq_some {f : Floor} {i : Nat} {l : Lane} :
    f.lane? i = some l ↔ f.agents[i]? = some (.lane l) := by
  unfold lane?
  constructor
  · intro h
    split at h
    · rename_i l' hl'
      cases h
      exact hl'
    · cases h
  · intro h
    rw [h]

/-- The action does not disturb a lane at work: no time passes unless the lane sleeps on, and no
other agent reports under the lane's name. -/
def spares (f : Floor) (i : Nat) (l : Lane) : Action → Bool
  | .wait span => (l.next f.now).sleepsUntil (f.now + span)
  | .act k _ =>
    match f.agents[k]? with
    | some a => k = i || (a.next f.now).reporter ≠ some l.config.worker
    | none => true
  | _ => true

/-- Nothing on the schedule disturbs a lane while it is at work. -/
def undisturbed (i : Nat) (f : Floor) : List Action → Bool
  | [] => true
  | action :: rest =>
    ((f.lane? i).all fun l => l.job?.isNone || f.spares i l action) &&
      undisturbed i (f.step action) rest

/-! ## The steps of the floor -/

/-- An agent is a lane, and the job it works on is safe. -/
structure Watches (i : Nat) (f : Floor) : Prop where
  orderly : f.store.Orderly
  since : Time.earliest < f.now
  watched : ∃ l, f.agents[i]? = some (.lane l) ∧ l.Watched f.store f.now

namespace Watches

variable {i : Nat} {f : Floor}

theorem lane (h : f.Watches i) {l : Lane} (hl : f.agents[i]? = some (.lane l)) :
    l.Watched f.store f.now := by
  obtain ⟨l', hl', hwatched⟩ := h.watched
  rw [hl] at hl'
  cases hl'
  exact hwatched

/-- Whoever comes, the lane is still there. -/
theorem welcome (h : f.Watches i) (a : Agent) : (f.welcome a).Watches i where
  orderly := h.orderly
  since := h.since
  watched := by
    obtain ⟨l, hl, hwatched⟩ := h.watched
    have hi : i < f.agents.length := (List.getElem?_eq_some_iff.1 hl).1
    refine ⟨l, ?_, hwatched⟩
    show (f.agents ++ [a])[i]? = some (.lane l)
    rw [List.getElem?_append_left hi]
    exact hl

/-- Whatever an agent does, the job is safe, unless the agent takes the lane's name. -/
theorem act (h : f.Watches i) {l : Lane} (hl : f.agents[i]? = some (.lane l)) (k : Nat)
    (chance : Chance) (spared : l.job? = none ∨ f.spares i l (.act k chance) = true) :
    (f.act k chance).Watches i := by
  rcases f.act_cases k chance with hsame | ⟨a, notes, s', a', ha, does, agents, store, -⟩
  · rw [hsame]
    exact h
  have hwatched := h.lane hl
  refine ⟨?_, ?_, ?_⟩
  · rw [store]
    exact does.orderly h.orderly
  · rw [now_act]
    exact h.since
  · have hi : i < f.agents.length := (List.getElem?_eq_some_iff.1 hl).1
    rw [agents, store, now_act]
    by_cases hki : k = i
    · subst hki
      rw [hl] at ha
      cases ha
      obtain ⟨next, rfl, hnext⟩ := does.watched_own h.orderly h.since hwatched
      exact ⟨next, by simp [hi], hnext⟩
    · have hother : l.job? = none ∨ (a.next f.now).reporter ≠ some l.config.worker := by
        refine spared.imp_right fun hspares => ?_
        simpa [spares, ha, hki] using hspares
      refine ⟨l, ?_, does.watched_other h.orderly hwatched hother⟩
      rw [List.getElem?_set_ne hki]
      exact hl

/-- Nothing that happens and does not disturb the lane endangers its job. -/
theorem step (h : f.Watches i) {l : Lane} (hl : f.agents[i]? = some (.lane l)) (action : Action)
    (spared : l.job? = none ∨ f.spares i l action = true) : (f.step action).Watches i := by
  cases action with
  | act k chance => exact h.act hl k chance spared
  | wait span =>
    have hsince : Time.earliest.nanos < f.now.nanos := h.since
    refine ⟨h.orderly, ?_, l, hl, ?_⟩
    · show Time.earliest.nanos < f.now.nanos + span.nanos
      omega
    · by_cases idle : l.job? = none
      · exact Lane.watched_of_idle idle
      · exact Lane.watched_wait (h.lane hl) (Option.isSome_iff_ne_none.2 idle)
          (spared.resolve_left idle)
  | hire config => exact h.welcome (.lane { config })
  | maintain config => exact h.welcome (.reconciler { config })
  | reconcile config => exact h.welcome (.pass config {})
  | ask request => exact h.welcome (.request request.script)
  | signal stop => exact ⟨h.orderly, h.since, h.watched⟩
  | meddle queue => exact ⟨h.orderly, h.since, h.watched⟩

/-- A schedule that does not disturb the lane does not endanger its job. -/
theorem run (h : f.Watches i) {schedule : List Action}
    (undisturbed : f.undisturbed i schedule = true) : (f.run schedule).Watches i := by
  induction schedule generalizing f with
  | nil => exact h
  | cons action rest ih =>
    obtain ⟨l, hl, -⟩ := h.watched
    simp only [Floor.undisturbed, lane?_eq_some.2 hl, Option.all_some, Bool.and_eq_true,
      Bool.or_eq_true, Option.isNone_iff_eq_none] at undisturbed
    exact ih (h.step hl action undisturbed.1) undisturbed.2

end Watches

end Floor

/-! ## The settings -/

/-- A lane that is not disturbed keeps the job it works on: whenever a reconciler asks for orphans
whose grace is at least two of the lane's heartbeat intervals, as settings provide for, the job is
not among them.  The clock is past the first instant of the calendar, before which there is no
cutoff. -/
theorem Floor.safe_run {past : List Dealing} {f : Floor} (lived : Lived past f.store)
    (since : Time.earliest < f.now) {i : Nat} {l : Lane} (hl : f.lane? i = some l)
    (idle : l.job? = none) {schedule : List Action}
    (undisturbed : f.undisturbed i schedule = true) :
    (∀ lookup settings, Settings.load lookup = .ok settings →
      2 * settings.workerConfig.heartbeatInterval.nanos ≤
        settings.reconcilerConfig.staleAfter.nanos) ∧
    ∃ l', (f.run schedule).lane? i = some l' ∧
      ∀ job staleAfter, l'.job? = some job → Span.ofMillis 1 ≤ l'.config.heartbeatInterval →
        2 * l'.config.heartbeatInterval.nanos ≤ staleAfter.nanos →
          job.id ∉ ((f.run schedule).store.requeueOrphaned staleAfter
            (f.run schedule).now).1.map (·.id) := by
  refine ⟨fun lookup settings => Settings.twice_le_staleAfter, ?_⟩
  have hstart : f.Watches i :=
    ⟨lived.orderly, since, l, lane?_eq_some.1 hl, Lane.watched_of_idle idle⟩
  obtain ⟨horderly, hsince, l', hl', hwatched⟩ := hstart.run undisturbed
  refine ⟨l', lane?_eq_some.2 hl', fun job staleAfter hjob hmilli htwice => ?_⟩
  obtain ⟨config, presence, seen, stage⟩ := l'
  cases stage with
  | polling phase =>
    have hinterval : (Span.ofMillis 1).nanos ≤ config.heartbeatInterval.nanos := hmilli
    have htwice : 2 * config.heartbeatInterval.nanos ≤ staleAfter.nanos := htwice
    have hmilli : (Span.ofMillis 1).nanos = 1000000 := rfl
    refine hwatched.phase.safe hjob horderly hsince ?_
    show max config.heartbeatInterval.nanos (Span.ofMillis 1).nanos < staleAfter.nanos
    omega
  | _ => cases hjob

/-- A lane is slow; a pass comes between the start of its job and the first report, and another one
when the second report is due and not made yet. -/
def slowLane : List Action :=
  let chance : Chance := { fresh := .numbered 1 1, answer := { delay := .ofSeconds 60 } }
  let lane : Action := .act 0 chance
  let pass : Action := .reconcile { interval := .ofSeconds 1, staleAfter := .ofSeconds 10 }
  [.ask (.create { tenant := "acme", model := "small" }), .act 1 chance, .act 1 chance,
    lane, lane, lane, lane, lane, pass, .act 2 chance, lane, lane, lane, lane,
    .wait (.ofSeconds 5), pass, .act 3 chance, lane, lane, lane, lane, .wait (.ofSeconds 3)]

theorem Floor.safe_slowLane :
    ∃ l job, (((empty ⟨0⟩).step (.hire {})).run slowLane).lane? 0 = some l ∧ l.job? = some job ∧
      job.id ∉ ((((empty ⟨0⟩).step (.hire {})).run slowLane).store.requeueOrphaned
        (.ofSeconds 10) (((empty ⟨0⟩).step (.hire {})).run slowLane).now).1.map (·.id) := by
  have hundisturbed : ((empty ⟨0⟩).step (.hire {})).undisturbed 0 slowLane = true := by
    decide +kernel
  obtain ⟨-, l, hl, hsafe⟩ := safe_run .born (by decide) rfl rfl hundisturbed
  have hstate : ((((empty ⟨0⟩).step (.hire {})).run slowLane).lane? 0).map
      (fun l => (l.job?.isSome, l.config.heartbeatInterval)) =
        some (true, .ofSeconds 5) := by decide +kernel
  rw [hl] at hstate
  obtain ⟨hwork, hinterval⟩ := Prod.mk.inj (Option.some.inj hstate)
  obtain ⟨job, hjob⟩ := Option.isSome_iff_exists.1 hwork
  refine ⟨l, job, hl, hjob, hsafe job (.ofSeconds 10) hjob ?_ ?_⟩
  · rw [hinterval]
    decide
  · rw [hinterval]
    decide

end Dispatch
