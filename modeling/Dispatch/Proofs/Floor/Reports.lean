import Dispatch.Proofs.Floor.Moves
import Dispatch.Proofs.Floor.Vigil

/-!
# What lanes report

Only lanes report, and what a lane reports is how it sees itself: idle without a job or busy with
one.  So every report in the store is of that kind (`Floor.Reporting.rows`), and as long as no two
lanes have the same name, the last report of a lane that has gone says that it is idle
(`Floor.Reporting.lanes`).  The lanes of one process have different names (`Lane.nodup_spawn`).
-/

namespace Dispatch

/-- Idle without a job, or busy with one. -/
def WorkerState.Fits (running : Option JobId) : WorkerState → Prop
  | idle => running = none
  | busy => ∃ id, running = some id

/-! ## The names of lanes -/

/-- The settings of the lane that an agent is. -/
def Agent.config? : Agent → Option WorkerConfig
  | lane l => some l.config
  | _ => none

/-- The settings of the lane that an action sets to work. -/
def Action.config? : Action → Option WorkerConfig
  | hire config => some config
  | _ => none

/-- The settings of the lanes on the floor. -/
def Floor.crew (f : Floor) : List WorkerConfig := f.agents.filterMap (·.config?)

section Names

variable {now : Time} {s s' : Store} {q q' : LeaseQueue} {a a' : Agent} {l l' : Lane}

theorem Lane.config_moves (step : (l.next now).Moves now s q s' q' l') :
    l'.config = l.config := by
  obtain ⟨config, presence, seen, stage⟩ := l
  cases stage with
  | polling phase =>
    rcases Lane.moves_polling rfl step with ⟨p, -, rfl⟩ | ⟨result, -, -, -, rfl⟩
    · rfl
    · cases result <;> rfl
  | deciding =>
    cases step with
    | look _ stop =>
      cases stop with
      | true => rfl
      | false =>
        dsimp only
        split <;> rfl
  | _ => cases step <;> rfl

/-- A lane keeps its settings, and no other agent becomes a lane. -/
theorem Agent.config?_moves (step : (a.next now).Moves now s q s' q' a') :
    a'.config? = a.config? := by
  cases a with
  | lane l =>
    rcases Next.moves_lift step with ⟨l', hl', rfl⟩ | ⟨_, -, hend⟩
    · exact congrArg some (Lane.config_moves hl')
    · cases hend
  | reconciler r | pass config p | request rest =>
    rcases Next.moves_lift step with ⟨_, -, rfl⟩ | ⟨_, -, hend⟩
    · rfl
    · cases hend

namespace Floor

theorem crew_act (f : Floor) (i : Nat) (chance : Chance) : (f.act i chance).crew = f.crew := by
  rcases f.act_moves i chance with ⟨hsame, -⟩ | ⟨a, notes, a', ha, -, step, agents, -⟩
  · rw [hsame]
  obtain ⟨front, back, hfront, hset⟩ := exists_around ha
  rw [crew, crew, agents, hset, hfront]
  simp only [List.filterMap_append, List.filterMap_cons, Agent.config?_moves step]

/-- Where no two lanes have the same name, two lanes have two names. -/
theorem worker_ne {f : Floor} (distinct : (f.crew.map (·.worker)).Nodup) {i j : Nat} {l m : Lane}
    (hi : f.agents[i]? = some (.lane l)) (hj : f.agents[j]? = some (.lane m)) (hne : i ≠ j) :
    l.config.worker ≠ m.config.worker := by
  have hpairs := List.pairwise_filterMap.1 (List.pairwise_map.1 distinct)
  rw [List.pairwise_iff_getElem] at hpairs
  obtain ⟨hilt, hi⟩ := List.getElem?_eq_some_iff.1 hi
  obtain ⟨hjlt, hj⟩ := List.getElem?_eq_some_iff.1 hj
  rcases Nat.lt_or_gt_of_ne hne with hlt | hgt
  · exact hpairs i j hilt hjlt hlt l.config (by rw [hi]; rfl) m.config (by rw [hj]; rfl)
  · exact (hpairs j i hjlt hilt hgt m.config (by rw [hj]; rfl) l.config (by rw [hi]; rfl)).symm

end Floor

end Names

/-! ## The reports of a lane -/

section Reports

variable {now : Time} {s s' : Store} {q q' : LeaseQueue} {a a' : Agent} {l l' : Lane}
  {w : WorkerId}

/-- A report is kept unless somebody reports under its name. -/
theorem Next.Moves.workers_eq {σ ρ : Type} {n : Next σ ρ} {x : σ}
    (step : n.Moves now s q s' q' x) (orderly : s.Orderly) (other : n.reporter ≠ some w) :
    s'.workers.get? w = s.workers.get? w := by
  cases step with
  | store call k m timely => exact Store.workers_perform orderly m other
  | _ => rfl

/-- A lane reports under its own name how it sees itself. -/
theorem Lane.next_reporter (l : Lane) (now : Time) :
    (l.next now).reporter = none ∨ ∃ k, l.next now = .store (l.presence.beat l.config) k := by
  obtain ⟨config, presence, seen, stage⟩ := l
  cases stage with
  | polling phase =>
    cases phase with
    | announcing job | beating job run due | retiring outcome => exact .inr ⟨_, rfl⟩
    | committing job result round =>
      refine .inl ?_
      cases result <;> rfl
    | _ => exact .inl rfl
  | greeting | refreshing | leaving => exact .inr ⟨_, rfl⟩
  | _ => exact .inl rfl

/-- Who reports is a lane, and it reports how it sees itself. -/
theorem Agent.Keeps.reporter {i : Nat} {deeds : List Note} (h : a.Keeps i deeds)
    (reports : (a.next now).reporter = some w) :
    ∃ l k, a = .lane l ∧ l.config.worker = w ∧
      a.next now = .store (l.presence.beat l.config) k := by
  rcases h.cases with ⟨l, rfl, -⟩ | outsider
  · rcases l.next_reporter now with hnone | ⟨k, hk⟩
    · have hlift : ((l.next now).lift Agent.lane .finished).reporter = (l.next now).reporter := by
        cases l.next now <;> rfl
      rw [Agent.next, hlift, hnone] at reports
      cases reports
    · have hnext : Agent.next now (.lane l) =
          .store (l.presence.beat l.config) fun r => .lane (k r) := by
        simp only [Agent.next, hk, Next.lift]
      rw [hnext] at reports
      exact ⟨l, _, rfl, Option.some.inj reports, hnext⟩
  · have hharmless := outsider.harmless now
    cases hnext : a.next now with
    | store call k =>
      rw [hnext] at hharmless reports
      rw [Next.reporter, StoreCall.reporter_of_outside hharmless] at reports
      cases reports
    | _ =>
      rw [hnext] at reports
      cases reports

/-- A lane sees itself idle without a job or busy with one, and idle when it is about to say so for
the last time. -/
structure Lane.Composed (l : Lane) : Prop where
  fits : l.presence.state.Fits l.presence.running
  leaving : l.stage = .leaving → l.presence.state = .idle

theorem Presence.fits_noted {p : Presence} (fits : p.state.Fits p.running) (now : Time)
    (r : Except StoreError Unit) : (p.noted now r).state.Fits (p.noted now r).running := by
  cases r <;> exact fits

theorem Poll.fits_moves {config : WorkerConfig} {p p' : Poll}
    (fits : p.presence.state.Fits p.presence.running)
    (step : (p.next config now).Moves now s q s' q' p') :
    p'.presence.state.Fits p'.presence.running := by
  obtain ⟨presence, phase⟩ := p
  cases phase with
  | starting id =>
    cases step with
    | store _ _ m timely =>
      generalize (s.perform m (.start id config.worker)).1 = reply
      rcases reply with e | _ | job
      · exact fits
      · exact fits
      · exact ⟨id, rfl⟩
  | announcing job | beating job run due | retiring outcome =>
    cases step with
    | store _ _ m timely => exact Presence.fits_noted fits now _
  | releasing id outcome =>
    cases step with
    | queue _ _ => rfl
  | rousing job run report =>
    cases step with
    | toss _ reportFirst =>
      dsimp only
      split <;> exact fits
  | dequeuing =>
    cases step with
    | dequeue _ _ =>
      generalize q.pop.1 = entry
      cases entry <;> exact fits
  | leasing id =>
    cases step with
    | queue _ _ =>
      generalize (q.perform now (.acquire id config.worker)).1 = reply
      rcases reply with e | _ | _ <;> exact fits
  | _ => cases step <;> exact fits

namespace Lane.Composed

theorem of_stage (fits : l.presence.state.Fits l.presence.running) (stays : l.stage ≠ .leaving) :
    l.Composed :=
  ⟨fits, fun h => absurd h stays⟩

theorem moves (h : l.Composed) (step : (l.next now).Moves now s q s' q' l') : l'.Composed := by
  obtain ⟨config, presence, seen, stage⟩ := l
  have hfits : presence.state.Fits presence.running := h.fits
  cases stage with
  | polling phase =>
    rcases Lane.moves_polling rfl step with ⟨p, hp, rfl⟩ | ⟨result, -, -, -, rfl⟩
    · exact of_stage (Poll.fits_moves hfits hp) fun h => by cases h
    · cases result <;> exact of_stage hfits fun h => by cases h
  | deciding =>
    cases step with
    | look _ stop =>
      cases stop with
      | true => exact ⟨rfl, fun _ => rfl⟩
      | false =>
        dsimp only
        split <;> exact of_stage hfits fun h => by cases h
  | greeting | refreshing | leaving =>
    cases step with
    | store _ _ m timely => exact of_stage (Presence.fits_noted hfits now _) fun h => by cases h
  | backingOff =>
    cases step with
    | arm _ _ ticket => exact of_stage hfits fun h => by cases h
  | paused alarm =>
    cases step with
    | await _ _ _ news => exact of_stage hfits fun h => by cases h
  | gone => cases step

/-- The last thing a lane does is to report that it is idle. -/
theorem farewell (h : l.Composed) (step : (l.next now).Moves now s q s' q' l')
    (gone : l'.stage = .gone) : ∃ row, s'.workers.get? l.config.worker = some row ∧
      row.state = .idle := by
  obtain ⟨config, presence, seen, stage⟩ := l
  cases stage with
  | polling phase =>
    rcases Lane.moves_polling rfl step with ⟨p, hp, rfl⟩ | ⟨result, -, -, -, rfl⟩
    · cases gone
    · cases result <;> cases gone
  | deciding =>
    cases step with
    | look _ stop =>
      cases stop with
      | true => cases gone
      | false =>
        dsimp only at gone
        split at gone <;> cases gone
  | leaving =>
    cases step with
    | store _ _ m timely => exact ⟨_, (Table.get?_set ..).trans (if_pos rfl), h.leaving rfl⟩
  | gone => cases step
  | _ =>
    cases step
    cases gone

end Lane.Composed

end Reports

/-! ## Reports on the floor -/

namespace Floor

/-- Every report fits, lanes see themselves as they are, and lanes that have gone have said so. -/
structure Reporting (f : Floor) : Prop where
  sound : f.Sound
  rows : ∀ w row, f.store.workers.get? w = some row → row.state.Fits row.running
  composed : ∀ (i : Nat) (l : Lane), f.agents[i]? = some (.lane l) → l.Composed
  farewell : (f.crew.map (·.worker)).Nodup → ∀ (i : Nat) (l : Lane),
    f.agents[i]? = some (.lane l) → l.stage = .gone →
      ∃ row, f.store.workers.get? l.config.worker = some row ∧ row.state = .idle

namespace Reporting

variable {f : Floor}

theorem act (h : f.Reporting) (i : Nat) (chance : Chance) : (f.act i chance).Reporting := by
  have hcrew := f.crew_act i chance
  have hsound := h.sound.act i chance
  rcases f.act_moves i chance with ⟨hsame, -⟩ | ⟨a, notes, a', ha, -, step, agents, -⟩
  · rw [hsame]
    exact h
  have horderly := h.sound.lived.orderly
  refine ⟨hsound, fun w row hrow => ?_, fun j m hm => ?_, fun distinct j m hm hgone => ?_⟩
  -- a report that is new is how a lane sees itself, and the others are as they were
  · by_cases hw : (a.next f.now).reporter = some w
    · obtain ⟨l, k, rfl, rfl, hnext⟩ := (h.sound.keeps i a ha).reporter hw
      have hfits := (h.composed i l ha).fits
      rw [hnext] at step
      obtain ⟨m, -, hstore, -⟩ := Next.moves_store step
      have hset : (f.act i chance).store.workers.get? l.config.worker = some
          { worker := l.config.worker, seenAt := m.now, state := l.presence.state,
            running := l.presence.running, concurrency := l.config.concurrency } := by
        rw [hstore]
        exact (Table.get?_set ..).trans (if_pos rfl)
      rw [hset, Option.some.injEq] at hrow
      exact hrow ▸ hfits
    · rw [step.workers_eq horderly hw] at hrow
      exact h.rows w row hrow
  · rcases agents_set agents hm with ⟨hold, -⟩ | ⟨rfl, rfl⟩
    · exact h.composed j m hold
    · obtain ⟨l, rfl, hl⟩ := Agent.lane_moves step
      exact (h.composed j l ha).moves hl
  · rw [hcrew] at distinct
    rcases agents_set agents hm with ⟨hold, hne⟩ | ⟨rfl, rfl⟩
    · -- nobody else reports under the name of the lane that has gone
      have hw : (a.next f.now).reporter ≠ some m.config.worker := by
        intro hw
        obtain ⟨l, k, rfl, hname, -⟩ := (h.sound.keeps i a ha).reporter hw
        exact worker_ne distinct ha hold (Ne.symm hne) hname
      rw [step.workers_eq horderly hw]
      exact h.farewell distinct j m hold hgone
    · obtain ⟨l, rfl, hl⟩ := Agent.lane_moves step
      rw [Lane.config_moves hl]
      exact (h.composed j l ha).farewell hl hgone

/-- Whoever comes has not said anything yet. -/
theorem welcome (h : f.Reporting) {a : Agent} (sound : (f.welcome a).Sound)
    (fresh : ∀ l, a = .lane l → l.Composed ∧ l.stage ≠ .gone) : (f.welcome a).Reporting := by
  refine ⟨sound, h.rows, fun i l hl => ?_, fun distinct i l hl hgone => ?_⟩
  · rcases agents_welcome hl with hold | ⟨-, rfl⟩
    · exact h.composed i l hold
    · exact (fresh l rfl).1
  · rcases agents_welcome hl with hold | ⟨-, rfl⟩
    · refine h.farewell (List.Nodup.sublist ?_ distinct) i l hold hgone
      simp only [crew, Floor.welcome, List.filterMap_append, List.map_append]
      exact List.sublist_append_left _ _
    · exact absurd hgone (fresh l rfl).2

theorem step (h : f.Reporting) (action : Action) : (f.step action).Reporting := by
  have hsound := h.sound.step action
  cases action with
  | act i chance => exact h.act i chance
  | hire config =>
    refine h.welcome hsound fun l hl => ?_
    cases hl
    exact ⟨⟨rfl, fun h => by cases h⟩, fun h => by cases h⟩
  | maintain config | reconcile config | ask request =>
    exact h.welcome hsound fun l hl => by cases hl
  | wait span | signal stop | meddle queue => exact ⟨hsound, h.rows, h.composed, h.farewell⟩

end Reporting

end Floor

end Dispatch
