import Dispatch.Proofs.Floor.Custody
import Dispatch.Proofs.Floor.Outcome
import Dispatch.Proofs.Floor.Reports
import Dispatch.Proofs.Store.Ledger

/-!
# Leaving

A lane leaves between two polls only, so what it has begun it has finished.  The lane that started
an attempt owes the commit as long as the attempt runs (`Floor.Owing`), and a lane that has gone
owes nothing; so its attempts are closed, by itself or by whoever took them.  With what it reported
and what it took from the queue this makes the account of a lane that has gone (`Floor.Left`), which
`Floor.left_run` draws up for the lanes of a process.
-/

namespace Dispatch

/-! ## Attempts -/

theorem Agent.opened_not_mem_owes (a : Agent) (id : JobId) (n : Int) : .opened id n ∉ a.owes := by
  cases a with
  | lane l =>
    obtain ⟨config, presence, seen, stage⟩ := l
    cases stage with
    | polling phase => cases phase <;> simp [owes, Lane.owes, PollPhase.owes]
    | _ => simp [owes, Lane.owes]
  | _ => simp [owes]

theorem Note.stamp_eq_committed {note : Note} {id : JobId} {n : Int}
    (h : note.stamp = some (.committed id n)) :
    ∃ k d, note = .dealt k d ∧ d.call.commits = some (id, n) := by
  cases note with
  | dealt k d =>
    dsimp only [stamp] at h
    split at h
    · cases h
    · obtain ⟨key, hkey, hstamp⟩ := Option.map_eq_some_iff.1 h
      cases hstamp
      exact ⟨k, d, rfl, hkey⟩
  | _ => cases h

namespace Does

variable {i : Nat} {now : Time} {s s' : Store} {a a' : Agent} {notes deeds : List Note}
  {past : List Dealing} {id : JobId} {n : Int}

/-- Whoever opens an attempt owes the commit. -/
theorem owes_opened {d : Dealing} (h : Does i now s a notes s' a') (hs : s.Orderly)
    (hkeeps : a.Keeps i deeds) (hnote : .dealt i d ∈ notes) (opens : d.opens = some (id, n)) :
    .committed id n ∈ a'.owes := by
  have hstamp : (Note.dealt i d).stamp = some (.opened id n) :=
    Note.stamp_eq_opened.2 ⟨d, rfl, opens⟩
  have hmem : .opened id n ∈ notes.filterMap (·.stamp) := List.mem_filterMap.2 ⟨_, hnote, hstamp⟩
  rcases h.stamps hs hkeeps with hbefore | ⟨_, _, hnotes, -, hafter⟩
  · exact (a.opened_not_mem_owes id n (hbefore ▸ List.mem_append_left _ hmem)).elim
  · rw [hnotes] at hmem
    cases List.mem_singleton.1 hmem
    simp [hafter]

/-- An attempt that runs did so before, and the commit of it is owed if it was. -/
theorem owes_running (h : Does i now s a notes s' a') (lived : Lived past s)
    (hkeeps : a.Keeps i deeds) (opened : (id, n) ∈ openings past) (runs : s'.Runs id n) :
    s.Runs id n ∧ (.committed id n ∈ a.owes → .committed id n ∈ a'.owes) := by
  have hcalls : s.Runs id n ∧ ∀ k e, .dealt k e ∈ notes → e.before = s ∧ ¬ e.Ends id n := by
    cases h with
    | @dealt call k step m timely =>
      rcases ((lived.effect m call).runs id n).1 runs with hopens | ⟨hruns, hends⟩
      · exact ((Lived.deal m call lived).opens_ne opened hopens).elim
      · refine ⟨hruns, fun k e he => ?_⟩
        cases List.mem_singleton.1 he
        exact ⟨rfl, hends⟩
    | handed step answer => exact ⟨runs, fun k e he => by simp at he⟩
    | silent step going => exact ⟨runs, fun k e he => by simp at he⟩
    | returned step ended => exact ⟨runs, fun k e he => by simp at he⟩
  refine ⟨hcalls.1, fun howed => ?_⟩
  rcases h.stamps lived.orderly hkeeps with hbefore | ⟨_, _, -, hbefore, -⟩
  · rw [hbefore] at howed
    rcases List.mem_append.1 howed with hdone | hstill
    -- a commit of the running attempt would have ended it
    · obtain ⟨note, hnote, hstamp⟩ := List.mem_filterMap.1 hdone
      obtain ⟨k, e, rfl, hcommits⟩ := Note.stamp_eq_committed hstamp
      obtain ⟨rfl, hends⟩ := hcalls.2 k e hnote
      exact (hends (e.ends_of_commits hcommits ((e.commit hcommits).1.2 hcalls.1))).elim
    · exact hstill
  · rw [hbefore] at howed
    cases howed

end Does

namespace Floor

/-- Whoever opened an attempt that runs is to commit it. -/
def Owing (f : Floor) : Prop :=
  ∀ i d id n, .dealt i d ∈ f.history → d.opens = some (id, n) → f.store.Runs id n →
    ∃ a, f.agents[i]? = some a ∧ .committed id n ∈ a.owes

namespace Owing

variable {f : Floor}

theorem act (h : f.Owing) (sound : f.Sound) (i : Nat) (chance : Chance) :
    (f.act i chance).Owing := by
  rcases f.act_cases i chance with hsame | ⟨a, notes, s', a', ha, does, agents, store, history⟩
  · rw [hsame]
    exact h
  have hkeeps := sound.keeps i a ha
  have hafter : (f.act i chance).agents[i]? = some a' := by
    rw [agents, List.getElem?_set_self (List.getElem?_eq_some_iff.1 ha).1]
  intro j d id n hnote hopens hruns
  rw [history] at hnote
  rw [store] at hruns
  -- the attempt was opened before, or by this step
  rcases List.mem_append.1 hnote with hold | hnew
  · have hopened : (id, n) ∈ openings (dealingsOf f.history) :=
      List.mem_filterMap.2 ⟨d, List.mem_filterMap.2 ⟨_, hold, rfl⟩, hopens⟩
    obtain ⟨hran, hkept⟩ := does.owes_running sound.lived hkeeps hopened hruns
    obtain ⟨b, hb, howed⟩ := h j d id n hold hopens hran
    by_cases hij : i = j
    · subst hij
      obtain rfl : a = b := Option.some.inj (ha.symm.trans hb)
      exact ⟨a', hafter, hkept howed⟩
    · exact ⟨b, by rw [agents, List.getElem?_set_ne hij, hb], howed⟩
  · obtain rfl : j = i := does.agent_eq _ hnew
    exact ⟨a', hafter, does.owes_opened sound.lived.orderly hkeeps hnew hopens⟩

theorem welcome (h : f.Owing) (a : Agent) : (f.welcome a).Owing := by
  intro i d id n hnote hopens hruns
  obtain ⟨b, hb, howed⟩ := h i d id n hnote hopens hruns
  exact ⟨b, by rw [Floor.welcome, List.getElem?_append_left (List.getElem?_eq_some_iff.1 hb).1, hb],
    howed⟩

theorem step (h : f.Owing) (sound : f.Sound) (action : Action) : (f.step action).Owing := by
  cases action with
  | act i chance => exact h.act sound i chance
  | hire config | maintain config | reconcile config | ask request => exact h.welcome _
  | wait span | signal stop | meddle queue => exact h

end Owing

/-- What a lane that has gone leaves after a schedule. -/
structure Left (f : Floor) (schedule : List Action) (i : Nat) (l : Lane) : Prop where
  /-- Its last report says that it is idle. -/
  idle : ∃ row, (f.run schedule).store.workers.get? l.config.worker = some row ∧
    row.state = .idle ∧ row.running = none
  /-- The attempts that it opened are closed. -/
  closed : ∀ d id n, .dealt i d ∈ (f.run schedule).history → d.opens = some (id, n) →
    ∃ row, (f.run schedule).store.attempts.get? (id, n) = some row ∧ row.isOpen = false
  /-- No lease that it got is there any more. -/
  released : ∀ id, ¬ f.Standing i schedule id
  /-- Its polls had an outcome each, and the entries that it took are the jobs of the outcomes. -/
  squared : ∃ outcomes : List PollOutcome,
    resultsOf i (f.run schedule).history = outcomes.map .ok ∧
      popsOf i f schedule = outcomes.filterMap (·.job?)

end Floor

end Dispatch
