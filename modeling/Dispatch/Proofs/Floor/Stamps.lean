import Dispatch.Proofs.Floor.Agent

/-!
# Stamps

Every attempt is opened, handed to a provider and committed at most once.  The stamps of a history
are those of these three that have happened, and a lane that works on an attempt owes those that
are to come.  Doing a thing turns what was owed into what has happened, and only a start brings new
stamps, three at once (`Does.stamps`).
-/

namespace Dispatch

/-- One of the three things that happen to an attempt. -/
inductive Stamp where
  | opened (id : JobId) (n : Int)
  | handed (id : JobId) (n : Int)
  | committed (id : JobId) (n : Int)
deriving DecidableEq

/-- What the note says to have happened to an attempt. -/
def Note.stamp : Note → Option Stamp
  | dealt _ d =>
    match d.opens with
    | some (id, n) => some (.opened id n)
    | none => d.call.commits.map fun key => .committed key.1 key.2
  | handed _ job _ => some (.handed job.id job.attempt)
  | polled _ _ _ => none

/-- What a poll in the phase is still to do to an attempt. -/
def PollPhase.owes : PollPhase → List Stamp
  | announcing job | handing job =>
    [.handed job.id job.attempt, .committed job.id job.attempt]
  | limiting job _ | scheduling job _ _ | executing job _ _ | rousing job _ _ | beating job _ _
  | committing job _ _ | pausing job _ _ | paused job _ _ _ => [.committed job.id job.attempt]
  | _ => []

/-- What a lane is still to do to an attempt. -/
def Lane.owes (l : Lane) : List Stamp :=
  match l.stage with
  | .polling phase => phase.owes
  | _ => []

/-- What an agent is still to do to an attempt. -/
def Agent.owes : Agent → List Stamp
  | lane l => l.owes
  | _ => []

/-- The notes turn what one agent owed into what has happened and what it owes now, or they are the
start of an attempt. -/
def Turned (notes : List Note) (before after : List Stamp) : Prop :=
  before = notes.filterMap (·.stamp) ++ after ∨
    ∃ id n, notes.filterMap (·.stamp) = [.opened id n] ∧ before = [] ∧
      after = [.handed id n, .committed id n]

namespace Poll

variable {i : Nat} {config : WorkerConfig} {deeds : List Note} {now : Time} {p p' : Poll}

theorem owes_silent (step : (p.next config now).Silent now p') : p.phase.owes = p'.phase.owes := by
  obtain ⟨presence, phase⟩ := p
  cases phase with
  | rousing job run report =>
    cases step with
    | toss _ reportFirst =>
      dsimp only
      split <;> rfl
  | dequeuing =>
    cases step with
    | dequeue _ _ id => cases id <;> rfl
  | leasing id =>
    cases step with
    | queue _ _ granted => cases granted <;> rfl
  | _ => cases step <;> rfl

/-- Nothing is left to be done after a commit. -/
theorem owes_afterCommit {job : Job} {result : Except ProviderError Usage} {round : Nat}
    {reply : Except StoreError Unit}
    (h : Diary i config deeds (afterCommit config job result round reply)) :
    (afterCommit config job result round reply).owes = [] := by
  unfold afterCommit at h ⊢
  split at h
  · rfl
  · rfl
  · split at h
    · exact h.elim
    · rename_i hround
      rw [if_neg hround]
      rfl

theorem stamp_start {s : Store} {m : Moment} {id : JobId} {worker : WorkerId}
    {handed : Option Job} (h : (s.perform m (.start id worker)).1 = .ok handed) :
    (Note.dealt i ⟨s, m, .start id worker⟩).stamp =
      handed.map fun job => .opened id job.attempt := by
  dsimp only [Note.stamp, Dealing.opens, Dealing.reply]
  rw [h]
  cases handed <;> rfl

theorem stamp_commit {s : Store} {m : Moment} {worker : WorkerId} {job : Job}
    {result : Except ProviderError Usage} :
    (Note.dealt i ⟨s, m, commitCall worker job result⟩).stamp =
      some (.committed job.id job.attempt) := by
  cases result <;> rfl

theorem owes_dealt {call : StoreCall} {k : call.Reply → Poll} (h : Diary i config deeds p.phase)
    (step : p.next config now = .store call k) {s : Store} (hs : s.Orderly) (m : Moment) :
    Turned [.dealt i ⟨s, m, call⟩] p.phase.owes (k (s.perform m call).1).phase.owes := by
  have hdealt := h.dealt step hs m
  obtain ⟨presence, phase⟩ := p
  cases phase with
  | starting id =>
    cases step
    -- a start that hands out a job brings three stamps, one of which has happened
    rcases Diary.started i config hs id m with ⟨hreply, -⟩ | ⟨job, hreply, hbegan⟩
    · have hnone : (s.perform m (.start id config.worker)).1 = .ok none := hreply
      refine .inl ?_
      rw [hnone, List.filterMap_cons_none (stamp_start hnone)]
      rfl
    · have hsome : (s.perform m (.start id config.worker)).1 = .ok (some job) := hreply
      have hid : id = job.id := (StoreCall.start.inj hbegan.1).1
      refine .inr ⟨job.id, job.attempt, ?_, rfl, by rw [hsome]; rfl⟩
      rw [List.filterMap_cons_some (stamp_start hsome), hid]
      rfl
  | announcing job =>
    cases step
    exact .inl rfl
  | beating job run due =>
    cases step
    exact .inl rfl
  | retiring outcome =>
    cases step
    exact .inl rfl
  | committing job result round =>
    cases step
    refine .inl ?_
    rw [List.filterMap_cons_some stamp_commit, List.filterMap_nil, List.singleton_append]
    exact congrArg _ (owes_afterCommit hdealt).symm
  | _ => cases step

end Poll

theorem Agent.Outsider.owes {a : Agent} (h : a.Outsider) : a.owes = [] := by
  cases a with
  | lane l => exact h.elim
  | _ => rfl

theorem Note.stamp_outside {i : Nat} {d : Dealing} (h : d.call.isOutside = true) :
    (Note.dealt i d).stamp = none := by
  simp only [stamp, Dealing.opens, StoreCall.opens_of_outside h,
    StoreCall.commits_of_outside h, Option.map_none]

namespace Lane

variable {i : Nat} {deeds : List Note} {now : Time} {l l' : Lane}

theorem owes_silent (step : (l.next now).Silent now l') : l.owes = l'.owes := by
  obtain ⟨config, presence, seen, stage⟩ := l
  cases stage with
  | polling phase =>
    rcases Next.silent_lift step with ⟨p, hp, rfl⟩ | ⟨⟨result, _⟩, hr, hend⟩
    · exact Poll.owes_silent hp
    · obtain rfl : phase = .finished result := Poll.next_eq_finished hr
      cases hend with
      | go _ => cases result <;> rfl
  | deciding =>
    cases step with
    | look _ b =>
      cases b with
      | true => rfl
      | false =>
        dsimp only
        split <;> rfl
  | _ => cases step <;> rfl

theorem owes_handed {job : Job} {pace limit : Span} {k : Answer → Lane}
    (step : l.next now = .execute job pace limit k) (answer : Answer) :
    l.owes = .handed job.id job.attempt :: (k answer).owes := by
  obtain ⟨hstage, hnext⟩ := next_eq_execute step
  rw [hnext, owes, hstage]
  rfl

theorem owes_dealt {call : StoreCall} {k : call.Reply → Lane} (h : l.Keeps i deeds)
    (step : l.next now = .store call k) {s : Store} (hs : s.Orderly) (m : Moment) :
    Turned [.dealt i ⟨s, m, call⟩] l.owes (k (s.perform m call).1).owes := by
  obtain ⟨config, presence, seen, stage⟩ := l
  cases stage with
  | polling phase =>
    rcases Next.lift_eq_store step with ⟨k', hk, rfl⟩ | ⟨r, -, hr⟩
    · exact Poll.owes_dealt (p := { presence, phase }) h hk hs m
    · cases hr
  | deciding => cases step
  | backingOff => cases step
  | paused alarm => cases step
  | gone => cases step
  | _ =>
    cases step
    exact .inl rfl

end Lane

namespace Does

variable {i : Nat} {now : Time} {s s' : Store} {a a' : Agent} {notes deeds : List Note}

/-- What an agent does turns what it owed into what has happened, or is the start of an attempt. -/
theorem stamps (h : Does i now s a notes s' a') (hs : s.Orderly) (hkeeps : a.Keeps i deeds) :
    Turned notes a.owes a'.owes := by
  rcases hkeeps.cases with ⟨l, rfl, hl⟩ | hout
  · cases h with
    | dealt step m =>
      rcases Next.lift_eq_store step with ⟨k', hk, rfl⟩ | ⟨_, -, hend⟩
      · exact Lane.owes_dealt hl hk hs m
      · cases hend
    | @handed job pace limit k step answer =>
      rcases Next.lift_eq_execute step with ⟨k', hk, rfl⟩ | ⟨_, -, hend⟩
      · exact .inl (Lane.owes_handed hk answer)
      · cases hend
    | silent step going =>
      rcases Next.silent_lift step with ⟨l', hl', rfl⟩ | ⟨_, -, hend⟩
      · exact .inl (Lane.owes_silent hl')
      · cases hend
    | returned step ended =>
      rcases Next.silent_lift step with ⟨l', hl', rfl⟩ | ⟨_, -, hend⟩
      · exact .inl (Lane.owes_silent hl')
      · cases hend
  · rw [hout.owes]
    cases h with
    | dealt step m =>
      obtain ⟨houtside, hstill⟩ := hout.dealt step _
      rw [hstill.owes]
      exact .inl (by rw [List.filterMap_cons_none (Note.stamp_outside houtside)]; rfl)
    | handed step answer => exact (hout.not_handed step).elim
    | silent step going =>
      rw [(hout.silent step).owes]
      exact .inl rfl
    | returned step ended =>
      rw [(hout.silent step).owes]
      exact .inl rfl

end Does

end Dispatch
