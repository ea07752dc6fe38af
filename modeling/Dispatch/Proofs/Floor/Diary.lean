import Dispatch.Proofs.Floor.Next
import Dispatch.Proofs.Store.History

/-!
# What a lane remembers of its poll

The state of a lane in the middle of a poll determines what it has done since its last one,
heartbeats aside: which job it started, which answer the provider has to it, how the commit went.
`Lane.Keeps` says so phase by phase, and each kind of thing that a lane does next keeps it so:
calls to the store (`Lane.Keeps.dealt`), handing a job over (`Lane.Keeps.handed`), and whatever
leaves no note (`Lane.Keeps.silent`).  When a poll returns, `Concluded` is what its result says
about what was done.
-/

namespace Dispatch

/-! ## Deeds -/

namespace StoreCall

/-- The job that the call handed out. -/
def handsOut : (c : StoreCall) → c.Reply → Option Job
  | .start _ _, .ok handed => handed
  | _, _ => none

/-- The call reports what a worker is doing. -/
def isBeat : StoreCall → Bool
  | .beat _ _ _ _ => true
  | _ => false

end StoreCall

/-- The job that the call handed out. -/
def Dealing.handsOut (d : Dealing) : Option Job := d.call.handsOut d.reply

/-- What an agent did since its last poll, after a note is added to the history. -/
def noted (i : Nat) (deeds : List Note) (n : Note) : List Note :=
  if n.agent = i then
    match n with
    | .dealt _ d => if d.call.isBeat then deeds else deeds ++ [n]
    | .handed _ _ _ => deeds ++ [n]
    | .polled _ _ _ => []
  else deeds

/-- What an agent did since its last poll, heartbeats aside. -/
def deedsOf (i : Nat) (history : List Note) : List Note := history.foldl (noted i) []

theorem noted_beat {i j : Nat} {deeds : List Note} {d : Dealing} (h : d.call.isBeat = true) :
    noted i deeds (.dealt j d) = deeds := by
  simp [noted, h]

theorem noted_dealt {i : Nat} {deeds : List Note} {d : Dealing} (h : d.call.isBeat = false) :
    noted i deeds (.dealt i d) = deeds ++ [.dealt i d] := by
  simp [noted, Note.agent, h]

/-! ## Polls -/

section Poll

variable (i : Nat) (config : WorkerConfig)

/-- The lane started the job. -/
def Began (job : Job) (d : Dealing) : Prop :=
  d.call = .start job.id config.worker ∧ d.handsOut = some job

/-- The lane started the job and handed it to the provider. -/
def Handed (job : Job) (answer : Answer) (deeds : List Note) : Prop :=
  ∃ d, Began config job d ∧ deeds = [.dealt i d, .handed i job answer]

/-- The lane started the job, handed it to the provider and committed the result. -/
def Committed (job : Job) (answer : Answer) (e : Dealing) (deeds : List Note) : Prop :=
  ∃ d, Began config job d ∧ deeds = [.dealt i d, .handed i job answer, .dealt i e] ∧
    e.call = Poll.commitCall config.worker job (answer.within config.providerTimeout)

/-- What the result of a poll says about what was done. -/
def Concluded (deeds : List Note) : PollResult → Prop
  | .ok .idle => deeds = []
  | .ok (.leaseHeld _) => deeds = []
  | .ok (.skipped id) => ∃ d, deeds = [.dealt i d] ∧ d.call = .start id config.worker ∧
    d.handsOut = none
  | .ok (.succeeded id) => ∃ job answer usage e, job.id = id ∧
    Committed i config job answer e deeds ∧ e.error = none ∧
    answer.within config.providerTimeout = .ok usage
  | .ok (.failed id code) => ∃ job answer failure e, job.id = id ∧
    Committed i config job answer e deeds ∧ e.error = none ∧
    answer.within config.providerTimeout = .error failure ∧ code = failure.code
  | .ok (.abandoned id) => ∃ job answer e, job.id = id ∧ Committed i config job answer e deeds ∧
    e.error = some (Store.notRunning job.id job.attempt)
  | .ok (.uncommitted _) => False
  | .error _ => False

/-- What was done so far by a poll that is in a phase. -/
def Diary (deeds : List Note) : PollPhase → Prop
  | .dequeuing | .leasing _ | .starting _ => deeds = []
  | .dropping _ result => Concluded i config deeds result
  | .announcing job | .handing job => ∃ d, Began config job d ∧ deeds = [.dealt i d]
  | .limiting job answer => Handed i config job answer deeds
  | .scheduling job run _ | .executing job run _ | .rousing job run _ | .beating job run _ =>
    Handed i config job run.answer deeds
  | .committing job result _ => ∃ answer, Handed i config job answer deeds ∧
    result = answer.within config.providerTimeout
  -- a store in memory never asks for another try
  | .pausing _ _ _ | .paused _ _ _ _ => False
  | .releasing _ outcome | .retiring outcome => Concluded i config deeds (.ok outcome)
  | .finished result => Concluded i config deeds result

end Poll

/-- What a lane did since its last poll is what its state says. -/
def Lane.Keeps (i : Nat) (deeds : List Note) (l : Lane) : Prop :=
  match l.stage with
  | .polling phase => Diary i l.config deeds phase
  | _ => deeds = []

theorem Committed.commits {i : Nat} {config : WorkerConfig} {job : Job} {answer : Answer}
    {e : Dealing} {deeds : List Note} (h : Committed i config job answer e deeds) :
    e.call.commits = some (job.id, job.attempt) := by
  obtain ⟨d, -, -, hcall⟩ := h
  rw [hcall]
  cases answer.within config.providerTimeout <;> rfl

/-! ## The phases of a poll -/

namespace Diary

variable {i : Nat} {config : WorkerConfig} {deeds : List Note} {now : Time} {p p' : Poll}

theorem silent (h : Diary i config deeds p.phase) (step : (p.next config now).Silent now p') :
    Diary i config deeds p'.phase := by
  obtain ⟨presence, phase⟩ := p
  cases phase with
  | dequeuing =>
    cases step with
    | dequeue _ _ id => cases id <;> exact h
  | leasing id =>
    cases step with
    | queue _ _ granted => cases granted <;> exact h
  | dropping id result =>
    cases step with
    | queue _ _ v => exact h
  | limiting job answer =>
    cases step with
    | arm _ _ ends => exact h
  | scheduling job run due =>
    cases step with
    | arm _ _ report => exact h
  | executing job run report =>
    cases step with
    | sleep _ _ => exact h
  | rousing job run report =>
    cases step with
    | toss _ reportFirst =>
      dsimp only
      split
      · exact ⟨run.answer, h, rfl⟩
      · exact h
  | pausing job result round => exact h.elim
  | paused job result round alarm => exact h.elim
  | releasing id outcome =>
    cases step with
    | queue _ _ v => exact h
  | _ => cases step

/-- The start of a job hands it out, or the poll has nothing to do. -/
theorem started (i : Nat) (config : WorkerConfig) {s : Store} (hs : s.Orderly) (id : JobId)
    (m : Moment) :
    let d : Dealing := ⟨s, m, .start id config.worker⟩
    (d.reply = .ok none ∧ Concluded i config [.dealt i d] (.ok (.skipped id))) ∨
      ∃ job, d.reply = .ok (some job) ∧ Began config job d := by
  intro d
  rcases Store.start_turn hs id config.worker m.now with ⟨hnone, -⟩ | ⟨job, t, hsome, rfl, -⟩
  · have hreply : d.reply = .ok none := by simp [d, Dealing.reply, Store.perform, hnone]
    exact .inl ⟨hreply, d, rfl, rfl, by rw [Dealing.handsOut, hreply]; rfl⟩
  · have hreply : d.reply = .ok (some job) := by simp [d, Dealing.reply, Store.perform, hsome]
    exact .inr ⟨job, hreply, rfl, by rw [Dealing.handsOut, hreply]; rfl⟩

/-- A commit is taken or refused, and either way it is the last. -/
theorem committed {job : Job} {answer : Answer} {e : Dealing}
    (h : Committed i config job answer e deeds) (round : Nat)
    {reply : Except StoreError Unit} (told : e.error = refusal reply) :
    Diary i config deeds
      (Poll.afterCommit config job (answer.within config.providerTimeout) round reply) := by
  cases reply with
  | ok _ =>
    cases hresult : answer.within config.providerTimeout with
    | ok usage => exact ⟨job, answer, usage, e, rfl, h, told, hresult⟩
    | error failure => exact ⟨job, answer, failure, e, rfl, h, told, hresult, rfl⟩
  | error reason =>
    have hrefused := (e.commit h.commits).2 (by simp [told, refusal])
    obtain rfl : reason = Store.notRunning job.id job.attempt := by
      simpa [told, refusal] using hrefused.1
    exact ⟨job, answer, e, rfl, h, told⟩

/-- What a lane asks of the store in a poll and what it is told is in its next phase. -/
theorem dealt {call : StoreCall} {k : call.Reply → Poll} (h : Diary i config deeds p.phase)
    (step : p.next config now = .store call k) {s : Store} (hs : s.Orderly) (m : Moment) :
    Diary i config (noted i deeds (.dealt i ⟨s, m, call⟩)) (k (s.perform m call).1).phase := by
  obtain ⟨presence, phase⟩ := p
  cases phase with
  | starting id =>
    cases step
    obtain rfl : deeds = [] := h
    rw [noted_dealt rfl]
    rcases started i config hs id m with ⟨hreply, hskipped⟩ | ⟨job, hreply, hbegan⟩
    · rw [show (s.perform m (.start id config.worker)).1 = _ from hreply]
      exact hskipped
    · rw [show (s.perform m (.start id config.worker)).1 = _ from hreply]
      exact ⟨_, hbegan, rfl⟩
  | announcing job =>
    cases step
    rw [noted_beat rfl]
    exact h
  | beating job run due =>
    cases step
    rw [noted_beat rfl]
    exact h
  | retiring outcome =>
    cases step
    rw [noted_beat rfl]
    exact h
  | committing job result round =>
    cases step
    obtain ⟨answer, ⟨d, hbegan, rfl⟩, rfl⟩ := h
    rw [noted_dealt (by cases answer.within config.providerTimeout <;> rfl)]
    refine committed ⟨d, hbegan, rfl, rfl⟩ round ?_
    cases answer.within config.providerTimeout <;> rfl
  | _ => cases step

end Diary

/-! ## The stages of a lane -/

namespace Lane.Keeps

variable {i : Nat} {deeds : List Note} {l l' : Lane} {now : Time}

/-- What leaves no note leaves the lane where its deeds put it, as long as the poll goes on. -/
theorem silent (h : l.Keeps i deeds) (step : (l.next now).Silent now l')
    (going : ∀ result, l.stage ≠ .polling (.finished result)) : l'.Keeps i deeds := by
  obtain ⟨config, presence, seen, stage⟩ := l
  cases stage with
  | deciding =>
    cases step with
    | look _ b =>
      cases b with
      | true => exact h
      | false =>
        dsimp only
        split <;> exact h
  | polling phase =>
    rcases Next.silent_lift step with ⟨p, hp, rfl⟩ | ⟨r, hr, -⟩
    · exact Diary.silent (p := { presence, phase }) h hp
    · exact absurd (congrArg LaneStage.polling (Poll.next_eq_finished hr)) (going r.1)
  | backingOff =>
    cases step with
    | arm _ _ alarm => exact h
  | paused alarm =>
    cases step with
    | await _ _ _ news => exact h
  | _ => cases step

/-- A lane whose poll has returned has nothing to remember. -/
theorem returned {result : PollResult} (h : l.Keeps i deeds)
    (ended : l.stage = .polling (.finished result)) (step : (l.next now).Silent now l') :
    Concluded i l.config deeds result ∧ l'.Keeps i [] := by
  obtain ⟨config, presence, seen, stage⟩ := l
  obtain rfl : stage = .polling (.finished result) := ended
  cases step with
  | go _ =>
    refine ⟨h, ?_⟩
    cases result <;> rfl

/-- A job that is handed over was started before. -/
theorem began {job : Job} {pace limit : Span} {k : Answer → Lane} (h : l.Keeps i deeds)
    (step : l.next now = .execute job pace limit k) :
    ∃ d, Began l.config job d ∧ deeds = [.dealt i d] := by
  unfold Keeps at h
  rw [(Lane.next_eq_execute step).1] at h
  exact h

theorem handed {job : Job} {pace limit : Span} {k : Answer → Lane} (h : l.Keeps i deeds)
    (step : l.next now = .execute job pace limit k) (answer : Answer) :
    (k answer).Keeps i (deeds ++ [.handed i job answer]) := by
  obtain ⟨d, hbegan, rfl⟩ := h.began step
  rw [(Lane.next_eq_execute step).2 answer]
  exact ⟨d, hbegan, rfl⟩

theorem dealt {call : StoreCall} {k : call.Reply → Lane} (h : l.Keeps i deeds)
    (step : l.next now = .store call k) {s : Store} (hs : s.Orderly) (m : Moment) :
    (k (s.perform m call).1).Keeps i (noted i deeds (.dealt i ⟨s, m, call⟩)) := by
  obtain ⟨config, presence, seen, stage⟩ := l
  cases stage with
  | polling phase =>
    rcases Next.lift_eq_store step with ⟨k', hk, rfl⟩ | ⟨r, -, hr⟩
    · exact Diary.dealt (p := { presence, phase }) h hk hs m
    · cases hr
  | deciding => cases step
  | backingOff => cases step
  | paused alarm => cases step
  | gone => cases step
  | _ =>
    cases step
    rw [noted_beat rfl]
    exact h

end Lane.Keeps

end Dispatch
