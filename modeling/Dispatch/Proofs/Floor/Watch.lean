import Dispatch.Proofs.Floor.Outcome
import Dispatch.Proofs.Store.Vouch

/-!
# Why the job of a lane at work is safe

While a lane works on a job it reports on schedule, and the store does not take a job for lost that
somebody has reported within the grace.  `PollPhase.Watched` says for every point of a poll why the
job is safe there: it has just started, or the lane vouches for it and its next report is not
overdue (`PollPhase.Watched.safe`).

Everything that the lane does next keeps it so: what it asks of the store (`Lane.watched_dealt`),
handing the job over (`Lane.watched_handed`), whatever takes no call to either
(`Lane.watched_silent`), and sleeping until the next alarm (`Lane.watched_wait`).  What others do
keeps it so unless they report under the lane's name (`Does.watched_other`).
-/

namespace Dispatch

/-! ## What a machine is about to do -/

namespace Next

variable {σ ρ : Type}

/-- The name under which the machine is about to report. -/
def reporter : Next σ ρ → Option WorkerId
  | .store call _ => call.reporter
  | _ => none

/-- The machine sleeps, and none of its alarms goes off before the instant. -/
def sleepsUntil (t : Time) : Next σ ρ → Bool
  | .sleep alarms _ => alarms.all fun a => t ≤ a.due
  | _ => false

end Next

/-! ## Why the job of a poll is safe -/

section Watch

variable {s s' : Store} {config : WorkerConfig} {now : Time}

/-- Why the job that a poll works on is safe in a phase. -/
def PollPhase.Watched (s : Store) (config : WorkerConfig) (now : Time) : PollPhase → Prop
  | announcing job => s.StartedAt job.id now
  | handing job | limiting job _ =>
    s.Vouched config.worker job.id config.heartbeatPeriod (now + config.heartbeatPeriod)
  | scheduling job _ due =>
    s.Vouched config.worker job.id config.heartbeatPeriod due ∧ now ≤ due
  | executing job _ report =>
    s.Vouched config.worker job.id config.heartbeatPeriod report.due ∧ now ≤ report.due
  | rousing job run report =>
    s.Vouched config.worker job.id config.heartbeatPeriod report.due ∧ now ≤ report.due ∧
      (run.ends.isDue now = true ∨ report.isDue now = true)
  | beating job _ due => s.Vouched config.worker job.id config.heartbeatPeriod due ∧ now = due
  | committing job _ _ =>
    ∃ due, s.Vouched config.worker job.id config.heartbeatPeriod due ∧ now ≤ due
  -- a store in memory does not fail, so no commit is tried again
  | pausing _ _ _ | paused _ _ _ _ => False
  | _ => True

/-- The job of a poll is safe, and it is the job that the lane says it runs. -/
structure Poll.Watched (s : Store) (config : WorkerConfig) (now : Time) (p : Poll) : Prop where
  phase : p.phase.Watched s config now
  running : ∀ job, p.phase.job? = some job → p.presence.running = some job.id

/-- The job of a lane's poll is safe. -/
def Lane.Watched (s : Store) (now : Time) (l : Lane) : Prop :=
  match l.stage with
  | .polling phase => Poll.Watched s l.config now ⟨l.presence, phase⟩
  | _ => True

/-- A poll that works on no job has none to lose. -/
theorem Poll.watched_of_idle {p : Poll} (idle : p.phase.job? = none) : p.Watched s config now := by
  obtain ⟨presence, phase⟩ := p
  refine ⟨?_, fun job hjob => ?_⟩
  · cases phase <;> trivial
  · rw [idle] at hjob
    cases hjob

theorem Lane.watched_of_idle {l : Lane} (idle : l.job? = none) : l.Watched s now := by
  obtain ⟨config, presence, seen, stage⟩ := l
  cases stage with
  | polling phase => exact Poll.watched_of_idle idle
  | _ => trivial

/-- A job is as safe in one store as in another if the reports and the starts of this instant are
in both. -/
theorem PollPhase.Watched.mono {phase : PollPhase} (h : phase.Watched s config now)
    (reports : ∀ id seen, s.Reports config.worker id seen → s'.Reports config.worker id seen)
    (started : ∀ id, s.StartedAt id now → s'.StartedAt id now) : phase.Watched s' config now := by
  have hvouched : ∀ {id period due}, s.Vouched config.worker id period due →
      s'.Vouched config.worker id period due := by
    rintro id period due ⟨seen, hsince, hreports, hdue⟩
    exact ⟨seen, hsince, reports id seen hreports, hdue⟩
  cases phase with
  | announcing job => exact started job.id h
  | handing job => exact hvouched h
  | limiting job answer => exact hvouched h
  | scheduling job run due => exact ⟨hvouched h.1, h.2⟩
  | executing job run report => exact ⟨hvouched h.1, h.2⟩
  | rousing job run report => exact ⟨hvouched h.1, h.2⟩
  | beating job run due => exact ⟨hvouched h.1, h.2⟩
  | committing job result round =>
    obtain ⟨due, hold, hwaits⟩ := h
    exact ⟨due, hvouched hold, hwaits⟩
  | pausing job result round => exact h
  | paused job result round alarm => exact h
  | _ => trivial

/-- A job that is watched is not lost. -/
theorem PollPhase.Watched.safe {phase : PollPhase} {job : Job} {staleAfter : Span}
    (h : phase.Watched s config now) (atWork : phase.job? = some job) (hs : s.Orderly)
    (since : Time.earliest < now) (grace : config.heartbeatPeriod < staleAfter) :
    job.id ∉ (s.requeueOrphaned staleAfter now).1.map (·.id) := by
  have hgrace : config.heartbeatPeriod.nanos < staleAfter.nanos := grace
  cases phase with
  | announcing j =>
    cases atWork
    exact Store.not_requeued_of_startedAt hs h since (by omega)
  | handing j =>
    cases atWork
    exact Store.not_requeued_of_vouched h (Time.le_add now _) grace
  | limiting j answer =>
    cases atWork
    exact Store.not_requeued_of_vouched h (Time.le_add now _) grace
  | scheduling j run due =>
    cases atWork
    exact Store.not_requeued_of_vouched h.1 h.2 grace
  | executing j run report =>
    cases atWork
    exact Store.not_requeued_of_vouched h.1 h.2 grace
  | rousing j run report =>
    cases atWork
    exact Store.not_requeued_of_vouched h.1 h.2.1 grace
  | beating j run due =>
    cases atWork
    exact Store.not_requeued_of_vouched h.1 (Int.le_of_eq (congrArg Time.nanos h.2)) grace
  | committing j result round =>
    cases atWork
    obtain ⟨due, hvouched, hwaits⟩ := h
    exact Store.not_requeued_of_vouched hvouched hwaits grace
  | pausing j result round => exact h.elim
  | paused j result round alarm => exact h.elim
  | _ => cases atWork

/-! ## The steps of a poll -/

namespace Poll

variable {p p' : Poll}

/-- What takes no call to the store keeps the job safe. -/
theorem watched_silent (h : p.Watched s config now) (step : (p.next config now).Silent now p') :
    p'.Watched s config now := by
  obtain ⟨presence, phase⟩ := p
  obtain ⟨hphase, hrunning⟩ := h
  cases phase with
  | limiting job answer =>
    cases step with
    | arm _ _ ticket => exact ⟨⟨hphase, Time.le_add now _⟩, hrunning⟩
  | scheduling job run due =>
    cases step with
    | arm _ _ ticket => exact ⟨hphase, hrunning⟩
  | executing job run report =>
    cases step with
    | sleep _ _ rung =>
      refine ⟨⟨hphase.1, hphase.2, ?_⟩, hrunning⟩
      simpa using rung
  | rousing job run report =>
    obtain ⟨hvouched, hwaits, hrung⟩ := hphase
    cases step with
    | toss _ reportFirst =>
      dsimp only
      split
      · exact ⟨⟨report.due, hvouched, hwaits⟩, hrunning⟩
      · -- the report is due, and it is not overdue, so it is due now
        rename_i goesOn
        have hdue : report.isDue now = true := report_isDue hrung goesOn
        have hnow : now = report.due := Time.le_antisymm hwaits (of_decide_eq_true hdue)
        exact ⟨⟨hvouched, hnow⟩, hrunning⟩
  | pausing job result round => exact hphase.elim
  | paused job result round alarm => exact hphase.elim
  | dequeuing =>
    cases step with
    | dequeue _ _ id => cases id <;> exact watched_of_idle rfl
  | leasing id =>
    cases step with
    | queue _ _ v => cases v <;> exact watched_of_idle rfl
  | dropping id result =>
    cases step with
    | queue _ _ v => exact watched_of_idle rfl
  | releasing id outcome =>
    cases step with
    | queue _ _ v => exact watched_of_idle rfl
  | _ => cases step

/-- Handing the job over keeps it safe. -/
theorem watched_handed (h : p.Watched s config now) {job : Job} {pace limit : Span}
    {k : Answer → Poll} (step : p.next config now = .execute job pace limit k) (answer : Answer) :
    (k answer).Watched s config now := by
  obtain ⟨hphase, hnext⟩ := next_eq_execute step
  obtain ⟨presence, phase⟩ := p
  obtain rfl : phase = .handing job := hphase
  rw [hnext answer]
  exact ⟨h.phase, h.running⟩

theorem running_noted (presence : Presence) (now : Time) (r : Except StoreError Unit) :
    (presence.noted now r).running = presence.running := by
  cases r <;> rfl

/-- A store in memory takes a commit or says that the attempt is not running. -/
theorem commitReply_perform (s : Store) (m : Moment) (worker : WorkerId) (job : Job)
    (result : Except ProviderError Usage) :
    commitReply worker job result (s.perform m (commitCall worker job result)).1 = .ok () ∨
      commitReply worker job result (s.perform m (commitCall worker job result)).1 =
        .error (Store.notRunning job.id job.attempt) := by
  cases result with
  | ok usage =>
    show (s.settle (s.succeed job.id job.attempt worker usage m.now)).1 = _ ∨
      (s.settle (s.succeed job.id job.attempt worker usage m.now)).1 = _
    cases hj : s.running? job.id job.attempt <;> simp [Store.succeed, Store.settle, hj]
  | error e =>
    show (s.settle (s.fail job.id job.attempt worker e.code e.message m.now)).1 = _ ∨
      (s.settle (s.fail job.id job.attempt worker e.code e.message m.now)).1 = _
    cases hj : s.running? job.id job.attempt <;> simp [Store.fail, Store.settle, hj]

/-- A lane that reports the job it runs vouches for it. -/
theorem vouched_beat {presence : Presence} {id : JobId} (runs : presence.running = some id)
    {m : Moment} (since : Time.earliest < m.now) :
    (s.perform m (presence.beat config)).2.Vouched config.worker id config.heartbeatPeriod
      (m.now + config.heartbeatPeriod) := by
  unfold Presence.beat
  rw [runs]
  exact Store.vouched_beat m presence.state config.concurrency since config.heartbeatPeriod

/-- What a call to the store answers keeps the job safe: a start is an instant at which no time has
passed yet, and with every report the lane vouches for the job anew. -/
theorem watched_dealt {call : StoreCall} {k : call.Reply → Poll} (h : p.Watched s config now)
    (step : p.next config now = .store call k) (hs : s.Orderly) (since : Time.earliest < now)
    (m : Moment) (timely : m.now = now) :
    (k (s.perform m call).1).Watched (s.perform m call).2 config now := by
  subst timely
  obtain ⟨presence, phase⟩ := p
  obtain ⟨hphase, hrunning⟩ := h
  cases phase with
  | starting id =>
    cases step
    rcases hreply : (s.perform m (.start id config.worker)).1 with e | reply
    · exact watched_of_idle rfl
    · cases reply with
      | none => exact watched_of_idle rfl
      | some job =>
        obtain ⟨hid, hstarted⟩ := Store.started_perform hs m hreply
        refine ⟨hstarted, fun j hj => ?_⟩
        cases hj
        exact congrArg some hid.symm
  | announcing job =>
    cases step
    have hruns : presence.running = some job.id := hrunning job rfl
    refine ⟨vouched_beat hruns since, fun j hj => ?_⟩
    cases hj
    exact (running_noted presence m.now _).trans hruns
  | beating job run due =>
    cases step
    have hruns : presence.running = some job.id := hrunning job rfl
    obtain ⟨-, rfl⟩ := hphase
    refine ⟨⟨vouched_beat hruns since, Time.le_add _ _⟩, fun j hj => ?_⟩
    cases hj
    exact (running_noted presence m.now _).trans hruns
  | committing job result round =>
    cases step
    apply watched_of_idle
    show (afterCommit config job result round (commitReply config.worker job result
      (s.perform m (commitCall config.worker job result)).1)).job? = none
    rcases commitReply_perform s m config.worker job result with hreply | hreply
    · rw [hreply]
      rfl
    · rw [hreply]
      rfl
  | retiring outcome =>
    cases step
    exact watched_of_idle rfl
  | _ => cases step

end Poll

/-! ## The steps of a lane -/

namespace Lane

variable {l l' : Lane}

theorem watched_silent (h : l.Watched s now) (step : (l.next now).Silent now l') :
    l'.Watched s now := by
  obtain ⟨config, presence, seen, stage⟩ := l
  cases stage with
  | deciding =>
    cases step with
    | look _ b =>
      apply watched_of_idle
      cases b with
      | true => rfl
      | false =>
        dsimp only
        split <;> rfl
  | polling phase =>
    rcases Next.silent_lift step with ⟨p, hp, rfl⟩ | ⟨⟨result, _⟩, -, hend⟩
    · exact Poll.watched_silent h hp
    · apply watched_of_idle
      cases hend with
      | go _ => cases result <;> rfl
  | backingOff =>
    cases step with
    | arm _ _ ticket => trivial
  | paused alarm =>
    cases step with
    | await _ _ _ news => trivial
  | _ => cases step

theorem watched_handed (h : l.Watched s now) {job : Job} {pace limit : Span} {k : Answer → Lane}
    (step : l.next now = .execute job pace limit k) (answer : Answer) :
    (k answer).Watched s now := by
  obtain ⟨hstage, hnext⟩ := next_eq_execute step
  rw [hnext answer]
  unfold Watched at h
  rw [hstage] at h
  exact ⟨h.phase, h.running⟩

theorem watched_dealt {call : StoreCall} {k : call.Reply → Lane} (h : l.Watched s now)
    (step : l.next now = .store call k) (hs : s.Orderly) (since : Time.earliest < now)
    (m : Moment) (timely : m.now = now) :
    (k (s.perform m call).1).Watched (s.perform m call).2 now := by
  obtain ⟨config, presence, seen, stage⟩ := l
  cases stage with
  | polling phase =>
    rcases Next.lift_eq_store step with ⟨k', hk, rfl⟩ | ⟨r, -, hr⟩
    · exact Poll.watched_dealt h hk hs since m timely
    · cases hr
  | deciding => cases step
  | backingOff => cases step
  | paused alarm => cases step
  | gone => cases step
  | _ =>
    cases step
    exact watched_of_idle rfl

/-- While time passes and the lane sleeps on, the next report is not overdue. -/
theorem watched_wait (h : l.Watched s now) (atWork : l.job?.isSome = true) {span : Span}
    (sleeps : (l.next now).sleepsUntil (now + span) = true) : l.Watched s (now + span) := by
  obtain ⟨config, presence, seen, stage⟩ := l
  cases stage with
  | polling phase =>
    cases phase with
    | executing job run report =>
      obtain ⟨hphase, hrunning⟩ := h
      have hdue : now + span ≤ run.ends.due ∧ now + span ≤ report.due := by
        simpa [next, Poll.next, Next.lift, Next.sleepsUntil] using sleeps
      exact ⟨⟨hphase.1, hdue.2⟩, hrunning⟩
    | paused job result round alarm => exact h.phase.elim
    -- in no other phase of a poll does the lane sleep
    | _ => cases sleeps
  | _ => cases atWork

end Lane

end Watch

/-! ## The steps of an agent -/

namespace Does

variable {i : Nat} {now : Time} {s s' : Store} {a a' : Agent} {notes : List Note} {l : Lane}

theorem orderly (h : Does i now s a notes s' a') (hs : s.Orderly) : s'.Orderly := by
  cases h with
  | dealt step m timely => exact hs.perform m _
  | _ => exact hs

/-- What a lane does keeps its own job safe. -/
theorem watched_own (h : Does i now s (.lane l) notes s' a') (hs : s.Orderly)
    (since : Time.earliest < now) (watched : l.Watched s now) :
    ∃ l', a' = .lane l' ∧ l'.Watched s' now := by
  cases h with
  | dealt step m timely =>
    rcases Next.lift_eq_store step with ⟨k', hk, rfl⟩ | ⟨_, -, hend⟩
    · exact ⟨_, rfl, Lane.watched_dealt watched hk hs since m timely⟩
    · cases hend
  | handed step answer =>
    rcases Next.lift_eq_execute step with ⟨k', hk, rfl⟩ | ⟨_, -, hend⟩
    · exact ⟨_, rfl, Lane.watched_handed watched hk answer⟩
    · cases hend
  | silent step going | returned step ended =>
    rcases Next.silent_lift step with ⟨l', hl', rfl⟩ | ⟨_, -, hend⟩
    · exact ⟨l', rfl, Lane.watched_silent watched hl'⟩
    · cases hend

/-- What another agent does keeps the job of a lane safe, unless it reports under the lane's
name. -/
theorem watched_other (h : Does i now s a notes s' a') (hs : s.Orderly) (watched : l.Watched s now)
    (other : l.job? = none ∨ (a.next now).reporter ≠ some l.config.worker) :
    l.Watched s' now := by
  rcases other with idle | other
  · exact Lane.watched_of_idle idle
  cases h with
  | @dealt call k step m timely =>
    subst timely
    rw [step] at other
    obtain ⟨config, presence, seen, stage⟩ := l
    cases stage with
    | polling phase =>
      refine ⟨watched.phase.mono (fun id seen => ?_) (fun id => ?_), watched.running⟩
      · exact Store.reports_perform hs m other
      · exact Store.startedAt_perform hs m call
    | _ => trivial
  | _ => exact watched

end Does

end Dispatch
