import Dispatch.Proofs.Stack.Serial

/-!
# What is begun can be ended

Nothing is ever in the way of a machine that works alone: whatever a poll or a pass has come to, it
can be brought to its end (`Poll.canEnd`, `Pass.canEnd`).  So the steps of a serial history are
there to be made, and `serial_line` says what each of them finds and does.
-/

namespace Dispatch

/-- Some time or other an alarm has gone off. -/
theorem Alarm.exists_isDue (a : Alarm) (now : Time) :
    ∃ span : Span, a.isDue (now + span) = true := by
  refine ⟨⟨(a.due.nanos - now.nanos).toNat⟩, decide_eq_true ?_⟩
  show a.due.nanos ≤ now.nanos + ((a.due.nanos - now.nanos).toNat : Int)
  omega

open Stack

/-! ## Polls -/

namespace Poll

variable {config : WorkerConfig} {x : Stack} {p p' : Poll} {presence : Presence} {job : Job}
  {result : Except ProviderError Usage} {run : Execution} {s : Store} {q : LeaseQueue}

/-- The poll can be brought to its end. -/
def CanEnd (config : WorkerConfig) (x : Stack) (p : Poll) : Prop :=
  ∃ y last result, Works (next config) x p y ⟨last, .finished result⟩

theorem CanEnd.move (step : (p.next config x.now).Moves x.now x.store x.queue s q p')
    (h : CanEnd config { x with store := s, queue := q } p') : CanEnd config x p := by
  obtain ⟨y, last, result, works⟩ := h
  exact ⟨y, last, result, .move step works⟩

theorem CanEnd.wait (span : Span) (h : CanEnd config { x with now := x.now + span } p) :
    CanEnd config x p := by
  obtain ⟨y, last, result, works⟩ := h
  exact ⟨y, last, result, .wait span works⟩

theorem canEnd_finished (x : Stack) (last : Presence) (result : PollResult) :
    CanEnd config x ⟨last, .finished result⟩ :=
  ⟨x, last, result, .rest _ _⟩

theorem canEnd_retiring (x : Stack) (presence : Presence) (outcome : PollOutcome) :
    CanEnd config x ⟨presence, .retiring outcome⟩ :=
  .move (.store _ _ ⟨x.now, default⟩ rfl) (canEnd_finished ..)

theorem canEnd_releasing (x : Stack) (presence : Presence) (id : JobId) (outcome : PollOutcome) :
    CanEnd config x ⟨presence, .releasing id outcome⟩ :=
  .move (.queue _ _) (canEnd_retiring ..)

/-- After a try to commit the lease is given back, or there is a next try left. -/
theorem afterCommit_cases (config : WorkerConfig) (job : Job) (result : Except ProviderError Usage)
    (round : Nat) (reply : Except StoreError Unit) :
    (∃ outcome, afterCommit config job result round reply = .releasing job.id outcome) ∨
      (round < config.commitTries ∧
        afterCommit config job result round reply = .pausing job result round) := by
  unfold afterCommit
  split
  · exact .inl ⟨_, rfl⟩
  · exact .inl ⟨_, rfl⟩
  · split
    · rename_i again
      exact .inr ⟨again.1, rfl⟩
    · exact .inl ⟨_, rfl⟩

/-- A commit is tried so many times at most. -/
theorem canEnd_committing (x : Stack) (presence : Presence) (job : Job)
    (result : Except ProviderError Usage) (round : Nat) :
    CanEnd config x ⟨presence, .committing job result round⟩ := by
  -- on the tries that are left
  induction hleft : config.commitTries - round using Nat.strongRecOn generalizing x round with
  | ind left ih =>
    refine .move (.store _ _ ⟨x.now, default⟩ rfl) ?_
    dsimp only
    rcases afterCommit_cases config job result round _ with ⟨outcome, hnext⟩ | ⟨again, hnext⟩
    · rw [hnext]
      exact canEnd_releasing ..
    · rw [hnext]
      exact .move (.arm _ _ 0) (.move (.sleep _ _) (ih _ (by omega) _ (round + 1) rfl))

/-- A poll whose run is over can go on to commit. -/
theorem canEnd_roused {report : Alarm} (due : run.ends.isDue x.now = true) :
    CanEnd config x ⟨presence, .rousing job run report⟩ := by
  refine .move (.toss _ false) ?_
  simp only [due, Bool.false_and, Bool.not_false, Bool.and_self, if_true]
  exact canEnd_committing ..

/-- An execution ends some time or other. -/
theorem canEnd_executing (x : Stack) (presence : Presence) (job : Job) (run : Execution)
    (report : Alarm) : CanEnd config x ⟨presence, .executing job run report⟩ := by
  obtain ⟨span, hends⟩ := run.ends.exists_isDue x.now
  exact .wait span (.move (.sleep _ _) (canEnd_roused hends))

theorem canEnd_scheduling (x : Stack) (presence : Presence) (job : Job) (run : Execution)
    (due : Time) : CanEnd config x ⟨presence, .scheduling job run due⟩ :=
  .move (.arm _ _ 0) (canEnd_executing ..)

theorem canEnd_announcing (x : Stack) (presence : Presence) (job : Job) :
    CanEnd config x ⟨presence, .announcing job⟩ :=
  .move (.store _ _ ⟨x.now, default⟩ rfl) (.move (.execute _ _ _ _ {}) (.move (.arm _ _ 0)
    (canEnd_scheduling ..)))

theorem canEnd_beating (x : Stack) (presence : Presence) (job : Job) (run : Execution)
    (due : Time) : CanEnd config x ⟨presence, .beating job run due⟩ :=
  .move (.store _ _ ⟨x.now, default⟩ rfl) (canEnd_scheduling ..)

theorem canEnd_starting (x : Stack) (presence : Presence) (id : JobId) :
    CanEnd config x ⟨presence, .starting id⟩ := by
  refine .move (.store _ _ ⟨x.now, default⟩ rfl) ?_
  generalize (x.store.perform ⟨x.now, default⟩ (.start id config.worker)).1 = reply
  rcases reply with e | _ | job
  · exact .move (.queue _ _) (canEnd_finished ..)
  · exact .move (.queue _ _) (canEnd_finished ..)
  · exact canEnd_announcing ..

theorem canEnd_leasing (x : Stack) (presence : Presence) (id : JobId) :
    CanEnd config x ⟨presence, .leasing id⟩ := by
  refine .move (.queue _ _) ?_
  generalize (x.queue.perform x.now (.acquire id config.worker)).1 = reply
  rcases reply with e | _ | _
  · exact canEnd_finished ..
  · exact canEnd_finished ..
  · exact canEnd_starting ..

/-- Whatever a poll has come to, it can be brought to its end. -/
theorem canEnd (config : WorkerConfig) (x : Stack) (p : Poll) : CanEnd config x p := by
  obtain ⟨presence, phase⟩ := p
  cases phase with
  | dequeuing =>
    refine .move (.dequeue _ _) ?_
    generalize x.queue.pop.1 = entry
    cases entry with
    | none => exact canEnd_finished ..
    | some id => exact canEnd_leasing ..
  | leasing id => exact canEnd_leasing ..
  | starting id => exact canEnd_starting ..
  | dropping id result => exact .move (.queue _ _) (canEnd_finished ..)
  | announcing job => exact canEnd_announcing ..
  | handing job => exact .move (.execute _ _ _ _ {}) (.move (.arm _ _ 0) (canEnd_scheduling ..))
  | limiting job answer => exact .move (.arm _ _ 0) (canEnd_scheduling ..)
  | scheduling job run due => exact canEnd_scheduling ..
  | executing job run report => exact canEnd_executing ..
  | rousing job run report =>
    refine .move (.toss _ false) ?_
    dsimp only
    split
    · exact canEnd_committing ..
    · exact canEnd_beating ..
  | beating job run due => exact canEnd_beating ..
  | committing job result round => exact canEnd_committing ..
  | pausing job result round =>
    exact .move (.arm _ _ 0) (.move (.sleep _ _) (canEnd_committing ..))
  | paused job result round alarm => exact .move (.sleep _ _) (canEnd_committing ..)
  | releasing id outcome => exact canEnd_releasing ..
  | retiring outcome => exact canEnd_retiring ..
  | finished result => exact canEnd_finished ..

end Poll

/-! ## Passes -/

namespace Pass

variable {config : ReconcilerConfig} {x : Stack} {p p' : Pass} {s : Store} {q : LeaseQueue}

/-- The pass can be brought to its end. -/
def CanEnd (config : ReconcilerConfig) (x : Stack) (p : Pass) : Prop :=
  ∃ y orphans result, Works (next config) x p y ⟨orphans, .finished result⟩

theorem CanEnd.move (step : (p.next config x.now).Moves x.now x.store x.queue s q p')
    (h : CanEnd config { x with store := s, queue := q } p') : CanEnd config x p := by
  obtain ⟨y, orphans, result, works⟩ := h
  exact ⟨y, orphans, result, .move step works⟩

theorem canEnd_swept (x : Stack) (orphans : Nat) (filter : Filter) (added : Nat)
    (result : Except JobError Nat) :
    CanEnd config x ⟨orphans, .sweeping ⟨filter, added, .finished result⟩⟩ :=
  .move (.go _) ⟨x, _, _, .rest _ _⟩

/-- A sweep comes to the end of a page on which nobody is missing. -/
theorem canEnd_check {orphans : Nat} {w : Sweep} {page rest : List Job}
    (present : ∀ j ∈ rest, j.id ∈ x.queue.ready)
    (h : CanEnd config x ⟨orphans, .sweeping (w.pageDone page)⟩) :
    CanEnd config x ⟨orphans, .sweeping (w.check page rest)⟩ := by
  induction rest with
  | nil => exact h
  | cons job rest ih =>
    have hcontains : x.queue.contains job.id = true :=
      decide_eq_true (present job List.mem_cons_self)
    refine .move (.queue _ _) ?_
    dsimp only [LeaseQueue.perform]
    rw [hcontains]
    exact ih fun j hj => present j (List.mem_cons_of_mem job hj)

/-- From any place on a sweep comes to the end of its listing. -/
theorem canEnd_listing (line : InLine x.store x.queue) (cutoff : Time) (batch : Nat)
    (place : Option ListKey) (orphans added : Nat) :
    CanEnd config x ⟨orphans, .sweeping ⟨Sweep.filterAt cutoff batch place, added, .listing⟩⟩ := by
  have distinct := line.orderly.nodup_ids
  -- on what the listing still has
  induction hn : ((Sweep.filterAt cutoff batch place).listing x.store.jobs.rows).length
    using Nat.strongRecOn generalizing place with
  | ind n ih =>
    obtain ⟨back, hsplit, -⟩ :=
      (Sweep.filterAt cutoff batch place).listing_eq_page x.store.jobs.rows
    generalize hpage : (Sweep.filterAt cutoff batch place).page x.store.jobs.rows = page at hsplit
    have hlist := Sweep.list_filterAt x.store cutoff batch place
    rw [hpage] at hlist
    refine .move (.store _ _ ⟨x.now, default⟩ rfl) ?_
    dsimp only [Store.perform]
    rw [hlist]
    refine canEnd_check (fun j hj => (line.waits j.id).2 ?_) ?_
    · obtain ⟨hrow, ⟨hqueued, -⟩, -⟩ := Sweep.mem_page_filterAt (hpage ▸ hj)
      exact ⟨j, line.orderly.get?_of_mem hrow, hqueued⟩
    · rcases Sweep.pageDone_cases (w := ⟨Sweep.filterAt cutoff batch place, added, .listing⟩)
        rfl page with ⟨init, last, rfl, -, hnext⟩ | ⟨-, hnext⟩
      · rw [hnext]
        -- a page that sends the sweep on holds a job, so less is left behind it
        have hbehind := Sweep.listing_filterAt_behind distinct hsplit
        have hshorter : back.length < n := by
          rw [← hn, hsplit, List.length_append, List.length_append, List.length_singleton]
          omega
        exact ih back.length hshorter (some last.listKey) (congrArg List.length hbehind)
      · rw [hnext]
        exact canEnd_swept ..

theorem canEnd_turning (line : InLine x.store x.queue) (orphans : Nat) :
    CanEnd config x ⟨orphans, .turning⟩ :=
  .move (.go _) (canEnd_listing line _ _ none ..)

/-- A sweep that has found nobody missing goes on to its end. -/
theorem canEnd_sweeping (line : InLine x.store x.queue) (orphans : Nat) {w : Sweep}
    (h : LookingFor x.queue w) : CanEnd config x ⟨orphans, .sweeping w⟩ := by
  obtain ⟨filter, added, phase⟩ := w
  obtain ⟨-, ⟨cutoff, batch, place, hfilter⟩, hphase⟩ := h
  obtain rfl : filter = Sweep.filterAt cutoff batch place := hfilter
  cases phase with
  | listing => exact canEnd_listing line ..
  | checking page rest =>
    cases rest with
    | nil => exact .move (.go _) ⟨x, _, _, .rest _ _⟩
    | cons job rest =>
      refine canEnd_check (w := ⟨_, added, .checking page (job :: rest)⟩) hphase ?_
      rcases Sweep.pageDone_cases (w := ⟨_, added, .checking page (job :: rest)⟩) rfl page with
        ⟨init, last, -, -, hnext⟩ | ⟨-, hnext⟩
      · rw [hnext]
        exact canEnd_listing line cutoff batch (some last.listKey) ..
      · rw [hnext]
        exact canEnd_swept ..
  | adding page rest => exact hphase.elim
  | finished result => exact canEnd_swept ..

/-- Whatever a pass has come to on the line, it can be brought to its end. -/
theorem canEnd (line : InLine x.store x.queue) {s₀ : Store} {q₀ : LeaseQueue}
    (h : Looking s₀ q₀ x.store x.queue p) : CanEnd config x p := by
  obtain ⟨orphans, phase⟩ := p
  obtain ⟨-, -, -, h⟩ := h
  cases phase with
  | requeuing =>
    refine .move (.store _ _ ⟨x.now, default⟩ rfl) ?_
    dsimp only [Store.perform]
    rw [line.requeueOrphaned]
    exact canEnd_turning line _
  | freeing rest => exact h.elim
  | enqueuing rest => exact h.elim
  | turning => exact canEnd_turning line _
  | sweeping w => exact canEnd_sweeping line _ h
  | finished result => exact ⟨x, _, _, .rest _ _⟩

end Pass

/-! ## The line -/

/-- After every step of a serial history the ready list is the line of the jobs that wait, so what
can be done next is settled.  A poll comes to its end and serves the first of the line, and a pass
comes to its end and has nothing to do. -/
theorem Stack.serial_line {x : Stack} (serial : x.Serial) :
    InLine x.store x.queue ∧ x.queue.ready.Nodup ∧
      (∀ id now, x.queue.liveLease? id now = none) ∧
      (∀ config presence,
        (∀ y p, Works (Poll.next config) x { presence } y p → p.CanEnd config y) ∧
        ∀ y result, Polls config presence x y result → x.Polled y result) ∧
      ∀ config,
        (∀ y p, Works (Pass.next config) x {} y p → p.CanEnd config y) ∧
        ∀ y result, Passes config x y result →
          result = .ok {} ∧ y.store = x.store ∧ y.queue = x.queue := by
  have line := serial.inLine
  refine ⟨line, line.once, fun id now => ?_, fun config presence => ⟨fun y p _ => ?_, ?_⟩,
    fun config => ⟨fun y p works => ?_, ?_⟩⟩
  · rw [LeaseQueue.liveLease?, line.free]
    rfl
  · exact Poll.canEnd config y p
  · exact fun y result polls => (Stack.polled line polls).2
  · have hlooking := works.kept (P := Looking x.store x.queue) (fun h step => h.moves line step)
      ⟨rfl, rfl, rfl, trivial⟩
    refine Pass.canEnd ?_ hlooking
    rw [hlooking.1, hlooking.2.1]
    exact line
  · exact fun y result passes => Stack.passed line passes

namespace Stack

/-- The stack after a request for a new job without a key. -/
def accept (x : Stack) (draft : Draft) (fresh : FreshIds) : Stack :=
  { x with
    store := x.store.register none (Job.queued draft.normalized fresh x.now) x.now
    queue := x.queue.enqueue fresh.job }

theorem runs_accept {x : Stack} {draft : Draft} {fresh : FreshIds} (valid : draft.validate = .ok ())
    (keyless : draft.normalized.claim = none) (unknown : x.store.jobs.get? fresh.job = none) :
    x.Runs (Service.create draft) (x.accept draft fresh)
      (.ok (Job.queued draft.normalized fresh x.now, false)) := by
  have hunknown : x.store.jobs.get? (Job.queued draft.normalized fresh x.now).id = none := unknown
  have hcreated : x.store.create draft fresh x.now = .ok ((Job.queued draft.normalized fresh x.now,
      false), x.store.register none (Job.queued draft.normalized fresh x.now) x.now) := by
    simp [Store.create, valid, keyless, hunknown]
  unfold Runs Service.create
  rw [valid]
  refine .move (.store _ _ ⟨x.now, fresh⟩ rfl) ?_
  dsimp only [Store.perform]
  rw [hcreated]
  exact .move (.queue _ _) (.rest _ _)

/-- Two jobs were created, one after the other. -/
def twoWait : Stack :=
  let draft : Draft := { tenant := "t1", model := "m" }
  (accept { now := ⟨0⟩ } draft (.numbered 0 1)).accept draft (.numbered 0 2)

/-- The one that was created first is the first of the line. -/
theorem serial_line_twoWait :
    twoWait.Serial ∧
      twoWait.queue.ready.reverse = [(FreshIds.numbered 0 1).job, (FreshIds.numbered 0 2).job] ∧
      InLine twoWait.store twoWait.queue := by
  have hopened : Serial { now := ⟨0⟩ } := .opened ⟨0⟩ (.ofSeconds 30)
  have hfirst : Serial (accept { now := ⟨0⟩ } { tenant := "t1", model := "m" } (.numbered 0 1)) :=
    hopened.created (runs_accept (by decide) (by decide) rfl)
  have hserial : twoWait.Serial := hfirst.created (runs_accept (by decide) (by decide)
    ((Table.get?_set ..).trans (if_neg (by decide))))
  exact ⟨hserial, rfl, (serial_line hserial).1⟩

end Stack

end Dispatch
