import Dispatch.Proofs.Floor.Outcome
import Dispatch.Proofs.Reconciler.Page
import Dispatch.Proofs.Stack.Line

/-!
# Polls and passes on the line

A poll that nobody steps into serves the first of the line: it starts the job that was called before
all the others that wait, and it sees the job to its end (`Serving`).  A pass finds nobody who runs
and nobody who is missing, so it leaves everything as it is (`Looking`).  With the calls of the
service this is all that happens in a serial history, so the ready list is the line after each of
its steps (`Stack.Serial.inLine`).
-/

namespace Dispatch

/-! ## Polls -/

/-- The queue after the first of the line was taken off the ready list, with no lease on anybody
else. -/
structure LeaseQueue.Taken (q₀ q : LeaseQueue) (id : JobId) : Prop where
  ready : q.ready = q₀.ready.dropLast
  others : ∀ other, id ≠ other → q.leases.get? other = none

theorem LeaseQueue.acquire_free {q : LeaseQueue} {id : JobId} (free : q.leases.get? id = none)
    (worker : WorkerId) (now : Time) :
    q.acquire id worker now =
      (true, { q with leases := q.leases.set id ⟨worker, now + q.ttl⟩ }) := by
  simp [acquire, liveLease?, free]

section Serving

variable (s₀ : Store) (q₀ : LeaseQueue) (id : JobId) (j₀ : Job)

/-- A poll has brought the job to an end. -/
def Served (s : Store) (outcome : PollOutcome) : Prop :=
  ∃ j, s₀.Apart s id j ∧ j.attempt = j₀.attempt + 1 ∧
    ((outcome = .succeeded id ∧ j.status = .succeeded) ∨
      ∃ code, outcome = .failed id code ∧ j.status = .failed)

/-- A poll is at work on the job. -/
structure AtWork (s : Store) (q : LeaseQueue) (j : Job) : Prop where
  mine : j.id = id
  runs : j.status = .running
  counted : j.attempt = j₀.attempt + 1
  apart : s₀.Apart s id j
  taken : q₀.Taken q id

/-- What a poll that nobody steps into has done so far, where the job is the first of the line. -/
def Serving (s : Store) (q : LeaseQueue) (p : Poll) : Prop :=
  match p.phase with
  | .dequeuing => s = s₀ ∧ q = q₀
  | .leasing asked => asked = id ∧ s = s₀ ∧ q = q₀.pop.2
  | .starting asked => asked = id ∧ s = s₀ ∧ q₀.Taken q id
  | .announcing job | .handing job | .limiting job _ | .scheduling job _ _ | .executing job _ _
  | .rousing job _ _ | .beating job _ _ | .committing job _ _ => AtWork s₀ q₀ id j₀ s q job
  | .releasing asked outcome => asked = id ∧ Served s₀ id j₀ s outcome ∧ q₀.Taken q id
  | .retiring outcome => Served s₀ id j₀ s outcome ∧ q.ready = q₀.ready.dropLast ∧
    ∀ other, q.leases.get? other = none
  | .finished result => ∃ outcome, result = .ok outcome ∧ Served s₀ id j₀ s outcome ∧
    q.ready = q₀.ready.dropLast ∧ ∀ other, q.leases.get? other = none
  | .dropping _ _ | .pausing _ _ _ | .paused _ _ _ _ => False

end Serving

namespace Serving

variable {s₀ s s' : Store} {q₀ q q' : LeaseQueue} {id : JobId} {j₀ : Job} {p p' : Poll}
  {config : WorkerConfig} {now : Time}

theorem beat {s : Store} {outcome : PollOutcome} (h : Served s₀ id j₀ s outcome) (worker : WorkerId)
    (state : WorkerState) (running : Option JobId) (concurrency : Int) (now : Time) :
    Served s₀ id j₀ (s.beat worker state running concurrency now) outcome := by
  obtain ⟨j, apart, hrest⟩ := h
  exact ⟨j, apart.beat worker state running concurrency now, hrest⟩

/-- Nobody has settled the attempt meanwhile, so the commit is taken. -/
theorem commit {job : Job} (h : AtWork s₀ q₀ id j₀ s q job) (worker : WorkerId)
    (result : Except ProviderError Usage) (m : Moment) :
    Poll.commitReply worker job result (s.perform m (Poll.commitCall worker job result)).1 =
        .ok () ∧
      Served s₀ id j₀ (s.perform m (Poll.commitCall worker job result)).2
        (Poll.committed job result) := by
  obtain ⟨rfl, runs, counted, apart, -⟩ := h
  have hrunning : s.running? job.id job.attempt = some job :=
    Store.running?_eq_some.2 ⟨apart.row, runs, rfl⟩
  cases result with
  | ok usage =>
    obtain ⟨t, htaken⟩ : ∃ t, s.succeed job.id job.attempt worker usage m.now = .ok ((), t) := by
      simp [Store.succeed, hrunning]
    obtain ⟨after, turn, hid, hattempt⟩ := Store.succeed_turn apart.orderly htaken
    show Poll.commitReply worker job (.ok usage) (s.settle _).1 = _ ∧ Served _ _ _ (s.settle _).2 _
    rw [htaken]
    exact ⟨rfl, after, apart.turn turn hid rfl, hattempt.trans counted,
      .inl ⟨rfl, turn.status_eq⟩⟩
  | error e =>
    obtain ⟨t, htaken⟩ : ∃ t, s.fail job.id job.attempt worker e.code e.message m.now =
        .ok ((), t) := by
      simp [Store.fail, hrunning]
    obtain ⟨after, turn, hid, hattempt⟩ := Store.fail_turn apart.orderly htaken
    show Poll.commitReply worker job (.error e) (s.settle _).1 = _ ∧ Served _ _ _ (s.settle _).2 _
    rw [htaken]
    exact ⟨rfl, after, apart.turn turn hid rfl, hattempt.trans counted,
      .inr ⟨e.code, rfl, turn.status_eq⟩⟩

/-- Each move of a poll that nobody steps into brings the first of the line on. -/
theorem moves (line : InLine s₀ q₀) (first : q₀.ready.getLast? = some id)
    (stored : s₀.jobs.get? id = some j₀) (waiting : j₀.status = .queued)
    (h : Serving s₀ q₀ id j₀ s q p) (step : (p.next config now).Moves now s q s' q' p') :
    Serving s₀ q₀ id j₀ s' q' p' := by
  obtain ⟨presence, phase⟩ := p
  cases phase with
  | dequeuing =>
    obtain ⟨rfl, rfl⟩ := h
    cases step with
    | dequeue _ _ =>
      rw [show q.pop.1 = some id from first]
      exact ⟨rfl, rfl, rfl⟩
  | leasing asked =>
    obtain ⟨rfl, rfl, rfl⟩ := h
    cases step with
    | queue _ _ =>
      have hfree : q₀.pop.2.leases.get? asked = none := line.free asked
      dsimp only [LeaseQueue.perform]
      rw [LeaseQueue.acquire_free hfree]
      refine ⟨rfl, rfl, rfl, fun other hother => ?_⟩
      exact (Table.get?_set ..).trans ((if_neg hother).trans (line.free other))
  | starting asked =>
    obtain ⟨rfl, rfl, taken⟩ := h
    cases step with
    | store _ _ m timely =>
      -- a job that waits is started, so this is not where the entry is dropped
      rcases Store.start_turn line.orderly asked config.worker m.now with
        ⟨-, idle⟩ | ⟨job, t, hstarted, rfl, turn⟩
      · exact absurd waiting (idle j₀ stored)
      · have hcounted := turn.counted
        rw [stored] at hcounted
        dsimp only [Store.perform]
        rw [hstarted]
        exact ⟨rfl, turn.status_eq, hcounted, .of_turn line.orderly line.called turn rfl, taken⟩
  | announcing job =>
    obtain ⟨mine, runs, counted, apart, taken⟩ := h
    cases step with
    | store _ _ m timely => exact ⟨mine, runs, counted, apart.beat .., taken⟩
  | beating job run due =>
    obtain ⟨mine, runs, counted, apart, taken⟩ := h
    cases step with
    | store _ _ m timely => exact ⟨mine, runs, counted, apart.beat .., taken⟩
  | committing job result round =>
    cases step with
    | store _ _ m timely =>
      obtain ⟨htaken, served⟩ := commit h config.worker result m
      dsimp only
      rw [htaken]
      exact ⟨h.mine, h.mine ▸ served, h.taken⟩
  | releasing asked outcome =>
    obtain ⟨rfl, served, taken⟩ := h
    cases step with
    | queue _ _ =>
      refine ⟨served, taken.ready, fun other => (Table.get?_erase ..).trans ?_⟩
      split
      · rfl
      · exact taken.others other ‹_›
  | retiring outcome =>
    obtain ⟨served, ready, free⟩ := h
    cases step with
    | store _ _ m timely => exact ⟨outcome, rfl, beat served .., ready, free⟩
  | rousing job run report =>
    cases step with
    | toss _ reportFirst =>
      dsimp only
      split <;> exact h
  | handing job | limiting job answer | scheduling job run due | executing job run report =>
    cases step
    exact h
  -- nobody comes in between, so no entry is dropped and no commit has to be tried again
  | dropping asked result => exact h.elim
  | pausing job result round => exact h.elim
  | paused job result round alarm => exact h.elim
  | finished result => cases step

end Serving

/-- What a poll has done so far where nobody waits. -/
def Idling (s₀ : Store) (q₀ : LeaseQueue) (s : Store) (q : LeaseQueue) (p : Poll) : Prop :=
  s = s₀ ∧ q = q₀ ∧ (p.phase = .dequeuing ∨ p.phase = .finished (.ok .idle))

theorem Idling.moves {s₀ s s' : Store} {q₀ q q' : LeaseQueue} {p p' : Poll} {config : WorkerConfig}
    {now : Time} (nobody : q₀.ready = []) (h : Idling s₀ q₀ s q p)
    (step : (p.next config now).Moves now s q s' q' p') : Idling s₀ q₀ s' q' p' := by
  obtain ⟨rfl, rfl, hphase⟩ := h
  obtain ⟨presence, phase⟩ := p
  rcases hphase with rfl | rfl
  · have hpop : q.pop = (none, q) := by
      obtain ⟨ready, leases, ttl⟩ := q
      cases nobody
      rfl
    cases step with
    | dequeue _ _ =>
      rw [hpop]
      exact ⟨rfl, rfl, .inr rfl⟩
  · cases step

/-! ## Passes -/

section Looking

variable {s₀ s s' : Store} {q₀ q q' : LeaseQueue} {config : ReconcilerConfig} {now : Time}

/-- What a sweep has found so far where nobody is missing. -/
def LookingFor (q : LeaseQueue) (w : Sweep) : Prop :=
  w.added = 0 ∧ (∃ cutoff batch place, w.filter = Sweep.filterAt cutoff batch place) ∧
    match w.phase with
    | .listing => True
    | .checking _ rest => ∀ j ∈ rest, j.id ∈ q.ready
    | .adding _ _ => False
    | .finished result => result = .ok 0

/-- What a pass has done so far where nobody runs and nobody is missing. -/
def Looking (s₀ : Store) (q₀ : LeaseQueue) (s : Store) (q : LeaseQueue) (p : Pass) : Prop :=
  s = s₀ ∧ q = q₀ ∧ p.orphans = 0 ∧
    match p.phase with
    | .requeuing | .turning => True
    | .freeing _ | .enqueuing _ => False
    | .sweeping w => LookingFor q w
    | .finished result => result = .ok {}

theorem LookingFor.pageDone {w : Sweep} (h : LookingFor q w) (page : List Job) :
    LookingFor q (w.pageDone page) := by
  obtain ⟨hadded, ⟨cutoff, batch, place, hfilter⟩, -⟩ := h
  rcases w.pageDone_cases hfilter page with ⟨init, last, -, -, hnext⟩ | ⟨-, hnext⟩
  · rw [hnext]
    exact ⟨hadded, ⟨cutoff, batch, some last.listKey, rfl⟩, trivial⟩
  · rw [hnext]
    exact ⟨hadded, ⟨cutoff, batch, place, rfl⟩, congrArg Except.ok hadded⟩

theorem LookingFor.check {w : Sweep} (h : LookingFor q w) (page : List Job) {rest : List Job}
    (present : ∀ j ∈ rest, j.id ∈ q.ready) : LookingFor q (w.check page rest) := by
  cases rest with
  | nil => exact h.pageDone page
  | cons job rest => exact ⟨h.1, h.2.1, present⟩

/-- On the line a sweep finds each job of its pages on the ready list. -/
theorem LookingFor.moves (line : InLine s q) {w w' : Sweep} (h : LookingFor q w)
    (step : w.next.Moves now s q s' q' w') : s' = s ∧ q' = q ∧ LookingFor q w' := by
  obtain ⟨filter, added, phase⟩ := w
  cases phase with
  | listing =>
    obtain ⟨-, ⟨cutoff, batch, place, hfilter⟩, -⟩ := id h
    have hfilter : filter = Sweep.filterAt cutoff batch place := hfilter
    have hlist := Sweep.list_filterAt s cutoff batch place
    rw [← hfilter] at hlist
    cases step with
    | store _ _ m timely =>
      refine ⟨rfl, rfl, ?_⟩
      dsimp only [Store.perform]
      rw [hlist]
      -- who is on the page waits, and who waits is on the ready list
      refine h.check _ fun j hj => (line.waits j.id).2 ?_
      rw [hfilter] at hj
      obtain ⟨hrow, ⟨hqueued, -⟩, -⟩ := Sweep.mem_page_filterAt hj
      exact ⟨j, line.orderly.get?_of_mem hrow, hqueued⟩
  | checking page rest =>
    cases rest with
    | nil => cases step
    | cons job rest =>
      obtain ⟨hadded, hplace, hpresent⟩ := id h
      have hcontains : q.contains job.id = true :=
        decide_eq_true (hpresent job List.mem_cons_self)
      cases step with
      | queue _ _ =>
        refine ⟨rfl, rfl, ?_⟩
        dsimp only [LeaseQueue.perform]
        rw [hcontains]
        exact h.check page fun j hj => hpresent j (List.mem_cons_of_mem job hj)
  | adding page rest => exact h.2.2.elim
  | finished result => cases step

theorem LookingFor.ended {w : Sweep} {result : Except JobError Nat} (h : LookingFor q w)
    (hended : w.next = .finished result) : result = .ok 0 := by
  obtain ⟨filter, added, phase⟩ := w
  cases phase with
  | listing => cases hended
  | checking page rest =>
    cases rest with
    | nil =>
      cases hended
      exact congrArg Except.ok (h.pageDone page).1
    | cons job rest => cases hended
  | adding page rest => exact h.2.2.elim
  | finished result =>
    cases hended
    exact h.2.2

/-- Where nobody runs there are no orphans. -/
theorem InLine.requeueOrphaned (line : InLine s q) (staleAfter : Span) (now : Time) :
    s.requeueOrphaned staleAfter now = ([], s) := by
  have hnone : s.orphans (Store.staleCutoff now staleAfter) = [] := by
    refine List.eq_nil_iff_forall_not_mem.2 fun j hj => ?_
    obtain ⟨stored, running⟩ := Store.orphans_stored line.orderly hj
    exact line.still j.id j stored running
  rw [Store.requeueOrphaned, hnone]
  rfl

theorem Looking.moves (line : InLine s₀ q₀) {p p' : Pass} (h : Looking s₀ q₀ s q p)
    (step : (p.next config now).Moves now s q s' q' p') : Looking s₀ q₀ s' q' p' := by
  obtain ⟨orphans, phase⟩ := p
  obtain ⟨rfl, rfl, rfl, h⟩ := h
  cases phase with
  | requeuing =>
    cases step with
    | store _ _ m timely =>
      dsimp only [Store.perform]
      rw [line.requeueOrphaned]
      exact ⟨rfl, rfl, rfl, trivial⟩
  | freeing rest => exact h.elim
  | enqueuing rest => exact h.elim
  | turning =>
    cases step with
    | go _ => exact ⟨rfl, rfl, rfl, rfl, ⟨_, _, none, rfl⟩, trivial⟩
  | sweeping w =>
    rcases Next.moves_lift step with ⟨w', hw, rfl⟩ | ⟨result, hended, hgo⟩
    · obtain ⟨rfl, rfl, hlooking⟩ := LookingFor.moves line h hw
      exact ⟨rfl, rfl, rfl, hlooking⟩
    · cases LookingFor.ended h hended
      cases hgo with
      | go _ => exact ⟨rfl, rfl, rfl, rfl⟩
  | finished result => cases step

end Looking

/-! ## Serial histories -/

namespace Stack

/-- What a poll that nobody steps into does. -/
inductive Polled (x y : Stack) : PollResult → Prop
  /-- Nobody waits, and nothing is done. -/
  | idle (nobody : ∀ id j, x.store.jobs.get? id = some j → j.status ≠ .queued)
      (store : y.store = x.store) (queue : y.queue = x.queue) : Polled x y (.ok .idle)
  /-- The job that was called before all the others that wait makes its next attempt, which ends
  well or badly.  The other jobs stay what they are. -/
  | served {id : JobId} {j k : Job} {outcome : PollOutcome}
      (stored : x.store.jobs.get? id = some j) (waiting : j.status = .queued)
      (first : ∀ other o, x.store.jobs.get? other = some o → o.status = .queued → other ≠ id →
        x.store.CalledBefore id other)
      (after : y.store.jobs.get? id = some k) (started : k.attempt = j.attempt + 1)
      (ended : (outcome = .succeeded id ∧ k.status = .succeeded) ∨
        ∃ code, outcome = .failed id code ∧ k.status = .failed)
      (others : ∀ other, other ≠ id → y.store.jobs.get? other = x.store.jobs.get? other) :
      Polled x y (.ok outcome)

variable {x y : Stack}

/-- A poll keeps the line: the first of it leaves, if there is a first. -/
theorem polled (line : InLine x.store x.queue) {config : WorkerConfig} {presence : Presence}
    {result : PollResult} (polls : Polls config presence x y result) :
    InLine y.store y.queue ∧ x.Polled y result := by
  obtain ⟨last, works⟩ := polls
  rcases List.eq_nil_or_concat x.queue.ready with hnobody | ⟨init, id, hready⟩
  · obtain ⟨hstore, hqueue, hphase⟩ := works.kept (P := Idling x.store x.queue)
      (fun h step => h.moves hnobody step) ⟨rfl, rfl, .inl rfl⟩
    rcases hphase with hphase | hphase
    · cases hphase
    · cases hphase
      refine ⟨by rwa [hstore, hqueue], .idle (fun id j hj hqueued => ?_) hstore hqueue⟩
      have hmem := (line.waits id).2 ⟨j, hj, hqueued⟩
      rw [hnobody] at hmem
      cases hmem
  · rw [List.concat_eq_append] at hready
    have hfirst : x.queue.ready.getLast? = some id := by rw [hready, List.getLast?_concat]
    have hrest : x.queue.ready.dropLast = init := by rw [hready, List.dropLast_concat]
    have hmem : id ∈ x.queue.ready := by simp [hready]
    obtain ⟨j, stored, waiting⟩ := (line.waits id).1 hmem
    obtain ⟨outcome, rfl, ⟨k, apart, started, ended⟩, left, free⟩ :=
      works.kept (P := Serving x.store x.queue id j)
        (fun h step => h.moves line hfirst stored waiting step) ⟨rfl, rfl⟩
    have honce := line.once
    have hordered := line.ordered
    rw [hready] at honce hordered
    rw [List.reverse_append, List.reverse_singleton, List.singleton_append,
      List.pairwise_cons] at hordered
    rw [hrest] at left
    refine ⟨line.leave apart ?_ ?_ (fun other => ?_) free,
      .served stored waiting (fun other o ho hqueued hne => ?_) apart.row started ended
        fun other hne => apart.others other (Ne.symm hne)⟩
    · rcases ended with ⟨-, h⟩ | ⟨_, -, h⟩ <;> rw [h] <;> decide
    · rw [left, hready]
      exact List.sublist_append_left _ _
    · rw [left, hready, List.mem_append, List.mem_singleton]
      have hgone : id ∉ init := fun h => (List.nodup_append.1 honce).2.2 id h id (by simp) rfl
      constructor
      · exact fun h => ⟨fun hid => hgone (hid ▸ h), .inl h⟩
      · rintro ⟨hne, h | h⟩
        · exact h
        · exact absurd h.symm hne
    · have hother := (line.waits other).2 ⟨o, ho, hqueued⟩
      rw [hready, List.mem_append, List.mem_singleton] at hother
      exact hordered.1 other (List.mem_reverse.2 (hother.resolve_right hne))

/-- A pass leaves everything as it is and reports that it did nothing. -/
theorem passed (line : InLine x.store x.queue) {config : ReconcilerConfig}
    {result : Except JobError PassReport} (passes : Passes config x y result) :
    result = .ok {} ∧ y.store = x.store ∧ y.queue = x.queue := by
  obtain ⟨orphans, works⟩ := passes
  obtain ⟨hstore, hqueue, -, hresult⟩ := works.kept (P := Looking x.store x.queue)
    (fun h step => h.moves line step) ⟨rfl, rfl, rfl, trivial⟩
  exact ⟨hresult, hstore, hqueue⟩

/-- After every step of a serial history the ready list is the line. -/
theorem Serial.inLine (serial : x.Serial) : InLine x.store x.queue := by
  induction serial with
  | opened now ttl => exact .opened ttl
  | waited before span ih => exact ih
  | created before runs ih => exact inLine_created ih runs
  | cancelled before runs ih => exact inLine_cancelled ih runs
  | retried before runs ih => exact inLine_retried ih runs
  | polled before polls ih => exact (Stack.polled ih polls).1
  | passed before passes ih =>
    obtain ⟨-, hstore, hqueue⟩ := Stack.passed ih passes
    rwa [hstore, hqueue]

end Stack

end Dispatch
