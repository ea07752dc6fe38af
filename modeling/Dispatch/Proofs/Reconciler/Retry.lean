import Dispatch.Cluster.Fault
import Dispatch.Proofs.Reconciler.Repair
import Dispatch.Proofs.Store.Reclaim
import Dispatch.Proofs.Store.Snapshot

/-!
# Orphans that could not be pushed

A pass pushes every orphan onto the ready list.  If a push fails the pass goes on, since the orphan
waits in the store and the sweep that follows looks for waiting jobs.  A `Trial` runs a pass whose
pushes fail as they are told to, and keeps account of what was pushed and what the sweep looked at.

The two halves of a pass do not select by the same time.  An orphan has *started* at the cutoff or
before, and the sweep looks at the jobs that were *created* before the cutoff.  So the sweep looks
again at every orphan but those that were created and started at the very instant of the cutoff
(`retried_pass`), and these stay off the ready list until the next pass
(`passedOver_startedAtOnce`).
-/

namespace Dispatch

namespace Pass

/-- What the pass has reported, if it has ended well. -/
def report? (p : Pass) : Option PassReport :=
  match p.phase with
  | .finished (.ok report) => some report
  | _ => none

/-- The sweep is at work. -/
def sweeps (p : Pass) : Bool :=
  match p.phase with
  | .sweeping _ => true
  | _ => false

/-- An attempt to put a job on the ready list. -/
structure Push where
  job : JobId
  /-- The sweep made it. -/
  swept : Bool
  failed : Bool
deriving DecidableEq, Repr

/-- A pass that is alone with a store and a queue, and what it has done. -/
structure Trial where
  store : Store
  queue : LeaseQueue
  pass : Pass := {}
  /-- Oldest first. -/
  pushes : List Push := []
  /-- The jobs that the sweep has looked at. -/
  visits : List JobId := []

namespace Trial

/-- Under what conditions a pass is tried. -/
structure Setup where
  config : ReconcilerConfig
  now : Time
  /-- What befalls each push, counted from the first one.  Nothing else fails. -/
  faults : Nat → Option (Fault QueueError)

/-- The instant before which things are too old for the pass. -/
def Setup.cutoff (e : Setup) : Time := Store.staleCutoff e.now e.config.staleAfter

/-- The queue answers a push. -/
def Setup.push (e : Setup) (fault : Option (Fault QueueError)) (id : JobId) (q : LeaseQueue) :
    (QueueCall.enqueue id).Reply × LeaseQueue :=
  Fault.hit fault (·.perform e.now (.enqueue id)) q

/-- The next step of the pass; one that has ended makes none. -/
def step (e : Setup) (x : Trial) : Trial :=
  match x.pass.next e.config e.now with
  | .store c k =>
    let (reply, store) := x.store.perform ⟨e.now, default⟩ c
    { x with store, pass := k reply }
  | .queue (.enqueue id) k =>
    let fault := e.faults x.pushes.length
    let (reply, queue) := e.push fault id x.queue
    { x with queue, pass := k reply, pushes := x.pushes ++ [⟨id, x.pass.sweeps, fault.isSome⟩] }
  | .queue (.contains id) k =>
    { x with pass := k (x.queue.perform e.now (.contains id)).1, visits := x.visits ++ [id] }
  | .queue c k =>
    let (reply, queue) := x.queue.perform e.now c
    { x with queue, pass := k reply }
  | .go pass => { x with pass }
  | _ => x

/-- The trial after so many steps. -/
def run (e : Setup) : Nat → Trial → Trial
  | 0, x => x
  | n + 1, x => run e n (x.step e)

/-- Some steps lead from one to the other. -/
def Leads (e : Setup) (x y : Trial) : Prop := ∃ n, x.run e n = y

variable {e : Setup} {x y z : Trial} {p b : Pass} {w : Sweep} {page rest jobs : List Job}
  {job : Job} {id : JobId} {seen seen' : List JobId}

theorem Leads.refl (x : Trial) : Leads e x x := ⟨0, rfl⟩

theorem Leads.head (h : Leads e (x.step e) y) : Leads e x y := by
  obtain ⟨n, hn⟩ := h
  exact ⟨n + 1, hn⟩

theorem Leads.trans (h : Leads e x y) (h' : Leads e y z) : Leads e x z := by
  obtain ⟨n, rfl⟩ := h
  induction n generalizing x with
  | zero => exact h'
  | succ n ih => exact .head (ih h')

/-- How a trial goes on once the store has returned the orphans: the store stays, no job leaves the
ready list, and the sweep looks at some jobs. -/
structure Onward (seen : List JobId) (x y : Trial) : Prop where
  store : y.store = x.store
  ready : ∀ id ∈ x.queue.ready, id ∈ y.queue.ready
  pushes : ∀ push ∈ x.pushes, push ∈ y.pushes
  visits : y.visits = x.visits ++ seen

theorem Onward.refl (x : Trial) : Onward [] x x :=
  ⟨rfl, fun _ => id, fun _ => id, (List.append_nil _).symm⟩

theorem Onward.trans (h : Onward seen x y) (h' : Onward seen' y z) :
    Onward (seen ++ seen') x z where
  store := h'.store.trans h.store
  ready id hid := h'.ready id (h.ready id hid)
  pushes push hpush := h'.pushes push (h.pushes push hpush)
  visits := by rw [h'.visits, h.visits, List.append_assoc]

/-- The job is on the ready list, or the sweep has failed to push it. -/
def CaredFor (x : Trial) (id : JobId) : Prop :=
  id ∈ x.queue.ready ∨ ⟨id, true, true⟩ ∈ x.pushes

theorem CaredFor.onward (h : x.CaredFor id) (onward : Onward seen x y) : y.CaredFor id :=
  h.imp (onward.ready id) (onward.pushes _)

/-! ## Steps -/

/-- No push takes a job off the ready list, and one that does not fail puts its job there. -/
theorem ready_push (e : Setup) (fault : Option (Fault QueueError)) (id : JobId) (q : LeaseQueue) :
    (∀ other ∈ q.ready, other ∈ (e.push fault id q).2.ready) ∧
      (fault = none → id ∈ (e.push fault id q).2.ready) := by
  cases fault with
  | none => exact ⟨fun other hother => List.mem_cons_of_mem id hother, fun _ => List.mem_cons_self⟩
  | some f =>
    refine ⟨fun other hother => ?_, nofun⟩
    show other ∈ (if f.applied then _ else q).ready
    split
    · exact List.mem_cons_of_mem id hother
    · exact hother

/-- The store answers. -/
theorem step_store {c : StoreCall} {k : c.Reply → Pass} {reply : c.Reply} {s : Store}
    (asks : x.pass.next e.config e.now = .store c k)
    (answered : x.store.perform ⟨e.now, default⟩ c = (reply, s)) (leads : k reply = b) :
    x.step e = { x with store := s, pass := b } := by
  unfold step
  rw [asks]
  dsimp only
  rw [answered, leads]

/-- The sweep looks for a job on the ready list. -/
theorem step_look {k : (QueueCall.contains id).Reply → Pass} {present : Bool}
    (asks : x.pass.next e.config e.now = .queue (.contains id) k)
    (looked : x.queue.contains id = present) (leads : k (.ok present) = b) :
    x.step e = { x with pass := b, visits := x.visits ++ [id] } := by
  unfold step
  rw [asks]
  show ({ x with pass := k (.ok (x.queue.contains id)), visits := x.visits ++ [id] } : Trial) = _
  rw [looked, leads]

/-- A job is pushed, or that fails. -/
theorem step_push {k : (QueueCall.enqueue id).Reply → Pass} {fault : Option (Fault QueueError)}
    (asks : x.pass.next e.config e.now = .queue (.enqueue id) k)
    (struck : e.faults x.pushes.length = fault) (leads : k (e.push fault id x.queue).1 = b) :
    x.step e =
      { x with
        queue := (e.push fault id x.queue).2, pass := b
        pushes := x.pushes ++ [⟨id, x.pass.sweeps, fault.isSome⟩] } := by
  unfold step
  rw [asks]
  subst struck leads
  rfl

theorem onward_push {push : Push} (fault : Option (Fault QueueError)) :
    Onward [] x
      { x with queue := (e.push fault id x.queue).2, pass := b, pushes := x.pushes ++ [push] } :=
  ⟨rfl, (ready_push e fault id x.queue).1, fun _ h => List.mem_append_left _ h,
    (List.append_nil _).symm⟩

/-! ## The orphans -/

/-- An orphan loses its lease and is pushed, and the pass goes on with the others whether or not
that fails. -/
theorem leads_freed (at_ : x.pass = p.free (job :: rest)) :
    ∃ y, Leads e x y ∧ Onward [] x y ∧ y.pass = p.free rest ∧
      ∃ failed, ⟨job.id, false, failed⟩ ∈ y.pushes := by
  have hfreed : x.step e =
      { x with
        queue := x.queue.release job.id
        pass := { p with phase := .enqueuing (job :: rest) } } := by
    unfold step
    rw [at_]
    rfl
  have honward : Onward [] x (x.step e) := by
    rw [hfreed]
    exact ⟨rfl, fun _ => id, fun _ => id, (List.append_nil _).symm⟩
  have hpushed := step_push (e := e) (x := x.step e) (by rw [hfreed]; rfl) rfl
    (free_phase p _ rest)
  refine ⟨_, .head (.head (.refl _)), honward.trans ?_, ?_, ?_⟩
  · rw [hpushed]
    exact onward_push _
  · rw [hpushed]
  · rw [hpushed, hfreed]
    exact ⟨_, List.mem_append_right _ (List.mem_singleton_self _)⟩

/-- Every orphan is pushed, whichever of the pushes fail. -/
theorem leads_free (at_ : x.pass = p.free jobs) :
    ∃ y, Leads e x y ∧ Onward [] x y ∧ y.pass = { p with phase := .turning } ∧
      ∀ j ∈ jobs, ∃ failed, ⟨j.id, false, failed⟩ ∈ y.pushes := by
  induction jobs generalizing x with
  | nil => exact ⟨x, .refl x, .refl x, at_, fun j hj => absurd hj List.not_mem_nil⟩
  | cons job rest ih =>
    obtain ⟨y, hleads, honward, hpass, failed, htried⟩ := leads_freed at_
    obtain ⟨z, hleads', honward', hend, hothers⟩ := ih hpass
    refine ⟨z, hleads.trans hleads', honward.trans honward', hend, fun j hj => ?_⟩
    rcases List.mem_cons.1 hj with rfl | hj
    · exact ⟨failed, honward'.pushes _ htried⟩
    · exact hothers j hj

/-! ## The sweep -/

/-- The sweep pushes a job, and it goes on with the rest of the page whether or not that fails. -/
theorem leads_added (at_ : x.pass = p.ofSweep { w with phase := .adding page (job :: rest) }) :
    ∃ y added, Leads e x y ∧ Onward [] x y ∧ y.CaredFor job.id ∧
      y.pass = p.ofSweep ({ w with added }.check page rest) := by
  have hswept : x.pass.sweeps = true := by
    rw [at_]
    rfl
  cases hstruck : e.faults x.pushes.length with
  | none =>
    have hpushed := step_push (by rw [at_]; rfl) hstruck
      (congrArg p.ofSweep (({ w with added := w.added + 1 } : Sweep).check_phase _ page rest))
    refine ⟨_, w.added + 1, .head (.refl _), ?_⟩
    rw [hpushed]
    exact ⟨onward_push none, .inl ((ready_push e none job.id x.queue).2 rfl), rfl⟩
  | some fault =>
    have hpushed := step_push (by rw [at_]; rfl) hstruck
      (congrArg p.ofSweep (w.check_phase _ page rest))
    refine ⟨_, w.added, .head (.refl _), ?_⟩
    rw [hpushed, hswept]
    exact ⟨onward_push (some fault), .inr (List.mem_append_right _ (List.mem_singleton_self _)),
      rfl⟩

/-- The sweep looks at a job and pushes it if it is not on the ready list. -/
theorem leads_looked (at_ : x.pass = p.ofSweep (w.check page (job :: rest))) :
    ∃ y added, Leads e x y ∧ Onward [job.id] x y ∧ y.CaredFor job.id ∧
      y.pass = p.ofSweep ({ w with added }.check page rest) := by
  have honward : ∀ b : Pass, Onward [job.id] x
      { x with pass := b, visits := x.visits ++ [job.id] } := by
    intro b
    exact ⟨rfl, fun _ => id, fun _ => id, rfl⟩
  cases hpresent : x.queue.contains job.id with
  | true =>
    have hlooked := step_look (e := e) (by rw [at_]; rfl) hpresent
      (congrArg p.ofSweep (w.check_phase _ page rest))
    refine ⟨_, w.added, .head (.refl _), ?_⟩
    rw [hlooked]
    exact ⟨honward _, .inl (of_decide_eq_true hpresent), rfl⟩
  | false =>
    have hlooked := step_look (e := e)
      (b := p.ofSweep { w with phase := .adding page (job :: rest) })
      (by rw [at_]; rfl) hpresent rfl
    obtain ⟨y, added, hleads, hadded, hcared, hpass⟩ :=
      leads_added (e := e) (x := x.step e) (by rw [hlooked])
    refine ⟨y, added, .head hleads, ?_, hcared, hpass⟩
    rw [hlooked] at hadded
    exact (honward _).trans hadded

/-- The sweep looks at the rest of a page and cares for every job on it. -/
theorem leads_check (at_ : x.pass = p.ofSweep (w.check page rest)) :
    ∃ y added, Leads e x y ∧ Onward (rest.map (·.id)) x y ∧
      (∀ j ∈ rest, y.CaredFor j.id) ∧ y.pass = p.ofSweep ({ w with added }.pageDone page) := by
  induction rest generalizing x w with
  | nil =>
    exact ⟨x, w.added, .refl x, .refl x, fun j hj => absurd hj List.not_mem_nil, at_⟩
  | cons job rest ih =>
    obtain ⟨y, added, hleads, honward, hcared, hpass⟩ := leads_looked at_
    obtain ⟨z, added', hleads', honward', hothers, hend⟩ := ih hpass
    refine ⟨z, added', hleads.trans hleads', honward.trans honward', fun j hj => ?_, hend⟩
    rcases List.mem_cons.1 hj with rfl | hj
    · exact hcared.onward honward'
    · exact hothers j hj

/-- From a place on, the sweep looks at the listing behind that place and cares for every job of it,
and then the pass ends. -/
theorem leads_listing {cutoff : Time} {batch added : Nat} {place : Option ListKey}
    {listing : List Job}
    (at_ : x.pass = p.ofSweep ⟨Sweep.filterAt cutoff batch place, added, .listing⟩)
    (distinct : (x.store.jobs.rows.map (·.id)).Nodup)
    (listed : (Sweep.filterAt cutoff batch place).listing x.store.jobs.rows = listing) :
    ∃ y added', Leads e x y ∧ Onward (listing.map (·.id)) x y ∧
      (∀ j ∈ listing, y.CaredFor j.id) ∧ y.pass.report? = some ⟨p.orphans, added'⟩ := by
  induction hn : listing.length using Nat.strongRecOn generalizing x place added listing with
  | ind n ih =>
    -- the page and what it leaves out
    obtain ⟨rest, hsplit, hrest⟩ :=
      (Sweep.filterAt cutoff batch place).listing_eq_page x.store.jobs.rows
    have hlist := Sweep.list_filterAt x.store cutoff batch place
    generalize (Sweep.filterAt cutoff batch place).page x.store.jobs.rows = page
      at hsplit hrest hlist
    obtain rfl : listing = page ++ rest := listed.symm.trans hsplit
    have hanswer : x.store.perform ⟨e.now, default⟩ (.list (Sweep.filterAt cutoff batch place)) =
        ((.ok page : (StoreCall.list _).Reply), x.store) := congrArg (·, x.store) hlist
    have hread := step_store (e := e)
      (b := p.ofSweep (Sweep.check ⟨Sweep.filterAt cutoff batch place, added, .listing⟩ page page))
      (by rw [at_]; rfl) hanswer rfl
    obtain ⟨y, added', hleads, honward, hcared, hdone⟩ :=
      leads_check (e := e) (x := x.step e) (by rw [hread])
    have hsofar : Onward (page.map (·.id)) x y := by
      rw [hread] at honward
      exact ⟨honward.store, honward.ready, honward.pushes, honward.visits⟩
    rcases Sweep.pageDone_cases (w := ⟨Sweep.filterAt cutoff batch place, added', .listing⟩) rfl
      page with ⟨init, last, rfl, -, hnext⟩ | ⟨hshort, hnext⟩
    · have hbehind := Sweep.listing_filterAt_behind distinct hsplit
      have hshorter : rest.length < n := by
        rw [← hn, List.length_append, List.length_append, List.length_singleton]
        omega
      obtain ⟨z, added'', hleads', honward', hothers, hend⟩ := ih rest.length hshorter (x := y)
        (hdone.trans (congrArg p.ofSweep hnext)) (hsofar.store ▸ distinct)
        (hsofar.store ▸ hbehind) rfl
      refine ⟨z, added'', .head (hleads.trans hleads'), ?_, fun j hj => ?_, hend⟩
      · rw [List.map_append]
        exact hsofar.trans honward'
      · rcases List.mem_append.1 hj with hj | hj
        · exact (hcared j hj).onward honward'
        · exact hothers j hj
    · cases hrest hshort
      rw [List.append_nil]
      -- the sweep has ended, and one more step ends the pass
      have hswept : y.step e =
          { y with pass := { p with phase := .finished (.ok ⟨p.orphans, added'⟩) } } := by
        unfold step
        rw [hdone.trans (congrArg p.ofSweep hnext)]
        rfl
      refine ⟨_, added', .head (hleads.trans (.head (.refl _))), ?_⟩
      rw [hswept]
      exact ⟨⟨hsofar.store, hsofar.ready, hsofar.pushes, hsofar.visits⟩, hcared, rfl⟩

/-! ## The pass -/

/-- A pass pushes the orphans, looks at the waiting jobs that are older than its cutoff and at no
other, cares for them, and ends. -/
theorem leads_pass (s : Store) (q : LeaseQueue) (orderly : s.Orderly) {orphans : List Job}
    {s' : Store} (returned : s.requeueOrphaned e.config.staleAfter e.now = (orphans, s')) :
    ∃ y added, Leads e { store := s, queue := q } y ∧
      (∀ j ∈ orphans, ∃ failed, ⟨j.id, false, failed⟩ ∈ y.pushes) ∧
      y.visits = (overdue e.config e.now s').map (·.id) ∧
      (∀ j ∈ overdue e.config e.now s', y.CaredFor j.id) ∧
      y.pass.report? = some ⟨orphans.length, added⟩ := by
  have hs : (s.requeueOrphaned e.config.staleAfter e.now).2 = s' := congrArg Prod.snd returned
  have horderly : s'.Orderly :=
    hs ▸ orderly.perform ⟨e.now, default⟩ (.requeueOrphaned e.config.staleAfter)
  have hanswer : s.perform ⟨e.now, default⟩ (.requeueOrphaned e.config.staleAfter) =
      ((.ok orphans : (StoreCall.requeueOrphaned _).Reply), s') := by
    show (Except.ok (s.requeueOrphaned e.config.staleAfter e.now).1,
      (s.requeueOrphaned e.config.staleAfter e.now).2) = _
    rw [returned]
    rfl
  have hreturn := step_store (x := { store := s, queue := q })
    (b := ({ orphans := orphans.length } : Pass).free orphans) rfl hanswer rfl
  obtain ⟨y, hleads, honward, hturning, htried⟩ := leads_free (e := e)
    (x := ({ store := s, queue := q } : Trial).step e) (by rw [hreturn])
  rw [hreturn] at honward
  have hturn : y.step e =
      { y with
        pass := Pass.ofSweep { orphans := orphans.length, phase := .turning }
          ⟨Sweep.filterAt e.cutoff e.config.batch none, 0, .listing⟩ } := by
    unfold step
    rw [hturning]
    rfl
  have hstore : (y.step e).store = s' := by
    rw [hturn]
    exact honward.store
  have hlisting : (Sweep.filterAt e.cutoff e.config.batch none).listing
      (y.step e).store.jobs.rows = overdue e.config e.now s' := by
    rw [hstore]
    rfl
  obtain ⟨z, added, hleads', honward', hcared, hend⟩ := leads_listing (e := e) (x := y.step e)
    (by rw [hturn]) (hstore ▸ horderly.nodup_ids) hlisting
  refine ⟨z, added, .head (hleads.trans (.head hleads')), ?_, ?_, hcared, hend⟩
  · intro j hj
    obtain ⟨failed, hpush⟩ := htried j hj
    refine ⟨failed, honward'.pushes _ ?_⟩
    rw [hturn]
    exact hpush
  · have hnone : (y.step e).visits = [] := by
      rw [hturn]
      exact honward.visits
    rw [honward'.visits, hnone, List.nil_append]

/-- What has become of the orphans of a pass, some of whose pushes may have failed. -/
structure Retried (cutoff : Time) (orphans : List Job) (x : Trial) : Prop where
  ended : ∃ added, x.pass.report? = some ⟨orphans.length, added⟩
  tried : ∀ j ∈ orphans, ∃ failed, ⟨j.id, false, failed⟩ ∈ x.pushes
  old : ∀ j ∈ orphans, j.createdAt ≤ (cutoff : Timestamp)
  /-- The sweep of the pass looks at an orphan just if the orphan was created before the cutoff. -/
  visited : ∀ j ∈ orphans, j.id ∈ x.visits ↔ j.createdAt < (cutoff : Timestamp)
  /-- An orphan that the sweep looks at is back on the ready list, unless the sweep fails to push
  it. -/
  back : ∀ j ∈ orphans, j.id ∈ x.visits → ⟨j.id, true, true⟩ ∉ x.pushes → j.id ∈ x.queue.ready

end Trial

open Trial

/-- Whichever pushes of a pass fail, the orphans that were created before the cutoff get another
chance in the sweep of the same pass; all of them were created at the cutoff or before.  The store
is any that calls lead to on a clock that does not go back. -/
theorem retried_pass {calls : List (Moment × StoreCall)}
    (clock : calls.Pairwise fun a b => a.1.now ≤ b.1.now) (queue : LeaseQueue) (e : Setup) :
    ∃ n, Retried e.cutoff
      ((Store.empty.afterAll calls).requeueOrphaned e.config.staleAfter e.now).1
      (Trial.run e n { store := Store.empty.afterAll calls, queue }) := by
  obtain ⟨latest, reached⟩ := Store.exists_reached calls
  obtain ⟨orderly, told⟩ := Store.kept_in_time Store.Told.empty (fun hle told => told.mono hle)
    (fun h c told => told.change h c) clock reached
  generalize Store.empty.afterAll calls = s at orderly told
  obtain ⟨orphans, s', returned⟩ : ∃ orphans s',
      s.requeueOrphaned e.config.staleAfter e.now = (orphans, s') := ⟨_, _, rfl⟩
  have hs : (s.requeueOrphaned e.config.staleAfter e.now).2 = s' := congrArg Prod.snd returned
  have hfound : (s.orphans e.cutoff).map Store.requeuedJob = orphans := congrArg Prod.fst returned
  have horderly : s'.Orderly :=
    hs ▸ orderly.perform ⟨e.now, default⟩ (.requeueOrphaned e.config.staleAfter)
  -- an orphan waits again in the store, and it was created before it started
  have hwaits : ∀ j ∈ orphans, s'.jobs.get? j.id = some j ∧ j.status = .queued ∧
      j.createdAt ≤ (e.cutoff : Timestamp) := by
    intro j hj
    rw [← hfound] at hj
    obtain ⟨k, hk, rfl⟩ := List.mem_map.1 hj
    have habandoned := (Store.mem_orphans_iff orderly).1 hk
    obtain ⟨t, hstart, hstale⟩ := habandoned.started
    have hcreated : k.createdAt ≤ t :=
      (told.coherent k.id k habandoned.stored).dated.begun t hstart
    refine ⟨?_, rfl, Timestamp.le_trans hcreated hstale⟩
    rw [← hs]
    show (List.foldl _ s _).jobs.get? k.id = some (Store.requeuedJob k)
    exact Store.get?_jobs_requeue (Store.nodup_orphans orderly _) hk
  obtain ⟨x, added, ⟨n, hrun⟩, htried, hvisits, hcared, hend⟩ :=
    leads_pass s queue orderly returned
  refine ⟨n, ?_⟩
  rw [hrun, returned]
  refine ⟨⟨added, hend⟩, htried, fun j hj => (hwaits j hj).2.2, ?_, ?_⟩
  · intro j hj
    obtain ⟨stored, waiting, -⟩ := hwaits j hj
    rw [hvisits, List.mem_map]
    constructor
    · rintro ⟨k, hk, hid⟩
      obtain ⟨hk, -, hold⟩ := (mem_overdue horderly).1 hk
      rw [hid, stored] at hk
      cases hk
      exact hold
    · intro hold
      exact ⟨j, (mem_overdue horderly).2 ⟨stored, waiting, hold⟩, rfl⟩
  · intro j hj hvisited hpushed
    rw [hvisits] at hvisited
    obtain ⟨k, hk, hid⟩ := List.mem_map.1 hvisited
    have hcare := hcared k hk
    rw [hid] at hcare
    exact hcare.resolve_right hpushed

/-- A job is created and started, and its worker never reports. -/
def startedAt (created started : Int) : List (Moment × StoreCall) :=
  [(⟨⟨created⟩, .numbered 1 1⟩, .create { tenant := "acme", model := "small" }),
    (⟨⟨started⟩, .numbered 1 2⟩, .start (FreshIds.numbered 1 1).job ⟨"worker-1"⟩)]

/-- At the ninth instant, with a grace of five, the first push fails and no other. -/
def firstPushFails : Setup where
  config := { staleAfter := ⟨5⟩ }
  now := ⟨9⟩
  faults n := if n = 0 then some { call := "enqueue", error := .connection "gone" } else none

theorem retried_startedLater :
    ((startedAt 1 2).Pairwise fun a b => a.1.now ≤ b.1.now) ∧
      ((Store.empty.afterAll (startedAt 1 2)).requeueOrphaned ⟨5⟩ ⟨9⟩).1.map (·.id) =
        [(FreshIds.numbered 1 1).job] ∧
      ∃ n, Retried firstPushFails.cutoff
        ((Store.empty.afterAll (startedAt 1 2)).requeueOrphaned ⟨5⟩ ⟨9⟩).1
        (Trial.run firstPushFails n
          { store := Store.empty.afterAll (startedAt 1 2), queue := {} }) := by
  have clock : (startedAt 1 2).Pairwise fun a b => a.1.now ≤ b.1.now := by decide
  exact ⟨clock, by decide +kernel, retried_pass clock {} firstPushFails⟩

/-- An orphan that was created and started just at the cutoff is requeued, but the sweep of that
pass does not look at it: when its push fails, it is not on the ready list at the end. -/
theorem passedOver_startedAtOnce :
    ((startedAt 4 4).Pairwise fun a b => a.1.now ≤ b.1.now) ∧
      ((Store.empty.afterAll (startedAt 4 4)).requeueOrphaned ⟨5⟩ ⟨9⟩).1.map (·.id) =
        [(FreshIds.numbered 1 1).job] ∧
      let x := Trial.run firstPushFails 8
        { store := Store.empty.afterAll (startedAt 4 4), queue := {} }
      x.pass.report? = some ⟨1, 0⟩ ∧
        x.pushes = [⟨(FreshIds.numbered 1 1).job, false, true⟩] ∧ x.visits = [] ∧
        x.queue.ready = [] := by
  decide +kernel

end Pass

end Dispatch
