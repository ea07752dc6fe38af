import Dispatch.Proofs.Cluster.Alone
import Dispatch.Proofs.Reconciler.Page
import Dispatch.Proofs.Store.Orphans
import Dispatch.Proofs.Store.Run

/-!
# What a pass repairs

A pass that nobody steps into does two things to the queue: it takes back the jobs that the store
returns as orphans, and it puts back the waiting jobs that are missing from the ready list.
`repaired_pass` says what has become of the store and the queue then, and that there is nothing left
to do for another pass at the same instant.

The sweep reads its pages from a store that stays what it is, so they are the listing cut into
pieces (`ends_listing`), and what it puts on the ready list on the way is no job of a later page.
-/

namespace Dispatch

namespace LeaseQueue

/-! ## What a pass does to the queue -/

/-- The queue with jobs pushed one after the other. -/
def pushAll (q : LeaseQueue) (ids : List JobId) : LeaseQueue :=
  { q with ready := ids.reverse ++ q.ready }

/-- The queue with jobs taken back one after the other: no lease is left on them, and they are
pushed. -/
def takeBack (q : LeaseQueue) (ids : List JobId) : LeaseQueue :=
  ids.foldl (fun q id => (q.release id).enqueue id) q

/-- The jobs that are not on the ready list. -/
def missing (q : LeaseQueue) (jobs : List Job) : List Job := jobs.filter fun j => !q.contains j.id

variable {q : LeaseQueue} {jobs rest : List Job} {j : Job} {id : JobId} {ids : List JobId}

theorem pushAll_append (q : LeaseQueue) (ids ids' : List JobId) :
    (q.pushAll ids).pushAll ids' = q.pushAll (ids ++ ids') := by
  simp [pushAll]

theorem mem_missing : j ∈ q.missing jobs ↔ j ∈ jobs ∧ j.id ∉ q.ready := by
  simp [missing, contains]

/-- What is pushed is not missed, and other jobs are missed as before. -/
theorem missing_pushAll (other : ∀ j ∈ jobs, j.id ∉ ids) :
    (q.pushAll ids).missing jobs = q.missing jobs := by
  refine List.filter_congr fun j hj => ?_
  have hother : (j.id ∈ ids.reverse ++ q.ready) ↔ j.id ∈ q.ready := by
    simp [other j hj]
  simp [contains, pushAll, other j hj]

theorem ready_takeBack (q : LeaseQueue) (ids : List JobId) :
    (q.takeBack ids).ready = ids.reverse ++ q.ready := by
  induction ids generalizing q with
  | nil => rfl
  | cons id ids ih =>
    rw [takeBack, List.foldl_cons]
    refine (ih _).trans ?_
    simp [enqueue, release]

theorem closed_takeBack (q : LeaseQueue) (ids : List JobId) :
    (q.takeBack ids).closed = q.closed := by
  induction ids generalizing q with
  | nil => rfl
  | cons id ids ih =>
    rw [takeBack, List.foldl_cons]
    exact ih _

theorem leases_takeBack (q : LeaseQueue) (ids : List JobId) (id : JobId) :
    (q.takeBack ids).leases.get? id = if id ∈ ids then none else q.leases.get? id := by
  induction ids generalizing q with
  | nil => rfl
  | cons other ids ih =>
    rw [takeBack, List.foldl_cons]
    refine (ih _).trans ?_
    show (if id ∈ ids then none else (q.leases.erase other).get? id) = _
    rw [Table.get?_erase]
    by_cases hother : other = id
    · simp [hother]
    · by_cases hmem : id ∈ ids <;> simp [hother, Ne.symm hother, hmem]

end LeaseQueue

/-- The cluster with another queue, and some more pushes counted. -/
def Cluster.withQueue (c : Cluster) (queue : LeaseQueue) (pushes : Nat) : Cluster :=
  { c with queue, pushes := c.pushes + pushes }

theorem Cluster.withQueue_withQueue (c : Cluster) (q q' : LeaseQueue) (n m : Nat) :
    (c.withQueue q n).withQueue q' m = c.withQueue q' (n + m) := by
  simp [withQueue, Nat.add_assoc]

theorem Cluster.contains_answered {c : Cluster} {id : JobId} {present : Bool}
    (h : c.queue.contains id = present) :
    c.performed (.contains id) = ((.ok present : (QueueCall.contains id).Reply), c) := by
  cases h
  rfl

namespace Pass

open Running

variable {config : ReconcilerConfig} {r : Running Pass} {c : Cluster} {p : Pass} {w : Sweep}
  {filter : Filter} {page rest jobs : List Job}

/-! ## The orphans -/

theorem free_phase (p : Pass) (phase : PassPhase) (jobs : List Job) :
    { p with phase }.free jobs = p.free jobs := by
  cases jobs <;> rfl

/-- A pass takes the orphans back. -/
theorem leads_free (r : Running Pass) (config : ReconcilerConfig) (clean : c.Clean) (p : Pass)
    (jobs : List Job) :
    (r.moved (p.free jobs)).Leads (next config) c (r.moved { p with phase := .turning })
      (c.withQueue (c.queue.takeBack (jobs.map (·.id))) jobs.length) := by
  induction jobs generalizing c with
  | nil => exact .refl _ _
  | cons job rest ih =>
    have hfree : (r.moved (p.free (job :: rest))).Leads (next config) c
        (r.moved { p with phase := .enqueuing (job :: rest) })
        (c.withQueue (c.queue.release job.id) 0) :=
      leads_queue clean rfl rfl rfl rfl
    have hpush : (r.moved { p with phase := .enqueuing (job :: rest) }).Leads (next config)
        (c.withQueue (c.queue.release job.id) 0) (r.moved (p.free rest))
        (c.withQueue ((c.queue.release job.id).enqueue job.id) 1) :=
      leads_queue ⟨⟨clean.store, clean.queue⟩, clean.usable⟩ rfl rfl rfl (free_phase p _ rest)
    have hrest := ih (c := c.withQueue ((c.queue.release job.id).enqueue job.id) 1)
      ⟨⟨clean.store, clean.queue⟩, clean.usable⟩
    rw [Cluster.withQueue_withQueue, Nat.add_comm] at hrest
    exact (hfree.trans hpush).trans hrest

/-! ## The sweep -/

/-- A sweep puts back what is missing of the rest of a page.  No job is on the page twice, so it
does not matter that the ready list grows meanwhile. -/
theorem leads_check (r : Running Pass) (config : ReconcilerConfig) (p : Pass) (w : Sweep)
    (page : List Job) (clean : c.Clean) (distinct : (rest.map (·.id)).Nodup) :
    (r.moved (p.ofSweep (w.check page rest))).Leads (next config) c
      (r.moved (p.ofSweep ({ w with added := w.added + (c.queue.missing rest).length }.pageDone
        page)))
      (c.withQueue (c.queue.pushAll ((c.queue.missing rest).map (·.id)))
        (c.queue.missing rest).length) := by
  induction rest generalizing c w with
  | nil => exact .refl _ _
  | cons job rest ih =>
    obtain ⟨hfresh, hdistinct⟩ := List.nodup_cons.1 distinct
    cases hpresent : c.queue.contains job.id with
    | true =>
      have hmissing : c.queue.missing (job :: rest) = c.queue.missing rest := by
        simp [LeaseQueue.missing, hpresent]
      have hpass : (r.moved (p.ofSweep (w.check page (job :: rest)))).Leads (next config) c
          (r.moved (p.ofSweep (w.check page rest))) c :=
        leads_queue clean rfl rfl (Cluster.contains_answered hpresent)
          (congrArg p.ofSweep (w.check_phase _ page rest))
      rw [hmissing]
      exact hpass.trans (ih w clean hdistinct)
    | false =>
      have hmissing : c.queue.missing (job :: rest) = job :: c.queue.missing rest := by
        simp [LeaseQueue.missing, hpresent]
      have hmiss : (r.moved (p.ofSweep (w.check page (job :: rest)))).Leads (next config) c
          (r.moved (p.ofSweep { w with phase := .adding page (job :: rest) })) c :=
        leads_queue clean rfl rfl (Cluster.contains_answered hpresent) rfl
      have hadd : (r.moved (p.ofSweep { w with phase := .adding page (job :: rest) })).Leads
          (next config) c (r.moved (p.ofSweep ({ w with added := w.added + 1 }.check page rest)))
          (c.withQueue (c.queue.pushAll [job.id]) 1) :=
        leads_queue clean rfl rfl rfl
          (congrArg p.ofSweep (({ w with added := w.added + 1 } : Sweep).check_phase _ page rest))
      have hrest := ih { w with added := w.added + 1 }
        (c := c.withQueue (c.queue.pushAll [job.id]) 1)
        ⟨⟨clean.store, clean.queue⟩, clean.usable⟩ hdistinct
      have hother : ∀ j ∈ rest, j.id ∉ [job.id] := fun j hj hid =>
        hfresh (List.mem_map.2 ⟨j, hj, List.mem_singleton.1 hid⟩)
      rw [show (c.withQueue (c.queue.pushAll [job.id]) 1).queue = c.queue.pushAll [job.id] from rfl,
        LeaseQueue.missing_pushAll hother, LeaseQueue.pushAll_append,
        Cluster.withQueue_withQueue] at hrest
      rw [hmissing, List.length_cons]
      have hleads := (hmiss.trans hadd).trans hrest
      simpa [Nat.add_assoc, Nat.add_comm 1] using hleads

/-- A sweep that has ended ends the pass. -/
theorem ends_swept (p : Pass) (filter : Filter) (added : Nat) :
    (r.moved (p.ofSweep ⟨filter, added, .finished (.ok added)⟩)).Ends (next config) c
      (.ok ⟨p.orphans, added⟩) c := by
  have hdone : (r.moved (p.ofSweep ⟨filter, added, .finished (.ok added)⟩)).Leads (next config) c
      (r.moved { p with phase := .finished (.ok ⟨p.orphans, added⟩) }) c := leads_go rfl
  exact hdone.ends (ends_finished rfl)

/-- From a place on, a sweep puts back what is missing of the listing behind that place, and then
the pass ends. -/
theorem ends_listing (r : Running Pass) (config : ReconcilerConfig) (p : Pass) (cutoff : Time)
    (batch : Nat) (place : Option ListKey) (added : Nat) (clean : c.Clean)
    (distinct : (c.store.jobs.rows.map (·.id)).Nodup) {listing : List Job}
    (listed : (Sweep.filterAt cutoff batch place).listing c.store.jobs.rows = listing) :
    (r.moved (p.ofSweep ⟨Sweep.filterAt cutoff batch place, added, .listing⟩)).Ends (next config) c
      (.ok ⟨p.orphans, added + (c.queue.missing listing).length⟩)
      (c.withQueue (c.queue.pushAll ((c.queue.missing listing).map (·.id)))
        (c.queue.missing listing).length) := by
  induction hn : listing.length using Nat.strongRecOn generalizing c place added listing with
  | ind n ih =>
    have hids : (listing.map (·.id)).Nodup := listed ▸ Filter.nodup_ids_listing distinct
    -- the page and what it leaves out
    obtain ⟨rest, hsplit, hrest⟩ :=
      (Sweep.filterAt cutoff batch place).listing_eq_page c.store.jobs.rows
    generalize hpage : (Sweep.filterAt cutoff batch place).page c.store.jobs.rows = page
      at hsplit hrest
    obtain rfl : listing = page ++ rest := listed.symm.trans hsplit
    rw [List.map_append, List.nodup_append] at hids
    have hread : (r.moved (p.ofSweep ⟨Sweep.filterAt cutoff batch place, added, .listing⟩)).Leads
        (next config) c (r.moved (p.ofSweep (Sweep.check
          ⟨Sweep.filterAt cutoff batch place, added, .listing⟩ page page))) c := by
      have hlist := Sweep.list_filterAt c.store cutoff batch place
      rw [hpage] at hlist
      exact leads_store clean rfl (congrArg (·, c) hlist) rfl
    have hcheck := leads_check r config p ⟨Sweep.filterAt cutoff batch place, added, .listing⟩ page
      clean hids.1
    refine (hread.trans hcheck).ends ?_
    have hmissing : c.queue.missing (page ++ rest) = c.queue.missing page ++ c.queue.missing rest :=
      List.filter_append _ _
    rcases Sweep.pageDone_cases (w := ⟨Sweep.filterAt cutoff batch place,
      added + (c.queue.missing page).length, .listing⟩) rfl page with
      ⟨init, last, rfl, -, hnext⟩ | ⟨hshort, hnext⟩
    · rw [hnext]
      have hbehind := Sweep.listing_filterAt_behind distinct hsplit
      have hother : ∀ j ∈ rest, j.id ∉ (c.queue.missing (init ++ [last])).map (·.id) := by
        intro j hj hid
        obtain ⟨k, hk, hsame⟩ := List.mem_map.1 hid
        exact hids.2.2 _ (List.mem_map_of_mem (LeaseQueue.mem_missing.1 hk).1) _
          (List.mem_map_of_mem hj) hsame
      have hshorter : rest.length < n := by
        rw [← hn, List.length_append, List.length_append, List.length_singleton]
        omega
      have hends := ih rest.length hshorter (some last.listKey)
        (added + (c.queue.missing (init ++ [last])).length) (c := c.withQueue (c.queue.pushAll
        ((c.queue.missing (init ++ [last])).map (·.id))) (c.queue.missing (init ++ [last])).length)
        ⟨⟨clean.store, clean.queue⟩, clean.usable⟩ distinct hbehind rfl
      rw [show (c.withQueue (c.queue.pushAll _) _).queue = c.queue.pushAll _ from rfl,
        LeaseQueue.missing_pushAll hother, LeaseQueue.pushAll_append,
        Cluster.withQueue_withQueue, ← List.map_append, ← hmissing, Nat.add_assoc,
        ← List.length_append, ← hmissing] at hends
      exact hends
    · rw [hnext]
      cases hrest hshort
      rw [List.append_nil]
      exact ends_swept p _ _

/-! ## The pass -/

/-- The waiting jobs that are older than the cutoff, oldest first. -/
def overdue (config : ReconcilerConfig) (now : Time) (s : Store) : List Job :=
  (Sweep.filterAt (Store.staleCutoff now config.staleAfter) config.batch none).listing s.jobs.rows

theorem mem_overdue {now : Time} {s : Store} (orderly : s.Orderly) {j : Job} :
    j ∈ overdue config now s ↔ s.jobs.get? j.id = some j ∧ j.status = .queued ∧
      j.createdAt < (Store.staleCutoff now config.staleAfter : Timestamp) := by
  rw [overdue, Filter.mem_listing, Sweep.covers_filterAt]
  constructor
  · rintro ⟨hrow, ⟨waiting, old⟩, -⟩
    exact ⟨orderly.get?_of_mem hrow, waiting, old⟩
  · rintro ⟨stored, waiting, old⟩
    exact ⟨Table.mem_rows.2 ⟨_, stored⟩, ⟨waiting, old⟩, fun _ hp => by cases hp⟩

/-- What a pass does from its beginning to its end. -/
theorem ends_pass (clean : c.Clean) {orphans : List Job} {s : Store} (orderly : s.Orderly)
    (returned : c.store.requeueOrphaned config.staleAfter c.now = (orphans, s))
    {q : LeaseQueue} (taken : c.queue.takeBack (orphans.map (·.id)) = q)
    {stranded : List Job} (missed : q.missing (overdue config c.now s) = stranded) :
    (r.moved {}).Ends (next config) c (.ok ⟨orphans.length, stranded.length⟩)
      (Cluster.withQueue { c with store := s } (q.pushAll (stranded.map (·.id)))
        (orphans.length + stranded.length)) := by
  have husable : q.closed = false :=
    taken ▸ (c.queue.closed_takeBack _).trans clean.usable
  have hanswered : c.storeDirectly (.requeueOrphaned config.staleAfter) =
      ((.ok orphans : (StoreCall.requeueOrphaned config.staleAfter).Reply),
        { c with store := s }) := by
    show (Except.ok (c.store.requeueOrphaned config.staleAfter c.now).1,
      { c with store := (c.store.requeueOrphaned config.staleAfter c.now).2 }) = _
    rw [returned]
    rfl
  have hreturn : (r.moved {}).Leads (next config) c
      (r.moved (({ orphans := orphans.length } : Pass).free orphans)) { c with store := s } :=
    leads_store clean rfl hanswered rfl
  have hfree := leads_free r config (c := { c with store := s })
    ⟨⟨clean.store, clean.queue⟩, clean.usable⟩ { orphans := orphans.length } orphans
  rw [show ({ c with store := s } : Cluster).queue = c.queue from rfl, taken] at hfree
  have hturn : (r.moved { orphans := orphans.length, phase := .turning }).Leads (next config)
      (Cluster.withQueue { c with store := s } q orphans.length)
      (r.moved (({ orphans := orphans.length, phase := .turning } : Pass).ofSweep
        ⟨Sweep.filterAt (Store.staleCutoff c.now config.staleAfter) config.batch none, 0,
          .listing⟩))
      (Cluster.withQueue { c with store := s } q orphans.length) :=
    leads_go rfl
  have hsweep := ends_listing r config { orphans := orphans.length, phase := .turning }
    (Store.staleCutoff c.now config.staleAfter) config.batch none 0
    (c := Cluster.withQueue { c with store := s } q orphans.length)
    ⟨⟨clean.store, clean.queue⟩, husable⟩
    orderly.nodup_ids rfl
  have hmissed : (Cluster.withQueue { c with store := s } q orphans.length).queue.missing
      ((Sweep.filterAt (Store.staleCutoff c.now config.staleAfter) config.batch none).listing
        (Cluster.withQueue { c with store := s } q orphans.length).store.jobs.rows) = stranded :=
    missed
  rw [hmissed, Nat.zero_add, Cluster.withQueue_withQueue] at hsweep
  exact ((hreturn.trans hfree).trans hturn).ends hsweep

/-- A pass that finds nothing to do changes nothing. -/
theorem ends_pass_idle (clean : c.Clean) (orderly : c.store.Orderly)
    (returned : c.store.requeueOrphaned config.staleAfter c.now = ([], c.store))
    (missed : c.queue.missing (overdue config c.now c.store) = []) :
    (r.moved {}).Ends (next config) c (.ok {}) c :=
  ends_pass clean orderly returned rfl missed

/-! ## The repair -/

/-- What one pass has made of a store and a queue that nobody else worked on meanwhile. -/
structure Repaired (config : ReconcilerConfig) (before after : Cluster)
    (orphans stranded : List Job) : Prop where
  now : after.now = before.now
  /-- The orphans are the jobs that the store has returned. -/
  returned : before.store.requeueOrphaned config.staleAfter before.now = (orphans, after.store)
  inOrder : orphans.Pairwise fun a b => a.id < b.id
  waiting : ∀ j ∈ orphans, after.store.jobs.get? j.id = some j ∧ j.status = .queued
  /-- No orphan is leased, and the leases on all other jobs stand. -/
  leases : ∀ id, after.queue.leases.get? id =
    if id ∈ orphans.map (·.id) then none else before.queue.leases.get? id
  /-- The newest entries are at the head. -/
  ready : after.queue.ready =
    (stranded.map (·.id)).reverse ++ ((orphans.map (·.id)).reverse ++ before.queue.ready)
  oldestFirst : stranded.Pairwise fun a b => a.listKey.Before b.listKey
  once : (stranded.map (·.id)).Nodup
  stranded_iff : ∀ j, j ∈ stranded ↔
    (after.store.jobs.get? j.id = some j ∧ j.status = .queued ∧
      j.createdAt < (Store.staleCutoff before.now config.staleAfter : Timestamp)) ∧
    j.id ∉ before.queue.ready ∧ j.id ∉ orphans.map (·.id)
  /-- Nothing old enough is missing any more. -/
  present : ∀ id j, after.store.jobs.get? id = some j → j.status = .queued →
    j.createdAt < (Store.staleCutoff before.now config.staleAfter : Timestamp) →
      id ∈ after.queue.ready

/-- Whatever of some jobs is missing is there once it has been pushed. -/
theorem mem_ready_pushAll_missing (q : LeaseQueue) {j : Job} (hj : j ∈ jobs) :
    j.id ∈ (q.pushAll ((q.missing jobs).map (·.id))).ready := by
  show j.id ∈ ((q.missing jobs).map (·.id)).reverse ++ q.ready
  rw [List.mem_append, List.mem_reverse]
  by_cases hmem : j.id ∈ q.ready
  · exact .inr hmem
  · exact .inl (List.mem_map_of_mem (LeaseQueue.mem_missing.2 ⟨hj, hmem⟩))

theorem repaired (orderly : c.store.Orderly) {orphans : List Job} {s : Store}
    (orderly' : s.Orderly)
    (returned : c.store.requeueOrphaned config.staleAfter c.now = (orphans, s))
    {q : LeaseQueue} (taken : c.queue.takeBack (orphans.map (·.id)) = q)
    {stranded : List Job} (missed : q.missing (overdue config c.now s) = stranded) (pushes : Nat) :
    Repaired config c
      (Cluster.withQueue { c with store := s } (q.pushAll (stranded.map (·.id))) pushes)
      orphans stranded := by
  have hready : q.ready = (orphans.map (·.id)).reverse ++ c.queue.ready :=
    taken ▸ c.queue.ready_takeBack _
  have hfound : (c.store.orphans (Store.staleCutoff c.now config.staleAfter)).map
      Store.requeuedJob = orphans := congrArg Prod.fst returned
  have hrequeued : (c.store.orphans (Store.staleCutoff c.now config.staleAfter)).foldl
      (Store.requeueOne c.now) c.store = s := congrArg Prod.snd returned
  refine ⟨rfl, returned, ?_, ?_, fun id => ?_, ?_, ?_, ?_, fun j => ?_, ?_⟩
  · rw [← hfound]
    exact List.pairwise_map.2 (Store.pairwise_orphans orderly _)
  · intro j hj
    rw [← hfound] at hj
    obtain ⟨k, hk, rfl⟩ := List.mem_map.1 hj
    refine ⟨?_, rfl⟩
    show s.jobs.get? k.id = _
    rw [← hrequeued]
    exact Store.get?_jobs_requeue (Store.nodup_orphans orderly _) hk
  · show q.leases.get? id = _
    rw [← taken]
    exact c.queue.leases_takeBack _ id
  · show (stranded.map (·.id)).reverse ++ q.ready = _
    rw [hready]
  · rw [← missed]
    exact ((Filter.listed_listing orderly'.nodup_ids).imp Sweep.precedes_filterAt.1).sublist
      List.filter_sublist
  · rw [← missed]
    exact (Filter.nodup_ids_listing orderly'.nodup_ids).sublist (List.filter_sublist.map _)
  · rw [← missed, LeaseQueue.mem_missing, mem_overdue orderly', hready, List.mem_append,
      List.mem_reverse, not_or, and_comm (a := j.id ∉ orphans.map (·.id))]
    rfl
  · intro id j stored waiting old
    rw [← orderly'.filed id j stored, ← missed]
    exact mem_ready_pushAll_missing q
      ((mem_overdue orderly').2 ⟨orderly'.get?_self stored, waiting, old⟩)

/-- A pass repairs, and another one has nothing to repair. -/
theorem exists_repaired (clean : c.Clean) (orderly : c.store.Orderly) :
    ∃ orphans stranded after, Repaired config c after orphans stranded ∧
      (r.moved {}).Ends (next config) c (.ok ⟨orphans.length, stranded.length⟩) after ∧
      (r.moved {}).Ends (next config) after (.ok {}) after := by
  obtain ⟨orphans, s, returned⟩ : ∃ orphans s,
      c.store.requeueOrphaned config.staleAfter c.now = (orphans, s) := ⟨_, _, rfl⟩
  have hs : (c.store.requeueOrphaned config.staleAfter c.now).2 = s := congrArg Prod.snd returned
  have horderly : s.Orderly :=
    hs ▸ orderly.perform ⟨c.now, default⟩ (.requeueOrphaned config.staleAfter)
  have husable : (c.queue.takeBack (orphans.map (·.id))).closed = false :=
    (c.queue.closed_takeBack _).trans clean.usable
  refine ⟨orphans, _, _, repaired orderly horderly returned rfl rfl _,
    ends_pass clean horderly returned rfl rfl,
    ends_pass_idle ⟨⟨clean.store, clean.queue⟩, husable⟩ horderly ?_ ?_⟩
  · have hagain := Store.requeueOrphaned_again orderly config.staleAfter c.now
    rwa [hs] at hagain
  · refine List.eq_nil_iff_forall_not_mem.2 fun j hj => ?_
    obtain ⟨hmem, habsent⟩ := LeaseQueue.mem_missing.1 hj
    exact habsent (mem_ready_pushAll_missing _ hmem)

/-- A pass repairs everything that is old enough, once, whatever has happened to the store before,
whatever is on the ready list and leased, and for every grace and page size, as long as nobody has
closed the queue: it ends with the numbers
of the jobs that it took back and put back, and another pass at the same instant finds nothing to do
and changes nothing. -/
theorem repaired_pass (config : ReconcilerConfig) (calls : List (Moment × StoreCall))
    (cluster : Cluster) (crew : Nat) (direct : Bool) :
    let before := { cluster with
      store := Store.empty.afterAll calls, queue := { cluster.queue with closed := false }
      storeFaults := [], queueFaults := [] }
    let pass : Running Pass := { state := {}, crew, direct }
    ∃ orphans stranded after, Repaired config before after orphans stranded ∧
      pass.Ends (next config) before (.ok ⟨orphans.length, stranded.length⟩) after ∧
      pass.Ends (next config) after (.ok {}) after := by
  intro before pass
  have orderly : before.store.Orderly := (Lived.dealings calls).orderly
  exact exists_repaired (r := pass) ⟨⟨rfl, rfl⟩, rfl⟩ orderly

end Pass

end Dispatch
