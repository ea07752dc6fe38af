import Dispatch.Proofs.Reconciler.Page
import Dispatch.Proofs.Store.Places
import Dispatch.Proofs.Store.Run
import Mathlib.Data.List.Perm.Subperm

/-!
# A sweep among others

A sweep makes its calls one by one, and between any two of them others may do whatever they like
with the store and the queue; only the jobs that they create are not older than the cutoff.
`Underway` says how the sweep goes on under these conditions, and its log keeps every call of the
sweep together with what the call found.

Pages are read at different times from a changing store.  What carries the proof is that places in
listings are for good: all that the sweep has seen lies before its place and all that it will see
lies behind it (`Books.listed`), and a job that waits at every reading is never passed over
(`Books.ahead`).
-/

namespace Dispatch

/-- The jobs that were created before the cutoff. -/
def Store.older (s : Store) (cutoff : Time) : List Job :=
  s.jobs.rows.filter fun j => j.createdAt < (cutoff : Timestamp)

/-- The job waits and was created before the cutoff. -/
def Store.Waits (s : Store) (cutoff : Time) (id : JobId) : Prop :=
  ∃ j, s.jobs.get? id = some j ∧ j.status = .queued ∧ j.createdAt < (cutoff : Timestamp)

namespace Sweep

/-- A call of the sweep, and the store or the queue that it found. -/
inductive Entry where
  | store (found : Store) (call : StoreCall)
  | queue (found : LeaseQueue) (call : QueueCall)

/-- The stores from which pages were read. -/
def reads (log : List Entry) : List Store :=
  log.filterMap fun
    | .store found (.list _) => some found
    | _ => none

/-- The jobs whose presence on the ready list was checked, and the queues in which it was. -/
def checks (log : List Entry) : List (LeaseQueue × JobId) :=
  log.filterMap fun
    | .queue found (.contains id) => some (found, id)
    | _ => none

/-- The jobs that were put back on the ready list. -/
def puts (log : List Entry) : List JobId :=
  log.filterMap fun
    | .queue _ (.enqueue id) => some id
    | _ => none

/-- What happens next where a sweep is at work. -/
inductive Move where
  /-- The sweep makes its next call. -/
  | sweep (moment : Moment)
  /-- Somebody else makes a call to the store. -/
  | store (moment : Moment) (call : StoreCall)
  /-- Somebody else makes a call to the queue. -/
  | queue (now : Time) (call : QueueCall)
  /-- Somebody else takes an entry off the ready list. -/
  | pop

namespace Move

/-- The sweep makes the move. -/
def isOwn : Move → Bool
  | sweep _ => true
  | _ => false

/-- The move creates no job before the cutoff. -/
def isLate (cutoff : Time) : Move → Bool
  | store m (.create _) => cutoff ≤ m.now
  | _ => true

end Move

/-- A sweep at work on a store and a queue that others work on as well, and the log of its calls. -/
structure Scene where
  store : Store
  queue : LeaseQueue
  sweep : Sweep
  log : List Entry := []

namespace Scene

/-- The scene after a move. -/
def move (x : Scene) : Move → Scene
  | .sweep m =>
    match x.sweep.next with
    | .store c k =>
      let (reply, store) := x.store.perform m c
      { x with store, sweep := k reply, log := x.log ++ [.store x.store c] }
    | .queue c k =>
      let (reply, queue) := x.queue.perform m.now c
      { x with queue, sweep := k reply, log := x.log ++ [.queue x.queue c] }
    | _ => x
  | .store m c => { x with store := (x.store.perform m c).2 }
  | .queue now c => { x with queue := (x.queue.perform now c).2 }
  | .pop => { x with queue := x.queue.pop.2 }

/-- The scene after some moves. -/
def run (x : Scene) (moves : List Move) : Scene := moves.foldl move x

end Scene

variable {cutoff : Time} {batch : Nat} {start s s' : Store} {q : LeaseQueue} {w : Sweep} {x : Scene}
  {log : List Entry} {seen before page rest : List Job} {due : List JobId} {added : Nat}
  {full : Prop} {job : Job} {id : JobId} {place : Option ListKey}

/-! ## The log -/

/-- The job waited and was old enough whenever a page was read. -/
def Steady (cutoff : Time) (log : List Entry) (id : JobId) : Prop :=
  ∀ found ∈ reads log, found.Waits cutoff id

/-- The jobs that were missing when their presence was checked. -/
def missed (log : List Entry) : List JobId :=
  ((checks log).filter fun c => !c.1.contains c.2).map (·.2)

section Log

variable (log : List Entry) (s : Store) (q : LeaseQueue) (filter : Filter) (id : JobId)

@[simp] theorem reads_list : reads (log ++ [.store s (.list filter)]) = reads log ++ [s] := by
  simp [reads]

@[simp] theorem checks_list : checks (log ++ [.store s (.list filter)]) = checks log := by
  simp [checks]

@[simp] theorem puts_list : puts (log ++ [.store s (.list filter)]) = puts log := by
  simp [puts]

@[simp] theorem reads_queue (c : QueueCall) : reads (log ++ [.queue q c]) = reads log := by
  simp [reads]

@[simp] theorem checks_contains :
    checks (log ++ [.queue q (.contains id)]) = checks log ++ [(q, id)] := by
  simp [checks]

@[simp] theorem puts_contains : puts (log ++ [.queue q (.contains id)]) = puts log := by
  simp [puts]

@[simp] theorem checks_enqueue : checks (log ++ [.queue q (.enqueue id)]) = checks log := by
  simp [checks]

@[simp] theorem puts_enqueue : puts (log ++ [.queue q (.enqueue id)]) = puts log ++ [id] := by
  simp [puts]

end Log

/-! ## The books of a sweep -/

/-- What is known of the jobs that a sweep has seen: those of its pages, with `rest` still to be
checked and `due` found missing but not put back yet.  `full` says that there may be more jobs
behind those that were seen. -/
structure Books (cutoff : Time) (log : List Entry) (s : Store) (seen rest : List Job)
    (due : List JobId) (full : Prop) (added : Nat) : Prop where
  /-- The jobs seen are in listing order, across all pages. -/
  listed : seen.Pairwise fun a b => a.listKey.Before b.listKey
  stored : ∀ j ∈ seen, j.createdAt < (cutoff : Timestamp) ∧
    ∃ k, s.jobs.get? j.id = some k ∧ k.listKey = j.listKey
  checked : (checks log).map (·.2) ++ rest.map (·.id) = seen.map (·.id)
  put : missed log = puts log ++ due
  counted : added = (puts log).length
  calls : log.length = (reads log).length + (checks log).length + (puts log).length
  /-- A job that waits all the time was seen, or it stands behind all that was. -/
  ahead : ∀ id, Steady cutoff log id → reads log ≠ [] → id ∈ seen.map (·.id) ∨
    full ∧ ∃ k, s.jobs.get? id = some k ∧ ∀ j ∈ seen, j.listKey.Before k.listKey

namespace Books

theorem ids_nodup (books : Books cutoff log s seen rest due full added) :
    (seen.map (·.id)).Nodup := by
  refine List.pairwise_map.2 (books.listed.imp_of_mem fun {a b} ha hb hab hid => ?_)
  -- one identity is one place
  obtain ⟨-, k, hk, hplace⟩ := books.stored a ha
  obtain ⟨-, l, hl, hplace'⟩ := books.stored b hb
  rw [hid, hl] at hk
  cases hk
  rw [← hplace, ← hplace'] at hab
  exact ListKey.before_irrefl _ hab

/-- What others do leaves the books in order. -/
theorem onward (books : Books cutoff log s seen rest due full added)
    (h : s.Onward cutoff s') : Books cutoff log s' seen rest due full added := by
  refine { books with stored := fun j hj => ?_, ahead := fun id steady read => ?_ }
  · obtain ⟨hold, k, hk, hplace⟩ := books.stored j hj
    obtain ⟨l, hl, hplace'⟩ := h.kept j.id k hk
    exact ⟨hold, l, hl, hplace'.trans hplace⟩
  · refine (books.ahead id steady read).imp_right fun ⟨hfull, k, hk, hbehind⟩ => ?_
    obtain ⟨l, hl, hplace⟩ := h.kept id k hk
    exact ⟨hfull, l, hl, fun j hj => hplace ▸ hbehind j hj⟩

/-- The jobs seen are no more than those created before the cutoff. -/
theorem length_le (books : Books cutoff log s seen rest due full added)
    (since : start.Onward cutoff s) (orderly : start.Orderly) :
    seen.length ≤ (start.older cutoff).length := by
  have hsub : ∀ id ∈ seen.map (·.id), id ∈ (start.older cutoff).map (·.id) := by
    intro id hid
    obtain ⟨j, hj, rfl⟩ := List.mem_map.1 hid
    obtain ⟨hold, k, hk, hplace⟩ := books.stored j hj
    have hcreated : k.createdAt = j.createdAt := congrArg ListKey.createdAt hplace
    obtain ⟨l, hl⟩ := since.old j.id k hk (hcreated ▸ hold)
    obtain ⟨k', hk', hplace'⟩ := since.kept j.id l hl
    rw [hk] at hk'
    cases hk'
    have hcreated' : k.createdAt = l.createdAt := congrArg ListKey.createdAt hplace'
    refine List.mem_map.2 ⟨l, List.mem_filter.2 ⟨Table.mem_rows.2 ⟨j.id, hl⟩, ?_⟩,
      orderly.filed j.id l hl⟩
    rw [decide_eq_true_eq, ← hcreated', hcreated]
    exact hold
  simpa using (books.ids_nodup.subperm hsub).length_le

theorem checks_length_le (books : Books cutoff log s seen rest due full added) :
    (checks log).length ≤ seen.length := by
  have hlength := congrArg List.length books.checked
  simp only [List.length_append, List.length_map] at hlength
  omega

theorem checked_nodup (books : Books cutoff log s seen rest due full added) :
    ((checks log).map (·.2)).Nodup := by
  have hnodup := books.ids_nodup
  rw [← books.checked] at hnodup
  exact (List.nodup_append.1 hnodup).1

theorem put_nodup (books : Books cutoff log s seen rest due full added) : (puts log).Nodup := by
  have hmissed : (missed log).Nodup := books.checked_nodup.sublist (List.filter_sublist.map _)
  rw [books.put] at hmissed
  exact (List.nodup_append.1 hmissed).1

theorem puts_length_le (books : Books cutoff log s seen rest due full added) :
    (puts log).length ≤ (checks log).length := by
  have hlength := congrArg List.length books.put
  have hmissed := List.length_filter_le (fun c : LeaseQueue × JobId => !c.1.contains c.2)
    (checks log)
  simp only [missed, List.length_append, List.length_map] at hlength
  omega

/-- The next page. -/
theorem read (books : Books cutoff log s seen [] [] True added) (orderly : s.Orderly)
    (unread : reads log = [] → seen = [])
    (frontier : ∀ key, ListKey.Past place key ↔ ∀ j ∈ seen, j.listKey.Before key) :
    Books cutoff (log ++ [.store s (.list (filterAt cutoff batch place))]) s
      (seen ++ (filterAt cutoff batch place).page s.jobs.rows)
      ((filterAt cutoff batch place).page s.jobs.rows) []
      (((filterAt cutoff batch place).page s.jobs.rows).length = max batch 1) added where
  listed := by
    refine List.pairwise_append.2 ⟨books.listed, ?_, fun a ha b hb => ?_⟩
    · exact (Filter.listed_page orderly.nodup_ids).imp precedes_filterAt.1
    · exact (frontier b.listKey).1 (mem_page_filterAt hb).2.2 a ha
  stored j hj := by
    rcases List.mem_append.1 hj with hj | hj
    · exact books.stored j hj
    · obtain ⟨hrow, ⟨-, hold⟩, -⟩ := mem_page_filterAt hj
      exact ⟨hold, j, orderly.get?_of_mem hrow, rfl⟩
  checked := by simpa using books.checked
  put := by simpa [missed] using books.put
  counted := by simpa using books.counted
  calls := by
    have hcalls := books.calls
    simp only [List.length_append, reads_list, checks_list, puts_list, List.length_singleton]
    omega
  ahead id steady _ := by
    obtain ⟨k, hk, waiting, hold⟩ := steady s (by simp)
    have hid : k.id = id := orderly.filed id k hk
    have hbefore : id ∈ seen.map (·.id) ∨ ∀ j ∈ seen, j.listKey.Before k.listKey := by
      by_cases hread : reads log = []
      · rw [unread hread]
        exact .inr fun j hj => absurd hj List.not_mem_nil
      · have hsteady : Steady cutoff log id := fun found hfound => steady found (by simp [hfound])
        refine (books.ahead id hsteady hread).imp_right fun ⟨_, k', hk', hbehind⟩ => ?_
        rw [hk] at hk'
        cases hk'
        exact hbehind
    rcases hbefore with hseen | hbehind
    · rw [List.map_append]
      exact .inl (List.mem_append_left _ hseen)
    · have hlisting : k ∈ (filterAt cutoff batch place).listing s.jobs.rows :=
        Filter.mem_listing.2 ⟨Table.mem_rows.2 ⟨id, hk⟩,
          covers_filterAt.2 ⟨⟨waiting, hold⟩, (frontier k.listKey).2 hbehind⟩⟩
      rcases Filter.mem_page_or_behind orderly.nodup_ids hlisting with hpage | ⟨hfull, hpage⟩
      · exact .inl (List.mem_map.2 ⟨k, List.mem_append_right seen hpage, hid⟩)
      · refine .inr ⟨hfull, k, hk, fun j hj => ?_⟩
        rcases List.mem_append.1 hj with hj | hj
        · exact hbehind j hj
        · exact precedes_filterAt.1 (hpage j hj)

/-- A job that is on the ready list is checked off. -/
theorem found (books : Books cutoff log s seen (job :: rest) [] full added)
    (present : q.contains job.id = true) :
    Books cutoff (log ++ [.queue q (.contains job.id)]) s seen rest [] full added where
  listed := books.listed
  stored := books.stored
  checked := by simpa using books.checked
  put := by simpa [missed, present] using books.put
  counted := by simpa using books.counted
  calls := by
    have hcalls := books.calls
    simp only [List.length_append, reads_queue, checks_contains, puts_contains,
      List.length_singleton]
    omega
  ahead := by simpa [Steady] using books.ahead

/-- A job that is not on the ready list is due. -/
theorem lacked (books : Books cutoff log s seen (job :: rest) [] full added)
    (absent : q.contains job.id = false) :
    Books cutoff (log ++ [.queue q (.contains job.id)]) s seen rest [job.id] full added where
  listed := books.listed
  stored := books.stored
  checked := by simpa using books.checked
  put := by
    have hput := books.put
    simp only [missed, List.append_nil] at hput
    simp [missed, absent, hput]
  counted := by simpa using books.counted
  calls := by
    have hcalls := books.calls
    simp only [List.length_append, reads_queue, checks_contains, puts_contains,
      List.length_singleton]
    omega
  ahead := by simpa [Steady] using books.ahead

/-- A job that is due is put back. -/
theorem repaid (books : Books cutoff log s seen rest [id] full added) :
    Books cutoff (log ++ [.queue q (.enqueue id)]) s seen rest [] full (added + 1) where
  listed := books.listed
  stored := books.stored
  checked := by simpa using books.checked
  put := by simpa [missed] using books.put
  counted := by simpa using books.counted
  calls := by
    have hcalls := books.calls
    simp only [List.length_append, reads_queue, checks_enqueue, puts_enqueue,
      List.length_singleton]
    omega
  ahead := by simpa [Steady] using books.ahead

end Books

/-! ## The run of a sweep -/

/-- Where a sweep can be, and what it knows there.  All pages before the one at hand were full. -/
inductive Going (cutoff : Time) (batch : Nat) (log : List Entry) (s : Store) : Sweep → Prop
  | listing {seen : List Job} {place : Option ListKey} {added : Nat}
      (books : Books cutoff log s seen [] [] True added)
      (length : seen.length = (reads log).length * max batch 1)
      (frontier : ∀ key, ListKey.Past place key ↔ ∀ j ∈ seen, j.listKey.Before key) :
      Going cutoff batch log s ⟨filterAt cutoff batch place, added, .listing⟩
  | checking {before page rest : List Job} {job : Job} {place : Option ListKey} {added n : Nat}
      (books : Books cutoff log s (before ++ page) (job :: rest) [] (page.length = max batch 1)
        added)
      (turned : (reads log).length = n + 1) (length : before.length = n * max batch 1) :
      Going cutoff batch log s
        ⟨filterAt cutoff batch place, added, .checking page (job :: rest)⟩
  | adding {before page rest : List Job} {job : Job} {place : Option ListKey} {added n : Nat}
      (books : Books cutoff log s (before ++ page) rest [job.id] (page.length = max batch 1) added)
      (turned : (reads log).length = n + 1) (length : before.length = n * max batch 1) :
      Going cutoff batch log s ⟨filterAt cutoff batch place, added, .adding page (job :: rest)⟩
  | finished {seen : List Job} {filter : Filter} {added n : Nat}
      (books : Books cutoff log s seen [] [] False added)
      (turned : (reads log).length = n + 1) (length : n * max batch 1 ≤ seen.length) :
      Going cutoff batch log s ⟨filter, added, .finished (.ok added)⟩

/-- A page with the given rest to be checked: the sweep goes on with the rest, with the next page,
or it ends. -/
theorem Going.check {n : Nat} {phase : SweepPhase}
    (books : Books cutoff log s (before ++ page) rest [] (page.length = max batch 1) added)
    (turned : (reads log).length = n + 1) (length : before.length = n * max batch 1) :
    Going cutoff batch log s
      (Sweep.check ⟨filterAt cutoff batch place, added, phase⟩ page rest) := by
  cases rest with
  | cons job rest => exact .checking books turned length
  | nil =>
    rcases pageDone_cases (w := ⟨filterAt cutoff batch place, added, phase⟩) rfl page with
      ⟨init, last, rfl, hfull, hnext⟩ | ⟨hshort, hnext⟩
    · show Going cutoff batch log s (pageDone _ _)
      rw [hnext]
      refine .listing { books with ahead := fun id steady read => ?_ } ?_
        fun key => ⟨fun past j hj => ?_, fun behind p hp => ?_⟩
      · exact (books.ahead id steady read).imp_right fun ⟨_, behind⟩ => ⟨trivial, behind⟩
      · rw [List.length_append, length, hfull, turned, Nat.succ_mul]
      · -- the last job of the page is the last one of all
        have hlast := past last.listKey rfl
        have hlisted := books.listed
        rw [← List.append_assoc] at hlisted hj
        rcases List.mem_append.1 hj with hj | hj
        · exact ListKey.before_trans
            ((List.pairwise_append.1 hlisted).2.2 j hj last List.mem_cons_self) hlast
        · rw [List.mem_singleton.1 hj]
          exact hlast
      · cases hp
        exact behind last (by simp)
    · show Going cutoff batch log s (pageDone _ _)
      rw [hnext]
      refine .finished { books with ahead := fun id steady read => ?_ } turned ?_
      · exact (books.ahead id steady read).imp_right fun ⟨hfull, _⟩ => absurd hfull hshort
      · rw [List.length_append, length]
        omega

theorem Going.onward (h : s.Onward cutoff s') (going : Going cutoff batch log s w) :
    Going cutoff batch log s' w := by
  cases going with
  | listing books length frontier => exact .listing (books.onward h) length frontier
  | checking books turned length => exact .checking (books.onward h) turned length
  | adding books turned length => exact .adding (books.onward h) turned length
  | finished books turned length => exact .finished (books.onward h) turned length

/-- The sweep begins with empty books. -/
theorem going_begun (s : Store) : Going cutoff batch [] s (from_ cutoff batch) := by
  have hbooks : Books cutoff [] s [] [] [] True 0 :=
    { listed := .nil
      stored := fun _ hj => absurd hj List.not_mem_nil
      checked := rfl
      put := rfl
      counted := rfl
      calls := rfl
      ahead := fun _ _ read => absurd rfl read }
  show Going cutoff batch [] s ⟨filterAt cutoff batch none, 0, .listing⟩
  exact .listing hbooks (Nat.zero_mul _).symm fun key =>
    ⟨fun _ _ hj => absurd hj List.not_mem_nil, fun _ _ hp => by cases hp⟩

/-- The answer of the store takes the sweep on. -/
theorem Going.store (going : Going cutoff batch log s w) (orderly : s.Orderly) (m : Moment)
    {c : StoreCall} {k : c.Reply → Sweep} (asks : w.next = .store c k) :
    (s.perform m c).2 = s ∧
      Going cutoff batch (log ++ [.store s c]) s (k (s.perform m c).1) := by
  cases going with
  | @listing seen place added books length frontier =>
    cases asks
    have hreply : (s.perform m (.list (filterAt cutoff batch place))).1 =
        .ok ((filterAt cutoff batch place).page s.jobs.rows) :=
      list_filterAt s cutoff batch place
    refine ⟨rfl, ?_⟩
    dsimp only
    rw [hreply]
    have hunread : reads log = [] → seen = [] := by
      intro hread
      rw [hread, List.length_nil, Nat.zero_mul] at length
      exact List.eq_nil_of_length_eq_zero length
    exact .check (n := (reads log).length) (books.read orderly hunread frontier) (by simp) length
  | checking books turned length => cases asks
  | adding books turned length => cases asks
  | finished books turned length => cases asks

/-- The answer of the queue takes the sweep on. -/
theorem Going.queue (going : Going cutoff batch log s w) (q : LeaseQueue) (now : Time)
    {c : QueueCall} {k : c.Reply → Sweep} (asks : w.next = .queue c k) :
    Going cutoff batch (log ++ [.queue q c]) s (k (q.perform now c).1) := by
  cases going with
  | listing books length frontier => cases asks
  | @checking before page rest job place added n books turned length =>
    cases asks
    have hreply : (q.perform now (.contains job.id)).1 = .ok (q.contains job.id) := rfl
    dsimp only
    rw [hreply]
    cases hpresent : q.contains job.id with
    | false => exact .adding (books.lacked hpresent) (by simpa using turned) length
    | true => exact .check (books.found hpresent) (by simpa using turned) length
  | adding books turned length =>
    cases asks
    exact .check books.repaid (by simpa using turned) length
  | finished books turned length => cases asks

/-- While a sweep is going it has seen no more than it may. -/
theorem Going.books (going : Going cutoff batch log s w) :
    ∃ seen rest due full added n, Books cutoff log s seen rest due full added ∧
      (reads log).length ≤ n + 1 ∧ n * max batch 1 ≤ seen.length := by
  cases going with
  | listing books length frontier =>
    exact ⟨_, _, _, _, _, _, books, Nat.le_succ _, Nat.le_of_eq length.symm⟩
  | checking books turned length | adding books turned length =>
    refine ⟨_, _, _, _, _, _, books, Nat.le_of_eq turned, ?_⟩
    rw [List.length_append, length]
    omega
  | finished books turned length => exact ⟨_, _, _, _, _, _, books, Nat.le_of_eq turned, length⟩

/-- A sweep that is going has a call to make, or it has ended. -/
theorem Going.call_or_finished (going : Going cutoff batch log s w) :
    (∃ c k, w.next = .store c k) ∨ (∃ c k, w.next = .queue c k) ∨
      w.next = .finished (.ok (puts log).length) := by
  cases going with
  | listing books length frontier => exact .inl ⟨_, _, rfl⟩
  | checking books turned length | adding books turned length => exact .inr (.inl ⟨_, _, rfl⟩)
  | finished books turned length =>
    rw [← books.counted]
    exact .inr (.inr rfl)

/-- A sweep that has ended has checked every job that waited all the time, and it has put back what
it found missing. -/
theorem Going.complete {result : Except JobError Nat} (going : Going cutoff batch log s w)
    (ended : w.next = .finished result) :
    missed log = puts log ∧ ∀ id, Steady cutoff log id → id ∈ (checks log).map (·.2) := by
  cases going with
  | listing books length frontier => cases ended
  | checking books turned length | adding books turned length => cases ended
  | finished books turned length =>
    refine ⟨by simpa using books.put, fun id steady => ?_⟩
    have hread : reads log ≠ [] := by
      intro hread
      rw [hread] at turned
      cases turned
    have hchecked := books.checked
    rw [List.map_nil, List.append_nil] at hchecked
    rw [hchecked]
    exact (books.ahead id steady hread).resolve_right fun ⟨hfalse, _⟩ => hfalse

namespace Scene

/-- All is in order where a sweep is at work. -/
structure Sound (cutoff : Time) (batch : Nat) (start : Store) (x : Scene) : Prop where
  begun : start.Orderly
  orderly : x.store.Orderly
  onward : start.Onward cutoff x.store
  going : Going cutoff batch x.log x.store x.sweep

/-- Where the next call of a sweep takes the scene. -/
theorem Sound.move_sweep (h : x.Sound cutoff batch start) (m : Moment) :
    (x.move (.sweep m)).Sound cutoff batch start ∧
      ((x.move (.sweep m)).log.length = x.log.length + 1 ∨
        (x.move (.sweep m)) = x ∧ x.sweep.next = .finished (.ok (puts x.log).length)) := by
  obtain ⟨hbegun, horderly, honward, hgoing⟩ := h
  rcases hgoing.call_or_finished with ⟨c, k, asks⟩ | ⟨c, k, asks⟩ | ended
  · obtain ⟨hsame, hnext⟩ := hgoing.store horderly m asks
    simp only [move, asks, hsame]
    exact ⟨⟨hbegun, horderly, honward, hnext⟩, .inl (by simp)⟩
  · simp only [move, asks]
    exact ⟨⟨hbegun, horderly, honward, hgoing.queue _ m.now asks⟩, .inl (by simp)⟩
  · have hsame : x.move (.sweep m) = x := by simp only [move, ended]
    rw [hsame]
    exact ⟨⟨hbegun, horderly, honward, hgoing⟩, .inr ⟨rfl, ended⟩⟩

/-- What others do leaves the scene in order. -/
theorem Sound.move_other {move : Move} (h : x.Sound cutoff batch start) (other : move.isOwn = false)
    (late : move.isLate cutoff = true) :
    (x.move move).Sound cutoff batch start ∧ (x.move move).log = x.log ∧
      (x.move move).sweep = x.sweep := by
  obtain ⟨hbegun, horderly, honward, hgoing⟩ := h
  cases move with
  | sweep m => cases other
  | store m c =>
    have hlate : ∀ draft, c = .create draft → cutoff ≤ m.now := by
      rintro draft rfl
      exact of_decide_eq_true late
    have hstep : x.store.Onward cutoff (x.store.perform m c).2 := .perform horderly m hlate
    exact ⟨⟨hbegun, horderly.perform m c, honward.trans hstep, hgoing.onward hstep⟩, rfl, rfl⟩
  | queue now c => exact ⟨⟨hbegun, horderly, honward, hgoing⟩, rfl, rfl⟩
  | pop => exact ⟨⟨hbegun, horderly, honward, hgoing⟩, rfl, rfl⟩

/-- A sweep that has not ended has made a call whenever it was its turn. -/
theorem Sound.run {moves : List Move} (h : x.Sound cutoff batch start)
    (late : ∀ move ∈ moves, move.isLate cutoff = true) :
    (x.run moves).Sound cutoff batch start ∧
      ((x.run moves).log.length = x.log.length + moves.countP (·.isOwn) ∨
        ∃ result, (x.run moves).sweep.next = .finished result) := by
  induction moves using List.reverseRecOn with
  | nil => exact ⟨h, .inl rfl⟩
  | append_singleton moves move ih =>
    obtain ⟨hsound, hcount⟩ := ih fun m hm => late m (List.mem_append_left _ hm)
    rw [Scene.run, List.foldl_append, List.countP_append]
    change ((x.run moves).move move).Sound cutoff batch start ∧ _
    cases hown : move.isOwn with
    | false =>
      obtain ⟨hsound', hlog, hsweep⟩ := hsound.move_other hown (late move (by simp))
      refine ⟨hsound', ?_⟩
      change ((x.run moves).move move).log.length = _ ∨
        ∃ result, ((x.run moves).move move).sweep.next = .finished result
      rw [hlog, hsweep]
      simpa [hown] using hcount
    | true =>
      obtain ⟨m, rfl⟩ : ∃ m, move = .sweep m := by
        cases move with
        | sweep m => exact ⟨m, rfl⟩
        | _ => cases hown
      obtain ⟨hsound', hstep⟩ := hsound.move_sweep m
      refine ⟨hsound', ?_⟩
      change ((x.run moves).move (.sweep m)).log.length = _ ∨
        ∃ result, ((x.run moves).move (.sweep m)).sweep.next = .finished result
      rcases hstep with hlog | ⟨hsame, hended⟩
      · rcases hcount with hcount | ⟨result, hended⟩
        · rw [hlog, hcount]
          exact .inl (by simp [hown, Nat.add_assoc])
        · simp [move, hended] at hlog
      · rw [hsame]
        exact .inr ⟨_, hended⟩

end Scene

/-- The calls that a sweep of so many jobs makes at most: a reading for each page, and a check and
an entry for each job. -/
def callsFor (jobs batch : Nat) : Nat := jobs / max batch 1 + 1 + 2 * jobs

/-- The calls of a sweep are bounded by the number of jobs that it may see. -/
theorem Scene.Sound.bounded (h : x.Sound cutoff batch start) :
    (reads x.log).length ≤ (start.older cutoff).length / max batch 1 + 1 ∧
      x.log.length ≤ callsFor (start.older cutoff).length batch := by
  obtain ⟨seen, rest, due, full, added, n, hbooks, hturned, hlength⟩ := h.going.books
  have hseen := hbooks.length_le h.onward h.begun
  have hreads : (reads x.log).length ≤ (start.older cutoff).length / max batch 1 + 1 := by
    have hn : n ≤ (start.older cutoff).length / max batch 1 :=
      (Nat.le_div_iff_mul_le (by omega)).2 (Nat.le_trans hlength hseen)
    omega
  have hchecks := hbooks.checks_length_le
  have hputs := hbooks.puts_length_le
  have hcalls := hbooks.calls
  refine ⟨hreads, ?_⟩
  unfold callsFor
  omega

/-- A sweep ends and is thorough, whatever others do between any two of its calls, as long as they
create no job before its cutoff.  It reads no more pages than the jobs created before the cutoff can
fill, and one; it ends after a bounded number of calls; it puts no job back twice, and only jobs
that it found missing.  At its end every job that waited at each of its readings was checked once,
and it was put back, once, if it was missing then. -/
theorem Scene.thorough_run (calls : List (Moment × StoreCall)) (q : LeaseQueue) (cutoff : Time)
    (batch : Nat) (moves : List Move) (late : ∀ move ∈ moves, move.isLate cutoff = true) :
    let start := Store.empty.afterAll calls
    let x := Scene.run { store := start, queue := q, sweep := from_ cutoff batch } moves
    (reads x.log).length ≤ (start.older cutoff).length / max batch 1 + 1 ∧
      (callsFor (start.older cutoff).length batch ≤ moves.countP (·.isOwn) →
        ∃ result, x.sweep.next = .finished result) ∧
      (puts x.log).Nodup ∧ ((checks x.log).map (·.2)).Nodup ∧
      (∀ id ∈ puts x.log, ∃ found, (found, id) ∈ checks x.log ∧ id ∉ found.ready) ∧
      ∀ result, x.sweep.next = .finished result → result = .ok (puts x.log).length ∧
        ∀ id, (∀ found ∈ reads x.log, found.Waits cutoff id) →
          ∃ found, (found, id) ∈ checks x.log ∧
            (id ∉ found.ready → (puts x.log).count id = 1) := by
  intro start x
  have horderly : start.Orderly := (Lived.dealings calls).orderly
  have hstart : Sound cutoff batch start
      { store := start, queue := q, sweep := from_ cutoff batch } :=
    ⟨horderly, horderly, .of_jobs_eq rfl, going_begun start⟩
  obtain ⟨hsound, hcount⟩ := hstart.run late
  obtain ⟨seen, rest, due, full, added, n, hbooks, -, -⟩ := hsound.going.books
  have hmissed : ∀ id, id ∈ missed x.log ↔
      ∃ found, (found, id) ∈ checks x.log ∧ id ∉ found.ready := by
    intro id
    simp [missed, LeaseQueue.contains]
  refine ⟨hsound.bounded.1, fun enough => ?_, hbooks.put_nodup, hbooks.checked_nodup,
    fun id hid => ?_, fun result ended => ⟨?_, fun id steady => ?_⟩⟩
  · rcases hcount with hcount | hended
    · -- one more call would be one too many
      obtain ⟨hsound', hstep⟩ := hsound.move_sweep ⟨cutoff, default⟩
      rcases hstep with hlog | ⟨-, hended⟩
      · have hbound := hsound'.bounded.2
        rw [hlog, hcount] at hbound
        simp only [List.length_nil] at hbound
        omega
      · exact ⟨_, hended⟩
    · exact hended
  · refine (hmissed id).1 ?_
    rw [show missed x.log = _ from hbooks.put]
    exact List.mem_append_left _ hid
  · rcases hsound.going.call_or_finished with ⟨c, k, asks⟩ | ⟨c, k, asks⟩ | hended
    · cases asks.symm.trans ended
    · cases asks.symm.trans ended
    · cases hended.symm.trans ended
      rfl
  · obtain ⟨hput, hall⟩ := hsound.going.complete ended
    obtain ⟨⟨found, id⟩, hmem, rfl⟩ := List.mem_map.1 (hall id steady)
    refine ⟨found, hmem, fun absent => List.count_eq_one_of_mem hbooks.put_nodup ?_⟩
    rw [← show missed x.log = puts x.log from hput]
    exact (hmissed id).2 ⟨found, hmem, absent⟩

/-- Three jobs wait. -/
def backlog : List (Moment × StoreCall) :=
  let draft : Draft := { tenant := "acme", model := "small" }
  [(⟨⟨1⟩, .numbered 1 1⟩, .create draft), (⟨⟨2⟩, .numbered 2 2⟩, .create draft),
    (⟨⟨3⟩, .numbered 3 3⟩, .create draft)]

/-- A sweep with pages of one job reads the first page, and then a worker starts the second job, a
new job is created, and somebody pushes the third job after the sweep has missed it. -/
def disturbance : List Move :=
  let moment : Moment := ⟨⟨20⟩, .numbered 20 4⟩
  let own : Move := .sweep moment
  [own, own, .store moment (.start (FreshIds.numbered 2 2).job ⟨"worker-1"⟩), own,
    .store moment (.create { tenant := "acme", model := "small" }), own, own,
    .queue ⟨20⟩ (.enqueue (FreshIds.numbered 3 3).job), own, own, .pop, own, own, own]

theorem Scene.thorough_disturbance :
    ∃ result, (Scene.run
      { store := Store.empty.afterAll backlog, queue := {}, sweep := from_ ⟨10⟩ 1 }
      disturbance).sweep.next = .finished result :=
  (thorough_run backlog {} ⟨10⟩ 1 disturbance (by decide)).2.1 (by decide +kernel)

end Sweep

end Dispatch
