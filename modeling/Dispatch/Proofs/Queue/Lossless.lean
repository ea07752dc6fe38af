import Dispatch.Proofs.Cluster.Alone
import Dispatch.Proofs.Queue.Waiters
import Mathlib.Data.List.Perm.Basic

/-!
# No entry and no bell is missed

`Hall.Lossless` collects what a hall keeps, whoever comes and whenever they are interrupted.  Part
of it is what ties the hall to a cluster (`Hall.Carries`): what a machine of the cluster does at the
ready list in one go is a series of moves of the hall.
-/

namespace Dispatch

/-! ## Looking for an entry -/

namespace Running

variable {c : Cluster} {seen : Nat} {deadline : Time}

theorem take_found (usable : c.queue.closed = false) {front : List JobId} {id : JobId}
    (found : c.queue.ready = front ++ [id]) :
    take seen deadline none c =
      (.ok (.ok (some id)), { c with queue := { c.queue with ready := front } }) := by
  rw [take, if_neg (Bool.not_eq_true _ ▸ usable), Cluster.pop, LeaseQueue.pop_of_snoc found]
  rfl

theorem take_late (usable : c.queue.closed = false) (empty : c.queue.ready = [])
    (late : deadline ≤ c.now) : take seen deadline none c = (.ok (.ok none), c) := by
  rw [take, if_neg (Bool.not_eq_true _ ▸ usable), Cluster.pop, LeaseQueue.pop_of_empty empty]
  exact if_pos late

theorem take_early (usable : c.queue.closed = false) (empty : c.queue.ready = [])
    (early : ¬ deadline ≤ c.now) :
    take seen deadline none c =
      (.error (.waits (.entry seen ⟨deadline, c.alarms⟩ none)),
        { c with alarms := c.alarms + 1 }) := by
  rw [take, if_neg (Bool.not_eq_true _ ▸ usable), Cluster.pop, LeaseQueue.pop_of_empty empty]
  exact if_neg early

end Running

namespace Hall

/-- The cluster has the clock and the queue of the hall, and as many entries were pushed as the bell
was rung. -/
structure Shows (h : Hall) (c : Cluster) : Prop where
  now : c.now = h.now
  queue : c.queue = h.queue
  bells : c.pushes = h.bells

/-- A machine that asks for an entry, or waits for one, is this visitor. -/
inductive Stands (timeout : Span) (now : Time) : Wait → Visit → Prop
  | begins {w : Wait} (idle : ∀ seen alarm lost, w ≠ .entry seen alarm lost) :
      Stands timeout now w (.dequeue timeout now .register)
  | waits {seen : Nat} {alarm : Alarm} {since : Time} (due : alarm.due = since + timeout)
      (patient : timeout ≠ .zero) :
      Stands timeout now (.entry seen alarm none) (.dequeue timeout since (.wait seen))

/-- A machine that has asked for an entry has what the visitor has.  One that broke off has not
looked at the list, and its clock ends before its time would. -/
inductive Leaves (clockEnd : Time) (timeout : Span) : Except Halt DequeueReply → Visit → Prop
  | came {since : Time} (id : Option JobId) :
      Leaves clockEnd timeout (.ok (.ok id)) (.dequeue timeout since (.returned id))
  | waits {seen : Nat} {alarm : Alarm} {since : Time} (due : alarm.due = since + timeout) :
      Leaves clockEnd timeout (.error (.waits (.entry seen alarm none)))
        (.dequeue timeout since (.wait seen))
  | breaks {since : Time} (beyond : clockEnd ≤ since + timeout) :
      Leaves clockEnd timeout (.error .breaks) (.dequeue timeout since .register)

/-- Some moves lead to a hall that the cluster shows, with such a visitor. -/
def Reaches (h : Hall) (i : Nat) (c : Cluster) (here : Visit → Prop) : Prop :=
  ∃ moves, (h.run moves).Shows c ∧ ∃ v, (h.run moves).visits[i]? = some v ∧ here v

section Dequeue

variable {h : Hall} {c : Cluster} {i : Nat} {timeout : Span} {since : Time} {here : Visit → Prop}

theorem Reaches.now {v : Visit} (shows : h.Shows c) (there : h.visits[i]? = some v) (hv : here v) :
    h.Reaches i c here :=
  ⟨[], shows, v, there, hv⟩

/-- The visitor takes a step and goes on. -/
theorem Reaches.go {v : Visit} (there : h.visits[i]? = some v)
    (later : ((h.advance v).2.put i (h.advance v).1).Reaches i c here) : h.Reaches i c here := by
  obtain ⟨moves, hmoves⟩ := later
  refine ⟨.go i :: moves, ?_⟩
  show ((h.step (.go i)).run moves).Shows c ∧ _
  rw [run, h.step_go there]
  exact hmoves

/-- The visitor stops waiting and goes on. -/
theorem Reaches.expire {v : Visit} (there : h.visits[i]? = some v)
    (later : (h.put i (h.timeOut v)).Reaches i c here) : h.Reaches i c here := by
  obtain ⟨moves, hmoves⟩ := later
  refine ⟨.expire i :: moves, ?_⟩
  show ((h.step (.expire i)).run moves).Shows c ∧ _
  rw [run, h.step_expire there]
  exact hmoves

theorem getElem?_put {next : Hall} {v : Visit} (there : h.visits[i]? = some v)
    (visits : next.visits = h.visits) (w : Visit) : (next.put i w).visits[i]? = some w := by
  show (next.visits.set i w)[i]? = some w
  rw [visits, List.getElem?_set_self', there]
  rfl

/-- Somebody whose time is up looks once more. -/
theorem reaches_lastCheck (shows : h.Shows c) (usable : c.queue.closed = false)
    (there : h.visits[i]? = some (.dequeue timeout since .lastCheck))
    (late : since + timeout ≤ c.now) :
    h.Reaches i (Running.take c.pushes (since + timeout) none c).2
      (Leaves c.queue.clockEnd timeout (Running.take c.pushes (since + timeout) none c).1) := by
  refine .go there ?_
  show ((h.look timeout since (.returned none)).2.put i (h.look timeout since _).1).Reaches i _ _
  rcases h.look_cases timeout since (.returned none) with ⟨hempty, hlook⟩ |
    ⟨front, id, hready, hlook⟩
  · rw [hlook, Running.take_late usable (shows.queue ▸ hempty) late]
    exact .now ⟨shows.now, shows.queue, shows.bells⟩ (getElem?_put there rfl _) (.came none)
  · rw [hlook, Running.take_found usable (shows.queue ▸ hready)]
    refine .now ⟨shows.now, ?_, shows.bells⟩ (getElem?_put there rfl _) (.came (some id))
    rw [shows.queue]
    rfl

/-- Somebody who has registered looks for an entry. -/
theorem reaches_check (shows : h.Shows c) (usable : c.queue.closed = false)
    (there : h.visits[i]? = some (.dequeue timeout since (.check c.pushes)))
    (time : timeout ≠ .zero ∨ since = h.now) :
    h.Reaches i (Running.take c.pushes (since + timeout) none c).2
      (Leaves c.queue.clockEnd timeout (Running.take c.pushes (since + timeout) none c).1) := by
  refine .go there ?_
  show ((h.look timeout since _).2.put i (h.look timeout since _).1).Reaches i _ _
  have hshows : ∀ v, (h.put i v).Shows c := fun v => ⟨shows.now, shows.queue, shows.bells⟩
  rcases h.look_cases timeout since (if timeout = .zero then .returned none else .wait c.pushes)
    with ⟨hempty, hlook⟩ | ⟨front, id, hready, hlook⟩
  · rw [hlook]
    by_cases hzero : timeout = .zero
    · -- without time to wait the visitor leaves
      have hlate : since + timeout ≤ c.now := by
        obtain rfl : since = h.now := time.resolve_left fun hne => hne hzero
        rw [hzero, shows.now]
        exact Int.le_of_eq (Int.add_zero _)
      rw [if_pos hzero, Running.take_late usable (shows.queue ▸ hempty) hlate]
      exact .now (hshows _) (getElem?_put there rfl _) (.came none)
    · rw [if_neg hzero]
      have hthere : (h.put i (.dequeue timeout since (.wait c.pushes))).visits[i]? =
          some (.dequeue timeout since (.wait c.pushes)) := getElem?_put there rfl _
      by_cases hlate : since + timeout ≤ c.now
      · -- the time is up already, so the visitor looks once more
        refine .expire hthere ?_
        have htimeOut : (h.put i (.dequeue timeout since (.wait c.pushes))).timeOut
            (.dequeue timeout since (.wait c.pushes)) = .dequeue timeout since .lastCheck := by
          show Visit.dequeue timeout since (if since + timeout ≤ h.now then _ else _) = _
          rw [if_pos (shows.now ▸ hlate)]
        rw [htimeOut]
        exact reaches_lastCheck ⟨shows.now, shows.queue, shows.bells⟩ usable
          (getElem?_put hthere rfl _) hlate
      · rw [Running.take_early usable (shows.queue ▸ hempty) hlate]
        exact .now ⟨shows.now, shows.queue, shows.bells⟩ hthere (.waits rfl)
  · rw [hlook, Running.take_found usable (shows.queue ▸ hready)]
    refine .now ⟨shows.now, ?_, shows.bells⟩ (getElem?_put there rfl _) (.came (some id))
    rw [shows.queue]
    rfl

/-- Somebody who has just come or was woken registers and looks for an entry. -/
theorem reaches_register (shows : h.Shows c) (usable : c.queue.closed = false)
    (there : h.visits[i]? = some (.dequeue timeout since .register))
    (time : timeout ≠ .zero ∨ since = h.now) :
    h.Reaches i (Running.take c.pushes (since + timeout) none c).2
      (Leaves c.queue.clockEnd timeout (Running.take c.pushes (since + timeout) none c).1) := by
  refine .go there ?_
  refine reaches_check ⟨shows.now, shows.queue, shows.bells⟩ usable ?_ time
  rw [shows.bells]
  exact getElem?_put there rfl _

/-- A machine that asks for an entry, or goes on waiting for one, does what the visitor does. -/
theorem reaches_dequeue {σ : Type} {r : Running σ} {v : Visit} (shows : h.Shows c)
    (usable : c.queue.closed = false) (there : h.visits[i]? = some v) (direct : r.direct = true)
    (stands : Stands timeout h.now r.wait v) :
    h.Reaches i (r.dequeue timeout c).2
      (Leaves c.queue.clockEnd timeout (r.dequeue timeout c).1) := by
  generalize hwait : r.wait = wait at stands
  cases stands with
  | begins idle =>
    have hdequeue : r.dequeue timeout c = Running.begin_ timeout none c := by
      unfold Running.dequeue
      split
      · rename_i seen deadline lost heq
        exact absurd (hwait.symm.trans heq) (idle seen deadline lost)
      · simp [Running.strikeDequeue, direct]
    rw [hdequeue, Running.begin_, shows.now]
    by_cases hreaches : c.queue.reaches (h.now + timeout) = true
    · rw [if_pos hreaches]
      exact reaches_register shows usable there (.inr rfl)
    · rw [if_neg hreaches]
      refine .now shows there (.breaks ?_)
      exact Int.not_lt.1 fun hlt => hreaches (decide_eq_true hlt)
  | @waits seen alarm since due patient =>
    unfold Running.dequeue
    rw [hwait]
    dsimp only
    by_cases hrung : seen < c.pushes
    · rw [if_pos (.inl hrung), due]
      refine .go there ?_
      have hwoken : (h.advance (.dequeue timeout since (.wait seen))) =
          (.dequeue timeout since .register, h) := by
        show (Visit.dequeue timeout since (if seen < h.bells then _ else _), h) = _
        rw [if_pos (shows.bells ▸ hrung)]
      rw [hwoken]
      exact reaches_register ⟨shows.now, shows.queue, shows.bells⟩ usable
        (getElem?_put there rfl _) (.inl patient)
    · by_cases hdue : since + timeout ≤ c.now
      · have hisDue : alarm.isDue c.now = true := by
          rw [Alarm.isDue, due]
          exact decide_eq_true hdue
        rw [if_pos (.inr hisDue), due]
        refine .expire there ?_
        have htimeOut : h.timeOut (.dequeue timeout since (.wait seen)) =
            .dequeue timeout since .lastCheck := by
          show Visit.dequeue timeout since (if since + timeout ≤ h.now then _ else _) = _
          rw [if_pos (shows.now ▸ hdue)]
        rw [htimeOut]
        exact reaches_lastCheck ⟨shows.now, shows.queue, shows.bells⟩ usable
          (getElem?_put there rfl _) hdue
      · have hisDue : alarm.isDue c.now = false := by
          rw [Alarm.isDue, due]
          exact decide_eq_false hdue
        rw [if_neg (by simp [hrung, hisDue])]
        exact .now shows there (.waits due)

/-- A machine that enters an entry pushes it and rings the bell. -/
theorem reaches_enqueue {id : JobId} (shows : h.Shows c) (usable : c.queue.closed = false)
    (there : h.visits[i]? = some (.enqueue id .push)) :
    h.Reaches i (c.queueDirectly (.enqueue id)).2 (· = .enqueue id .done) := by
  rw [Cluster.queueDirectly_of_returns usable rfl]
  refine .go there (.go (getElem?_put there rfl _) ?_)
  refine .now ⟨shows.now, ?_, ?_⟩ (getElem?_put (getElem?_put there rfl _) rfl _) rfl
  · show c.queue.enqueue id = h.queue.enqueue id
    rw [shows.queue]
  · show c.pushes + 1 = h.bells + 1
    rw [shows.bells]

/-- A machine that removes entries is told how many the visitor removed. -/
theorem reaches_remove {id : JobId} (shows : h.Shows c) (usable : c.queue.closed = false)
    (there : h.visits[i]? = some (.remove id none)) :
    ∃ n, (c.queueDirectly (.remove id)).1 = .ok n ∧
      h.Reaches i (c.queueDirectly (.remove id)).2 (· = .remove id (some n)) := by
  rw [Cluster.queueDirectly_of_returns usable rfl]
  refine ⟨(c.queue.remove id).1, rfl, .go there ?_⟩
  refine .now ⟨shows.now, ?_, shows.bells⟩ (getElem?_put there rfl _) ?_
  · show (c.queue.remove id).2 = (h.queue.remove id).2
    rw [shows.queue]
  · rw [shows.queue]
    rfl

end Dequeue

/-! ## What a hall keeps -/

/-- What the machines of a cluster do at the ready list in one go are moves of the hall. -/
structure Carries (h : Hall) (c : Cluster) : Prop where
  enqueue : ∀ i id, h.visits[i]? = some (.enqueue id .push) →
    h.Reaches i (c.queueDirectly (.enqueue id)).2 (· = .enqueue id .done)
  remove : ∀ i id, h.visits[i]? = some (.remove id none) →
    ∃ n, (c.queueDirectly (.remove id)).1 = .ok n ∧
      h.Reaches i (c.queueDirectly (.remove id)).2 (· = .remove id (some n))
  dequeue : ∀ (σ : Type) (r : Running σ) timeout i v, r.direct = true →
    h.visits[i]? = some v → Stands timeout h.now r.wait v →
      h.Reaches i (r.dequeue timeout c).2
      (Leaves c.queue.clockEnd timeout (r.dequeue timeout c).1)

/-- What a hall keeps, whoever comes and whenever they are interrupted. -/
structure Lossless (h : Hall) : Prop where
  /-- The entries that were pushed are those that were returned, those that were counted by
  removals, and those that are in the list. -/
  conserved : (h.visits.flatMap Visit.entered).Perm
    (h.visits.flatMap Visit.got ++ h.visits.flatMap Visit.dropped ++ h.queue.ready)
  /-- Entries are returned in the order in which they were pushed, and those in the list come
  next. -/
  ordered : (h.taken ++ h.queue.ready.reverse).Sublist h.pushed
  /-- What was noted as pushed and as taken was pushed and returned. -/
  noted : h.pushed.Perm (h.visits.flatMap Visit.entered) ∧
    h.taken.Perm (h.visits.flatMap Visit.got)
  /-- When there are entries and nobody is between pushing one and ringing the bell, the bell has
  been rung for everybody who waits. -/
  woken : h.queue.ready ≠ [] → (∀ (i : Nat) id, h.visits[i]? ≠ some (Visit.enqueue id .notify)) →
    ∀ (i : Nat) timeout since seen, h.visits[i]? = some (.dequeue timeout since (.wait seen)) →
      seen < h.bells
  /-- Nobody waits without time. -/
  impatient : ∀ (i : Nat) since seen, h.visits[i]? ≠ some (Visit.dequeue .zero since (.wait seen))
  /-- Who comes away with nothing finds the list empty, and does so not before the deadline if
  there is time to wait. -/
  vain : ∀ m (i : Nat) timeout since,
    h.visits[i]? ≠ some (Visit.dequeue timeout since (.returned none)) →
      (h.step m).visits[i]? = some (Visit.dequeue timeout since (.returned none)) →
        h.queue.ready = [] ∧ (h.step m).queue = h.queue ∧
          (timeout ≠ .zero → since + timeout ≤ h.now)
  /-- A cluster that shows the hall does nothing at the ready list but make its moves. -/
  carries : ∀ c, h.Shows c → h.Carries c

theorem lossless_of_invariants {h : Hall} (accounted : h.Accounted) (awake : h.Awake)
    (usable : h.queue.closed = false) : h.Lossless where
  conserved := by
    rw [List.perm_iff_count]
    intro id
    have hpushed := accounted.pushed id
    have htaken := accounted.taken id
    have hbalance := accounted.balance id
    rw [List.count_append, List.count_append]
    omega
  ordered := accounted.order
  noted := ⟨List.perm_iff_count.2 accounted.pushed, List.perm_iff_count.2 accounted.taken⟩
  woken := by
    intro hready hsilent i timeout since seen hwaits
    obtain ⟨-, -, hbell⟩ := awake _ (List.mem_of_getElem? hwaits)
    rcases hbell with hrung | hempty | ⟨id, hid⟩
    · exact hrung
    · exact absurd hempty hready
    · obtain ⟨k, hk⟩ := List.mem_iff_getElem?.1 hid
      exact absurd hk (hsilent k id)
  impatient := by
    intro i since seen hwaits
    exact (awake _ (List.mem_of_getElem? hwaits)).1 rfl
  vain := by
    intro m i timeout since hbefore hafter
    exact Awake.returned_none (h.moves_step m) awake hbefore hafter
  carries := by
    intro c shows
    have husable : c.queue.closed = false := shows.queue ▸ usable
    exact ⟨fun i id => reaches_enqueue shows husable, fun i id => reaches_remove shows husable,
      fun σ r timeout i v direct there => reaches_dequeue shows husable there direct⟩

/-- Whatever happens in a hall, no entry and no bell is missed. -/
theorem lossless_run (now : Time) (ttl : Span) (moves : List Move) :
    ((opened now ttl).run moves).Lossless :=
  lossless_of_invariants
    (kept_by_run _ (fun moves h => h.moves moves) (Accounted.opened now ttl) moves)
    (kept_by_run _ (fun moves h => h.moves moves) (Awake.opened now ttl) moves)
    (kept_by_run _ (fun moves h => (closed_moves moves).trans h) rfl moves)

/-- Two visitors wait, one entry wakes both: the first takes it, and the second waits for the next
bell. -/
example :
    let id := (FreshIds.numbered 1 1).job
    let timeout := Span.ofSeconds 5
    ((opened ⟨0⟩ (.ofSeconds 30)).run [.dequeue timeout, .dequeue timeout, .go 0, .go 0, .go 1,
      .go 1, .enqueue id, .go 2, .go 2, .go 0, .go 0, .go 0, .go 1, .go 1, .go 1]).visits =
        [.dequeue timeout ⟨0⟩ (.returned (some id)), .dequeue timeout ⟨0⟩ (.wait 1),
          .enqueue id .done] := by decide

end Hall

end Dispatch
