import Dispatch.Queue.Basic
import Dispatch.Time.Instant

/-!
# Taking entries while others come and go

A machine of a cluster enters, removes and takes entries in one go.  In a process with several
threads everybody who is at the ready list may be interrupted between any two of these steps: an
entry is pushed and then a bell is rung for all who wait; who wants an entry registers, looks at
the list, waits for the bell, and registers again, or looks once more when the time is up.

A `Hall` is the ready list with everybody who ever was at it, and how often the bell was rung.
Somebody who registered when the bell had been rung `n` times is woken by the next ring, so to wait
is to wait for a number greater than `n`.  A schedule is a list of moves, and any list is one: a
move that cannot be made changes nothing.
-/

namespace Dispatch

/-- Nothing comes off an empty list. -/
theorem LeaseQueue.pop_of_empty {q : LeaseQueue} (h : q.ready = []) : q.pop = (none, q) := by
  obtain ⟨ready, leases, ttl⟩ := q
  subst h
  rfl

/-- The last entry comes off. -/
theorem LeaseQueue.pop_of_snoc {q : LeaseQueue} {front : List JobId} {id : JobId}
    (h : q.ready = front ++ [id]) : q.pop = (some id, { q with ready := front }) := by
  simp [pop, h]

/-- How far somebody is who enters an entry. -/
inductive Entering where
  | push
  | notify
  | done
deriving DecidableEq, Repr

/-- How far somebody is who takes an entry. -/
inductive Taking where
  | register
  /-- Registered, when the bell had been rung so often. -/
  | check (seen : Nat)
  | wait (seen : Nat)
  /-- The time is up. -/
  | lastCheck
  | returned (id : Option JobId)
deriving DecidableEq, Repr

/-- Somebody who is or was at the ready list. -/
inductive Visit where
  | enqueue (id : JobId) (stage : Entering)
  /-- Afterwards with the number of entries that were removed. -/
  | remove (id : JobId) (count : Option Nat)
  | dequeue (timeout : Span) (since : Time) (stage : Taking)
deriving DecidableEq, Repr

namespace Visit

/-- The entry that was pushed. -/
def entered : Visit → List JobId
  | enqueue id .notify | enqueue id .done => [id]
  | _ => []

/-- The entry that was returned. -/
def got : Visit → List JobId
  | dequeue _ _ (.returned (some id)) => [id]
  | _ => []

/-- The entries that were removed, as they were counted. -/
def dropped : Visit → List JobId
  | remove id (some n) => List.replicate n id
  | _ => []

end Visit

/-- The ready list and everybody at it. -/
structure Hall where
  now : Time
  queue : LeaseQueue := {}
  /-- How often the bell was rung. -/
  bells : Nat := 0
  /-- In the order in which they came. -/
  visits : List Visit := []
  /-- The entries ever pushed, oldest first. -/
  pushed : List JobId := []
  /-- The entries ever taken, in the order in which they were. -/
  taken : List JobId := []

/-- What can happen. -/
inductive Hall.Move where
  | enqueue (id : JobId)
  | remove (id : JobId)
  | dequeue (timeout : Span)
  /-- The visitor of this number takes the next step. -/
  | go (i : Nat)
  /-- The time of the visitor of this number is up. -/
  | expire (i : Nat)
  | pass (span : Span)
deriving Repr

namespace Hall

variable (h : Hall)

/-- The hall before anybody comes. -/
def opened (now : Time) (ttl : Span) : Hall := { now, queue := { ttl } }

/-- Look for an entry. -/
def look (timeout : Span) (since : Time) (otherwise : Taking) : Visit × Hall :=
  match h.queue.pop with
  | (some id, queue) =>
    (.dequeue timeout since (.returned (some id)), { h with queue, taken := h.taken ++ [id] })
  | (none, queue) => (.dequeue timeout since otherwise, { h with queue })

/-- The next step of a visitor. -/
def advance : Visit → Visit × Hall
  | .enqueue id .push =>
    (.enqueue id .notify, { h with queue := h.queue.enqueue id, pushed := h.pushed ++ [id] })
  | .enqueue id .notify => (.enqueue id .done, { h with bells := h.bells + 1 })
  | .enqueue id .done => (.enqueue id .done, h)
  | .remove id none =>
    (.remove id (some (h.queue.remove id).1), { h with queue := (h.queue.remove id).2 })
  | .remove id (some n) => (.remove id (some n), h)
  | .dequeue timeout since .register => (.dequeue timeout since (.check h.bells), h)
  | .dequeue timeout since (.check seen) =>
    h.look timeout since (if timeout = .zero then .returned none else .wait seen)
  | .dequeue timeout since (.wait seen) =>
    (.dequeue timeout since (if seen < h.bells then .register else .wait seen), h)
  | .dequeue timeout since .lastCheck => h.look timeout since (.returned none)
  | .dequeue timeout since (.returned id) => (.dequeue timeout since (.returned id), h)

/-- The visitor stops waiting if the time is up. -/
def timeOut : Visit → Visit
  | .dequeue timeout since (.wait seen) =>
    .dequeue timeout since (if since + timeout ≤ h.now then .lastCheck else .wait seen)
  | v => v

/-- The hall with a visitor changed. -/
def put (i : Nat) (v : Visit) : Hall := { h with visits := h.visits.set i v }

/-- The hall with one visitor more. -/
def welcome (v : Visit) : Hall := { h with visits := h.visits ++ [v] }

/-- Make a move. -/
def step : Move → Hall
  | .enqueue id => h.welcome (.enqueue id .push)
  | .remove id => h.welcome (.remove id none)
  | .dequeue timeout => h.welcome (.dequeue timeout h.now .register)
  | .go i =>
    match h.visits[i]? with
    | some v => let (v, next) := h.advance v; next.put i v
    | none => h
  | .expire i =>
    match h.visits[i]? with
    | some v => h.put i (h.timeOut v)
    | none => h
  | .pass span => { h with now := h.now + span }

/-- Make some moves, one after the other. -/
def run : Hall → List Move → Hall
  | h, [] => h
  | h, m :: rest => run (h.step m) rest

theorem run_append (moves rest : List Move) : h.run (moves ++ rest) = (h.run moves).run rest := by
  induction moves generalizing h with
  | nil => rfl
  | cons m moves ih => exact ih (h.step m)

theorem step_go {i : Nat} {v : Visit} (there : h.visits[i]? = some v) :
    h.step (.go i) = (h.advance v).2.put i (h.advance v).1 := by
  simp [step, there]

theorem step_expire {i : Nat} {v : Visit} (there : h.visits[i]? = some v) :
    h.step (.expire i) = h.put i (h.timeOut v) := by
  simp [step, there]

@[simp] theorem visits_put (i : Nat) (v : Visit) : (h.put i v).visits = h.visits.set i v := rfl

/-! ## What can happen to a visitor -/

/-- A visitor looks at the list in this stage. -/
inductive Looks (timeout : Span) : Taking → Prop
  | first (seen : Nat) : Looks timeout (.check seen)
  | last : Looks timeout .lastCheck

/-- A visitor does something, or the time is up: the visitor and the hall become these. -/
inductive Acts (h : Hall) : Visit → Visit → Hall → Prop
  | rest (v : Visit) : Acts h v v h
  | push (id : JobId) : Acts h (.enqueue id .push) (.enqueue id .notify)
      { h with queue := h.queue.enqueue id, pushed := h.pushed ++ [id] }
  | notify (id : JobId) : Acts h (.enqueue id .notify) (.enqueue id .done)
      { h with bells := h.bells + 1 }
  | remove (id : JobId) : Acts h (.remove id none) (.remove id (some (h.queue.remove id).1))
      { h with queue := (h.queue.remove id).2 }
  | register (timeout : Span) (since : Time) :
      Acts h (.dequeue timeout since .register) (.dequeue timeout since (.check h.bells)) h
  /-- There is an entry, and it is taken. -/
  | take {timeout : Span} {since : Time} {stage : Taking} {id : JobId} {front : List JobId}
      (looks : Looks timeout stage) (found : h.queue.ready = front ++ [id]) :
      Acts h (.dequeue timeout since stage) (.dequeue timeout since (.returned (some id)))
        { h with queue := { h.queue with ready := front }, taken := h.taken ++ [id] }
  /-- There is no entry, and there is no time to wait for one or no time left. -/
  | leave {timeout : Span} {since : Time} {stage : Taking} (looks : Looks timeout stage)
      (empty : h.queue.ready = []) (late : stage = .lastCheck ∨ timeout = .zero) :
      Acts h (.dequeue timeout since stage) (.dequeue timeout since (.returned none)) h
  | park {timeout : Span} {since : Time} {seen : Nat} (patient : timeout ≠ .zero)
      (empty : h.queue.ready = []) :
      Acts h (.dequeue timeout since (.check seen)) (.dequeue timeout since (.wait seen)) h
  | wake {timeout : Span} {since : Time} {seen : Nat} (rung : seen < h.bells) :
      Acts h (.dequeue timeout since (.wait seen)) (.dequeue timeout since .register) h
  | expire {timeout : Span} {since : Time} {seen : Nat} (due : since + timeout ≤ h.now) :
      Acts h (.dequeue timeout since (.wait seen)) (.dequeue timeout since .lastCheck) h

/-- Looking at the list brings its oldest entry, or there is none. -/
theorem look_cases (timeout : Span) (since : Time) (otherwise : Taking) :
    (h.queue.ready = [] ∧
        h.look timeout since otherwise = (.dequeue timeout since otherwise, h)) ∨
      ∃ front id, h.queue.ready = front ++ [id] ∧ h.look timeout since otherwise =
        (.dequeue timeout since (.returned (some id)),
          { h with queue := { h.queue with ready := front }, taken := h.taken ++ [id] }) := by
  rcases List.eq_nil_or_concat h.queue.ready with hempty | ⟨front, id, hready⟩
  · refine .inl ⟨hempty, ?_⟩
    unfold look
    rw [LeaseQueue.pop_of_empty hempty]
  · rw [List.concat_eq_append] at hready
    refine .inr ⟨front, id, hready, ?_⟩
    unfold look
    rw [LeaseQueue.pop_of_snoc hready]

theorem acts_advance (v : Visit) : Acts h v (h.advance v).1 (h.advance v).2 := by
  cases v with
  | enqueue id stage =>
    cases stage with
    | push => exact .push id
    | notify => exact .notify id
    | done => exact .rest _
  | remove id count =>
    cases count with
    | none => exact .remove id
    | some n => exact .rest _
  | dequeue timeout since stage =>
    cases stage with
    | register => exact .register timeout since
    | returned id => exact .rest _
    | wait seen =>
      by_cases hrung : seen < h.bells
      · simpa [advance, hrung] using Acts.wake hrung
      · simpa [advance, hrung] using Acts.rest _
    | lastCheck =>
      show Acts h _ (h.look timeout since (.returned none)).1 (h.look timeout since _).2
      rcases h.look_cases timeout since (.returned none) with ⟨hempty, hlook⟩ |
        ⟨front, id, hready, hlook⟩
      · rw [hlook]
        exact .leave .last hempty (.inl rfl)
      · rw [hlook]
        exact .take .last hready
    | check seen =>
      show Acts h _
        (h.look timeout since (if timeout = .zero then .returned none else .wait seen)).1
        (h.look timeout since _).2
      rcases h.look_cases timeout since (if timeout = .zero then .returned none else .wait seen)
        with ⟨hempty, hlook⟩ | ⟨front, id, hready, hlook⟩
      · rw [hlook]
        by_cases hzero : timeout = .zero
        · simpa [hzero] using Acts.leave (.first seen) hempty (.inr hzero)
        · simpa [hzero] using Acts.park hzero hempty
      · rw [hlook]
        exact .take (.first seen) hready

theorem acts_timeOut (v : Visit) : Acts h v (h.timeOut v) h := by
  unfold timeOut
  split
  · rename_i timeout since seen
    by_cases hdue : since + timeout ≤ h.now
    · simpa [hdue] using Acts.expire hdue
    · simpa [hdue] using Acts.rest _
  · exact .rest v

/-- Somebody who has just come. -/
inductive Comes (now : Time) : Visit → Prop
  | enqueue (id : JobId) : Comes now (.enqueue id .push)
  | remove (id : JobId) : Comes now (.remove id none)
  | dequeue (timeout : Span) : Comes now (.dequeue timeout now .register)

/-- What a move does. -/
inductive Moves (h : Hall) : Hall → Prop
  | stay : Moves h h
  | come {v : Visit} (comes : Comes h.now v) : Moves h (h.welcome v)
  | act {i : Nat} {v w : Visit} {next : Hall} (there : h.visits[i]? = some v)
      (acts : Acts h v w next) : Moves h (next.put i w)
  | pass (span : Span) : Moves h { h with now := h.now + span }

theorem moves_step (m : Move) : h.Moves (h.step m) := by
  cases m with
  | enqueue id => exact .come (.enqueue id)
  | remove id => exact .come (.remove id)
  | dequeue timeout => exact .come (.dequeue timeout)
  | pass span => exact .pass span
  | go i =>
    cases hv : h.visits[i]? with
    | none =>
      have hstep : h.step (.go i) = h := by simp [step, hv]
      rw [hstep]
      exact .stay
    | some v =>
      rw [h.step_go hv]
      exact .act hv (h.acts_advance v)
  | expire i =>
    cases hv : h.visits[i]? with
    | none =>
      have hstep : h.step (.expire i) = h := by simp [step, hv]
      rw [hstep]
      exact .stay
    | some v =>
      rw [h.step_expire hv]
      exact .act hv (h.acts_timeOut v)

/-- Nobody at the ready list closes the queue. -/
theorem closed_moves {a b : Hall} (moves : a.Moves b) : b.queue.closed = a.queue.closed := by
  cases moves with
  | act there acts => cases acts <;> rfl
  | stay | come | pass => rfl

/-- What every move keeps, a run keeps. -/
theorem kept_by_run {P : Hall → Prop} (kept : ∀ {a b : Hall}, a.Moves b → P a → P b) (start : P h)
    (moves : List Move) : P (h.run moves) := by
  induction moves generalizing h with
  | nil => exact start
  | cons m rest ih => exact ih _ (kept (h.moves_step m) start)

end Hall

end Dispatch
