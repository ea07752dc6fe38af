import Dispatch.Cluster.Running
import Dispatch.Proofs.Redis.Server
import Dispatch.Proofs.Uuid.Text
import Dispatch.Redis.Queue
import Mathlib.Data.List.Count

/-!
# The two lease queues are interchangeable

A lease queue on a server and one in memory that grant leases for the same whole number of
milliseconds answer every sequence of requests alike, whatever time passes in between, and the
server's list is the ready list as it is written (`RedisQueue.answers_alike`).  The sequence ends at
the first request that has to wait for an entry, if one does.

Two things set them apart.  The server keeps the ready list and the leases under one kind of key,
so the key of the list must be no job's lease key.  The queue in memory sets its deadlines on a
clock that has an end, and breaks off where it does not have one; the server counts down.

`RedisQueue.Mirrors` says what the server holds for a queue in memory: the entries of the ready list
in their order, and every lease, live or lapsed, under its job's key.  A request is answered alike
by both and keeps it (`RedisQueue.Mirrors.serve`).
-/

namespace Dispatch

/-! ## Requests -/

/-- What is asked of a lease queue. -/
inductive QueueRequest where
  | call (c : QueueCall)
  | dequeue (timeout : Span)

/-- The answer to a request. -/
abbrev QueueRequest.Reply : QueueRequest → Type
  | .call c => c.Reply
  | .dequeue _ => DequeueReply

/-- The answers to some requests, time passing before each, and what answered them in the end.  A
request that is not answered is the last one. -/
def answersTo {σ : Type} (serve : Time → σ → (r : QueueRequest) → Option (r.Reply × σ)) :
    Time → σ → List (Span × QueueRequest) → List (Σ r : QueueRequest, r.Reply) × σ
  | _, s, [] => ([], s)
  | now, s, (pause, r) :: rest =>
    match serve (now + pause) s r with
    | none => ([], s)
    | some (reply, next) =>
      let (replies, last) := answersTo serve (now + pause) next rest
      (⟨r, reply⟩ :: replies, last)

/-- The queue in memory answers a request, unless it has to wait or breaks off; a cluster with this
queue and nobody at work gives an operator an entry. -/
def LeaseQueue.serve (now : Time) (q : LeaseQueue) :
    (r : QueueRequest) → Option (r.Reply × LeaseQueue)
  | .call c => (q.call now c).1.map fun reply => (reply, (q.call now c).2)
  | .dequeue timeout =>
    match ({ state := (), crew := 0, direct := true } : Running Unit).dequeue timeout
        { now, queue := q } with
    | (.ok reply, cluster) => some (reply, cluster.queue)
    | (.error _, _) => none

/-- The queue on a server answers a request, unless it has to wait. -/
def RedisQueue.serve (q : RedisQueue) (now : Time) (s : Redis.Server) :
    (r : QueueRequest) → Option (r.Reply × Redis.Server)
  | .call c => (s.answer now (q.command c)).map fun (reply, s) => (q.answer c reply, s)
  | .dequeue timeout =>
    (s.answer now (q.dequeueCommand timeout)).map fun (reply, s) => (q.dequeued timeout reply, s)

/-- The clock has the instant that a request needs: the end of the time granted, or of the lease. -/
def QueueRequest.Timely (clockEnd : Time) (ttl : Span) (now : Time) : QueueRequest → Prop
  | .dequeue timeout => now + timeout < clockEnd
  | .call (.acquire _ _) => now + ttl < clockEnd
  | .call _ => True

instance QueueRequest.decidableTimely (clockEnd : Time) (ttl : Span) (now : Time) :
    (r : QueueRequest) → Decidable (r.Timely clockEnd ttl now)
  | .dequeue timeout => inferInstanceAs (Decidable (now + timeout < clockEnd))
  | .call (.acquire _ _) => inferInstanceAs (Decidable (now + ttl < clockEnd))
  | .call (.enqueue _) | .call (.remove _) | .call (.contains _) | .call (.release _)
  | .call .ping => inferInstanceAs (Decidable True)

/-- The clock has the instants that some requests need, time passing before each. -/
def Timely (clockEnd : Time) (ttl : Span) : Time → List (Span × QueueRequest) → Prop
  | _, [] => True
  | now, (pause, r) :: rest =>
    r.Timely clockEnd ttl (now + pause) ∧ Timely clockEnd ttl (now + pause) rest

instance decidableTimely (clockEnd : Time) (ttl : Span) : (now : Time) →
    (requests : List (Span × QueueRequest)) → Decidable (Timely clockEnd ttl now requests)
  | _, [] => inferInstanceAs (Decidable True)
  | now, (pause, r) :: rest =>
    have := decidableTimely clockEnd ttl (now + pause) rest
    inferInstanceAs (Decidable
      (r.Timely clockEnd ttl (now + pause) ∧ Timely clockEnd ttl (now + pause) rest))

namespace LeaseQueue

variable {q : LeaseQueue} {now : Time}

theorem serve_call (usable : q.closed = false) {c : QueueCall}
    (returns : q.breaksOff now c = false) :
    q.serve now (.call c) = some (q.perform now c) := by
  rw [serve, call_of_returns usable returns]
  rfl

theorem serve_call_of_breaksOff (usable : q.closed = false) {c : QueueCall}
    (breaks : q.breaksOff now c = true) : q.serve now (.call c) = none := by
  rw [serve, call_of_breaksOff usable breaks]
  rfl

/-- A dequeue brings the oldest entry; it waits for one only if there is none and it has time. -/
theorem serve_dequeue (usable : q.closed = false) {timeout : Span}
    (timely : q.reaches (now + timeout) = true) :
    q.serve now (.dequeue timeout) =
      if q.ready = [] ∧ timeout ≠ .zero then none else some (.ok q.pop.1, q.pop.2) := by
  have hdeadline : now + timeout ≤ now ↔ timeout = .zero := by
    obtain ⟨n⟩ := timeout
    show now.nanos + (n : Int) ≤ now.nanos ↔ Span.mk n = Span.mk 0
    simp only [Span.mk.injEq]
    omega
  simp only [serve, Running.dequeue, Running.strikeDequeue, if_true, Running.begin_, timely,
    Running.take, usable, Bool.false_eq_true, if_false, Cluster.pop, pop]
  cases hlast : q.ready.getLast? with
  | some id =>
    have hready : q.ready ≠ [] := fun h => by simp [h] at hlast
    simp [hready, Running.brought]
  | none =>
    have hready : q.ready = [] := List.getLast?_eq_none_iff.1 hlast
    by_cases hzero : timeout = .zero
    · subst hzero
      simp [hready, hdeadline.2 rfl, Running.brought]
    · simp [hready, hzero, mt hdeadline.1 hzero]

/-- A dequeue for longer than the clock goes does not look at the list. -/
theorem serve_dequeue_late {timeout : Span} (late : q.reaches (now + timeout) = false) :
    q.serve now (.dequeue timeout) = none := by
  simp [serve, Running.dequeue, Running.strikeDequeue, Running.begin_, late]

end LeaseQueue

/-! ## What the server holds -/

open Redis

/-- The server holds the ready list as it is written, and the leases under the keys of their jobs,
for a queue that grants leases for as long and whose clock ends there. -/
structure RedisQueue.Mirrors (q : RedisQueue) (clockEnd : Time) (s : Server) (m : LeaseQueue) :
    Prop where
  ttl : m.ttl = q.ttl
  clock : m.clockEnd = clockEnd
  usable : m.closed = false
  ready : s.keys.get? q.readyKey = Server.held (m.ready.map JobId.text)
  leases : ∀ id : JobId, s.keys.get? id.leaseKey =
    (m.leases.get? id).map fun lease => .text lease.holder.text lease.expiresAt

/-- A queue that asks for leases of a whole number of milliseconds that a word holds, and keeps its
ready list under a key that is no lease's. -/
structure RedisQueue.Fits (q : RedisQueue) (millis : Nat) : Prop where
  whole : q.ttl = .ofMillis millis
  positive : 1 ≤ millis
  small : millis ≤ 9223372036854775807
  apart : ∀ id : JobId, id.leaseKey ≠ q.readyKey

/-- The server is asked for leases of just as many milliseconds. -/
theorem RedisQueue.Fits.leaseMillis {q : RedisQueue} {millis : Nat} (h : q.Fits millis) :
    q.leaseMillis = millis := by
  have hpositive := h.positive
  have hsmall := h.small
  rw [RedisQueue.leaseMillis, h.whole]
  show max (millis * 1000000 / 1000000) 1 % 18446744073709551616 = millis
  rw [Nat.mul_div_cancel _ (by decide)]
  omega

namespace RedisQueue.Mirrors

variable {q : RedisQueue} {millis : Nat} {clockEnd now : Time} {s : Server} {m : LeaseQueue}

theorem empty : Mirrors q clockEnd .empty { ttl := q.ttl, clockEnd } :=
  ⟨rfl, rfl, rfl, rfl, fun _ => rfl⟩

/-- A lease counts as held on the server as long as it is live. -/
theorem isSome_get? (h : Mirrors q clockEnd s m) (now : Time) (id : JobId) :
    (s.get? now id.leaseKey).isSome = (m.liveLease? id now).isSome := by
  rw [Server.get?, h.leases, LeaseQueue.liveLease?, Option.filter_map, Option.isSome_map]
  rfl

/-- The list is replaced as the ready list is. -/
theorem putList (h : Mirrors q clockEnd s m) (fits : q.Fits millis) (ids : List JobId) :
    Mirrors q clockEnd (s.putList q.readyKey (ids.map JobId.text)) { m with ready := ids } where
  ttl := h.ttl
  clock := h.clock
  usable := h.usable
  ready := by simp
  leases id := by
    rw [Server.get?_putList, if_neg (fits.apart id).symm]
    exact h.leases id

/-- The lease is taken on both. -/
theorem take (h : Mirrors q clockEnd s m) (fits : q.Fits millis) (id : JobId) (worker : WorkerId)
    (now : Time) :
    Mirrors q clockEnd
      { s with keys := s.keys.set id.leaseKey (.text worker.text (now + Span.ofMillis millis)) }
      { m with leases := m.leases.set id ⟨worker, now + m.ttl⟩ } where
  ttl := h.ttl
  clock := h.clock
  usable := h.usable
  ready := by
    rw [Table.get?_set, if_neg (fits.apart id)]
    exact h.ready
  leases other := by
    rw [Table.get?_set, Table.get?_set, h.leases, h.ttl, fits.whole]
    simp only [JobId.leaseKey_inj]
    split <;> rfl

/-- The lease is given back on both. -/
theorem drop (h : Mirrors q clockEnd s m) (fits : q.Fits millis) (id : JobId) :
    Mirrors q clockEnd { s with keys := s.keys.erase id.leaseKey }
      { m with leases := m.leases.erase id } where
  ttl := h.ttl
  clock := h.clock
  usable := h.usable
  ready := by
    rw [Table.get?_erase, if_neg (fits.apart id)]
    exact h.ready
  leases other := by
    rw [Table.get?_erase, Table.get?_erase, h.leases]
    simp only [JobId.leaseKey_inj]
    split <;> rfl

/-- What both make of a request. -/
def Alike (q : RedisQueue) (clockEnd now : Time) (s : Server) (m : LeaseQueue) (r : QueueRequest) :
    Prop :=
  (q.serve now s r = none ∧ m.serve now r = none) ∨
    ∃ reply s' m', q.serve now s r = some (reply, s') ∧ m.serve now r = some (reply, m') ∧
      Mirrors q clockEnd s' m'

theorem count_text (ids : List JobId) (id : JobId) :
    (ids.map JobId.text).count id.text = ids.count id :=
  List.count_map_of_injective ids JobId.text (fun _ _ => JobId.text_inj.1) id

theorem filter_text (ids : List JobId) (id : JobId) :
    (ids.map JobId.text).filter (· ≠ id.text) = (ids.filter (· ≠ id)).map JobId.text := by
  rw [List.filter_map]
  simp only [Function.comp_def, ne_eq, JobId.text_inj]

theorem mem_text (ids : List JobId) (id : JobId) : id.text ∈ ids.map JobId.text ↔ id ∈ ids := by
  simp [JobId.text_inj]

theorem serve_enqueue (h : Mirrors q clockEnd s m) (fits : q.Fits millis) (id : JobId) :
    Alike q clockEnd now s m (.call (.enqueue id)) := by
  refine .inr ⟨.ok (), _, _, ?_, LeaseQueue.serve_call h.usable rfl, h.putList fits (id :: m.ready)⟩
  simp only [RedisQueue.serve, RedisQueue.command, Server.answer, Server.onList_of_held h.ready]
  rfl

theorem serve_remove (h : Mirrors q clockEnd s m) (fits : q.Fits millis) (id : JobId) :
    Alike q clockEnd now s m (.call (.remove id)) := by
  refine .inr ⟨.ok (m.ready.count id), _, _, ?_, LeaseQueue.serve_call h.usable rfl,
    h.putList fits (m.ready.filter (· ≠ id))⟩
  simp only [RedisQueue.serve, RedisQueue.command, Server.answer, Server.onList_of_held h.ready,
    count_text, filter_text]
  rfl

theorem serve_contains (h : Mirrors q clockEnd s m) (fits : q.Fits millis) (id : JobId) :
    Alike q clockEnd now s m (.call (.contains id)) := by
  refine .inr ⟨.ok (m.contains id), _, _, ?_, LeaseQueue.serve_call h.usable rfl,
    h.putList fits m.ready⟩
  simp only [RedisQueue.serve, RedisQueue.command, Server.answer, Server.onList_of_held h.ready]
  have hfound : (Server.positionOf id.text (m.ready.map JobId.text) = .nil ∧ id ∉ m.ready) ∨
      ∃ i : Nat, Server.positionOf id.text (m.ready.map JobId.text) = .int i ∧ id ∈ m.ready := by
    rw [Server.positionOf, ← mem_text]
    cases hi : (m.ready.map JobId.text).idxOf? id.text with
    | none => exact .inl ⟨rfl, List.idxOf?_eq_none_iff.1 hi⟩
    | some i =>
      refine .inr ⟨i, rfl, ?_⟩
      by_contra habsent
      rw [List.idxOf?_eq_none_iff.2 habsent] at hi
      cases hi
  rcases hfound with ⟨hnil, habsent⟩ | ⟨i, hint, hmem⟩
  · rw [hnil, LeaseQueue.contains, decide_eq_false habsent]
    rfl
  · rw [hint, LeaseQueue.contains, decide_eq_true hmem]
    rfl

/-- Whoever holds a lease is refused by both.  A lease that is free is granted by both, unless the
clock does not have its end. -/
theorem serve_acquire (h : Mirrors q clockEnd s m) (fits : q.Fits millis) (id : JobId)
    (worker : WorkerId) (lasting : m.breaksOff now (.acquire id worker) = false) :
    Alike q clockEnd now s m (.call (.acquire id worker)) := by
  have hserve := LeaseQueue.serve_call h.usable lasting
  by_cases hheld : (m.liveLease? id now).isSome = true
  · refine .inr ⟨.ok false, s, m, ?_, ?_, h⟩
    · simp only [RedisQueue.serve, RedisQueue.command, Server.answer, h.isSome_get?, hheld, if_true]
      rfl
    · simp only [hserve, LeaseQueue.perform, LeaseQueue.acquire, hheld, if_true]
  · refine .inr ⟨.ok true, _, _, ?_, ?_, h.take fits id worker now⟩
    · simp only [RedisQueue.serve, RedisQueue.command, Server.answer, h.isSome_get?, hheld,
        fits.leaseMillis]
      rfl
    · simp only [hserve, LeaseQueue.perform, LeaseQueue.acquire, hheld]
      rfl

theorem serve_release (h : Mirrors q clockEnd s m) (fits : q.Fits millis) (id : JobId) :
    Alike q clockEnd now s m (.call (.release id)) :=
  .inr ⟨.ok (), _, _, rfl, LeaseQueue.serve_call h.usable rfl, h.drop fits id⟩

theorem serve_ping (h : Mirrors q clockEnd s m) : Alike q clockEnd now s m (.call .ping) :=
  .inr ⟨.ok (), s, m, rfl, LeaseQueue.serve_call h.usable rfl, h⟩

/-- An entry that the server hands out is read as the job that it was written for. -/
theorem dequeued_text (q : RedisQueue) (timeout : Span) (id : JobId) :
    q.dequeued timeout
      (if timeout = .zero then .bulk id.text else .array [.bulk q.readyKey, .bulk id.text]) =
        .ok (some id) := by
  have hparse : RedisQueue.parseEntry id.text = .ok id := by
    rw [RedisQueue.parseEntry, JobId.ofText?_text]
  by_cases hzero : timeout = .zero
  · simp only [RedisQueue.dequeued, RedisQueue.entryReader, hzero, if_true]
    show (RedisQueue.parseEntry id.text).map some = _
    rw [hparse]
    rfl
  · simp only [RedisQueue.dequeued, RedisQueue.entryReader, hzero, if_false]
    show (RedisQueue.parseEntry id.text).map some = _
    rw [hparse]
    rfl

theorem serve_dequeue (h : Mirrors q clockEnd s m) (fits : q.Fits millis) {timeout : Span}
    (timely : m.reaches (now + timeout) = true) : Alike q clockEnd now s m (.dequeue timeout) := by
  have hserve := LeaseQueue.serve_dequeue h.usable timely
  have hpopped : Mirrors q clockEnd (s.putList q.readyKey (m.ready.map JobId.text).dropLast)
      m.pop.2 := by
    rw [← List.map_dropLast]
    exact h.putList fits m.ready.dropLast
  have hlast : (m.ready.map JobId.text).getLast? = m.pop.1.map JobId.text := List.getLast?_map
  by_cases hempty : m.ready = []
  · have hnone : m.pop.1 = none := by rw [LeaseQueue.pop, hempty]; rfl
    have habsent : s.get? now q.readyKey = none := by
      rw [Server.get?, h.ready, hempty]
      rfl
    by_cases hzero : timeout = .zero
    · refine .inr ⟨.ok none, _, _, ?_, ?_, hpopped⟩
      · simp only [RedisQueue.serve, RedisQueue.dequeueCommand, hzero, if_true, Server.answer,
          Server.onList_of_held h.ready, hlast, hnone]
        rfl
      · rw [hserve, if_neg fun hwait => hwait.2 hzero, hnone]
    · refine .inl ⟨?_, by rw [hserve, if_pos ⟨hempty, hzero⟩]⟩
      simp only [RedisQueue.serve, RedisQueue.dequeueCommand, hzero, if_false, Server.answer,
        habsent, if_true]
      rfl
  · obtain ⟨id, hid⟩ : ∃ id, m.pop.1 = some id :=
      ⟨m.ready.getLast hempty, List.getLast?_eq_some_getLast hempty⟩
    have hthere : s.get? now q.readyKey ≠ none := by
      rw [Server.get?, h.ready]
      cases hready : m.ready with
      | nil => exact absurd hready hempty
      | cons first rest => exact Option.some_ne_none _
    have hread := dequeued_text q timeout id
    refine .inr ⟨.ok (some id), _, _, ?_, ?_, hpopped⟩
    · by_cases hzero : timeout = .zero
      · rw [if_pos hzero] at hread
        simp only [RedisQueue.serve, RedisQueue.dequeueCommand, if_pos hzero, Server.answer,
          Server.onList_of_held h.ready, hlast, hid]
        exact congrArg (fun reply => some (reply, _)) hread
      · rw [if_neg hzero] at hread
        simp only [RedisQueue.serve, RedisQueue.dequeueCommand, if_neg hzero, Server.answer,
          if_neg hthere, Server.onList_of_held h.ready, hlast, hid]
        exact congrArg (fun reply => some (reply, _)) hread
    · rw [hserve, if_neg fun hwait => hempty hwait.1, hid]

/-- Both make the same of a request, unless the queue in memory breaks off for want of an instant on
the clock. -/
theorem serve (h : Mirrors q clockEnd s m) (fits : q.Fits millis) (now : Time) (r : QueueRequest) :
    Alike q clockEnd now s m r ∨ m.serve now r = none ∧ ¬ r.Timely clockEnd q.ttl now := by
  cases r with
  | dequeue timeout =>
    cases hreaches : m.reaches (now + timeout) with
    | true => exact .inl (h.serve_dequeue fits hreaches)
    | false =>
      refine .inr ⟨LeaseQueue.serve_dequeue_late hreaches, fun timely => ?_⟩
      exact of_decide_eq_false hreaches (h.clock ▸ timely)
  | call c =>
    cases c with
    | enqueue id => exact .inl (h.serve_enqueue fits id)
    | remove id => exact .inl (h.serve_remove fits id)
    | contains id => exact .inl (h.serve_contains fits id)
    | release id => exact .inl (h.serve_release fits id)
    | ping => exact .inl h.serve_ping
    | acquire id worker =>
      cases hbreaks : m.breaksOff now (.acquire id worker) with
      | false => exact .inl (h.serve_acquire fits id worker hbreaks)
      | true =>
        refine .inr ⟨LeaseQueue.serve_call_of_breaksOff h.usable hbreaks, fun timely => ?_⟩
        have hlate : m.reaches (now + m.ttl) = false :=
          Bool.not_eq_true' _ ▸ (Bool.and_eq_true_iff.1 hbreaks).2
        exact of_decide_eq_false hlate (h.clock ▸ h.ttl ▸ timely)

end RedisQueue.Mirrors

/-! ## Sequences of requests -/

/-- What the queue in memory answers to a sequence of requests the server answers, and if the clock
has the instants that are needed there is nothing else that it answers. -/
theorem RedisQueue.Mirrors.answers {q : RedisQueue} {millis : Nat} {clockEnd : Time} {s : Server}
    {m : LeaseQueue} (h : q.Mirrors clockEnd s m) (fits : q.Fits millis) (now : Time)
    (requests : List (Span × QueueRequest)) :
    (answersTo LeaseQueue.serve now m requests).1 <+: (answersTo q.serve now s requests).1 ∧
      (Timely clockEnd q.ttl now requests →
        (answersTo q.serve now s requests).1 = (answersTo LeaseQueue.serve now m requests).1 ∧
          q.Mirrors clockEnd (answersTo q.serve now s requests).2
            (answersTo LeaseQueue.serve now m requests).2) := by
  induction requests generalizing now s m with
  | nil => exact ⟨List.prefix_rfl, fun _ => ⟨rfl, h⟩⟩
  | cons request rest ih =>
    obtain ⟨pause, r⟩ := request
    rcases h.serve fits (now + pause) r with
      (⟨hs, hm⟩ | ⟨reply, s', m', hs, hm, hnext⟩) | ⟨hm, hlate⟩
    · simp only [answersTo, hs, hm]
      exact ⟨List.prefix_rfl, fun _ => ⟨trivial, h⟩⟩
    · obtain ⟨hsofar, hall⟩ := ih hnext (now + pause)
      simp only [answersTo, hs, hm]
      refine ⟨(List.prefix_cons_inj _).2 hsofar, fun timely => ?_⟩
      obtain ⟨hreplies, hlast⟩ := hall timely.2
      exact ⟨congrArg _ hreplies, hlast⟩
    · simp only [answersTo, hm]
      exact ⟨List.nil_prefix, fun timely => absurd timely.1 hlate⟩

/-- On empty queues and from any instant on, the queue on a server answers a sequence of requests as
the queue in memory does, up to the first one for which the clock of the latter does not go far
enough.  If there is none, the two answer all requests alike, and the server's list is the ready
list as it is written. -/
theorem RedisQueue.answers_alike (q : RedisQueue) (millis : Nat) (fits : q.Fits millis)
    (clockEnd now : Time) (requests : List (Span × QueueRequest)) :
    let onServer := answersTo q.serve now .empty requests
    let inMemory := answersTo LeaseQueue.serve now { ttl := q.ttl, clockEnd } requests
    inMemory.1 <+: onServer.1 ∧ (Timely clockEnd q.ttl now requests →
      onServer.1 = inMemory.1 ∧
        onServer.2.entries q.readyKey = inMemory.2.ready.map JobId.text) := by
  obtain ⟨hsofar, hall⟩ := Mirrors.empty.answers fits now requests
  refine ⟨hsofar, fun timely => ?_⟩
  obtain ⟨hreplies, hlast⟩ := hall timely
  exact ⟨hreplies, Server.entries_of_held hlast.ready⟩

/-- The usual queue keeps its ready list apart from the leases. -/
theorem RedisQueue.fits_usual : ({} : RedisQueue).Fits 30000 where
  whole := rfl
  positive := by decide
  small := by decide
  apart id h := by
    have hchars : "job:lease:".toList ++ id.text.toList = "queue:ready".toList := by
      rw [← String.toList_append]
      exact congrArg String.toList h
    exact absurd (List.cons.inj hchars).1 (by decide)

/-- A lease is asked for again a nanosecond before it lapses and at the instant it lapses, and an
entry is waited for. -/
def lapse : List (Span × QueueRequest) :=
  let id := (FreshIds.numbered 1 1).job
  [(.zero, .call (.enqueue id)), (.zero, .call (.enqueue id)),
    (.zero, .dequeue (.ofSeconds 2)), (.zero, .call (.acquire id ⟨"worker-1"⟩)),
    (⟨29999999999⟩, .call (.acquire id ⟨"worker-2"⟩)), (⟨1⟩, .call (.acquire id ⟨"worker-2"⟩)),
    (.zero, .call (.remove id)), (.zero, .dequeue .zero), (.zero, .dequeue (.ofSeconds 2))]

theorem timely_lapse : Timely .clockEnd (.ofSeconds 30) ⟨0⟩ lapse := by decide

theorem RedisQueue.answers_alike_lapse :
    ({} : RedisQueue).Fits 30000 ∧ Timely .clockEnd ({} : RedisQueue).ttl ⟨0⟩ lapse ∧
      (answersTo LeaseQueue.serve ⟨0⟩ { ttl := ({} : RedisQueue).ttl } lapse).1 <+:
          (answersTo ({} : RedisQueue).serve ⟨0⟩ .empty lapse).1 ∧
        (answersTo ({} : RedisQueue).serve ⟨0⟩ .empty lapse).1 =
          (answersTo LeaseQueue.serve ⟨0⟩ { ttl := ({} : RedisQueue).ttl } lapse).1 ∧
        (answersTo ({} : RedisQueue).serve ⟨0⟩ .empty lapse).2.entries "queue:ready" =
          (answersTo LeaseQueue.serve ⟨0⟩ { ttl := ({} : RedisQueue).ttl } lapse).2.ready.map
            JobId.text := by
  obtain ⟨hsofar, hall⟩ := answers_alike {} 30000 fits_usual .clockEnd ⟨0⟩ lapse
  exact ⟨fits_usual, timely_lapse, hsofar, hall timely_lapse⟩

/-- The last of the requests waits, so there is no answer to it. -/
example : (answersTo LeaseQueue.serve ⟨0⟩ {} lapse).1.length = 8 := by decide

/-- Where the ready list is kept under a job's lease key, the server refuses the lease of a job that
nobody holds.  And who asks for an entry for as long as the clock goes gets the one that is there
from the server, and no answer from the queue in memory. -/
theorem RedisQueue.not_answers_alike :
    let id := (FreshIds.numbered 1 1).job
    let shared : RedisQueue := { readyKey := id.leaseKey }
    let leasing : List (Span × QueueRequest) :=
      [(.zero, .call (.enqueue id)), (.zero, .call (.acquire id ⟨"worker-1"⟩))]
    let patient : List (Span × QueueRequest) :=
      [(.zero, .call (.enqueue id)), (.zero, .dequeue (.ofSeconds 9223372036854775808))]
    (answersTo shared.serve ⟨0⟩ .empty leasing).1 =
        [⟨.call (.enqueue id), .ok ()⟩, ⟨.call (.acquire id ⟨"worker-1"⟩), .ok false⟩] ∧
      (answersTo LeaseQueue.serve ⟨0⟩ { ttl := shared.ttl } leasing).1 =
        [⟨.call (.enqueue id), .ok ()⟩, ⟨.call (.acquire id ⟨"worker-1"⟩), .ok true⟩] ∧
      (answersTo ({} : RedisQueue).serve ⟨0⟩ .empty patient).1 =
        [⟨.call (.enqueue id), .ok ()⟩,
          ⟨.dequeue (.ofSeconds 9223372036854775808), .ok (some id)⟩] ∧
      (answersTo LeaseQueue.serve ⟨0⟩ {} patient).1 = [⟨.call (.enqueue id), .ok ()⟩] := by
  exact ⟨rfl, rfl, rfl, rfl⟩

end Dispatch
