import Dispatch.Proofs.Lists
import Dispatch.Queue.Call
import Mathlib.Data.List.Induction

/-!
# A lease is what the past has left of it

A lease lasts for a fixed time from the moment at which it was granted, unless it is given back
before.  Whether a queue grants a lease, and whom it names as its holder, is told here from what has
been asked of the queue and what it has answered, without a look at the queue: by the grants that
nobody has given back (`Outstanding`) and by the last one of them (`Held`).  Nothing is asked of the
moments of the calls.

The clock has an end.  A lease that would be granted but whose end the clock does not have is the
one thing that breaks a call off, and after that the queue is closed for good
(`closed_afterAll_iff`): every call is answered with the same error, and no holder is named.

`Tracks` ties the stored lease of a job to the past.  A lease is granted where the stored one has
lapsed, so a new grant ends no earlier than an old one, and the stored lease is the one that ends
last among those that are outstanding.
-/

namespace Dispatch

/-- Who gets the lease on which job by a call that is answered so. -/
def QueueCall.grant? : (c : QueueCall) → c.Reply → Option (JobId × WorkerId)
  | .acquire id worker, .ok true => some (id, worker)
  | _, _ => none

theorem QueueCall.eq_acquire_of_grant? {c : QueueCall} {r : c.Reply} {id : JobId}
    {worker : WorkerId} (h : c.grant? r = some (id, worker)) : c = .acquire id worker := by
  cases c with
  | acquire asked asker =>
    rcases r with cause | granted
    · cases h
    · cases granted <;> cases h
      rfl
  | enqueue | remove | contains | release | ping => cases h

/-- The call takes or gives back the lease on a job. -/
def QueueCall.isAbout (id : JobId) : QueueCall → Bool
  | .acquire other _ => other = id
  | .release other => other = id
  | _ => false

namespace LeaseQueue

/-- A call as it was made. -/
structure Dealing where
  /-- The queue that the call found. -/
  before : LeaseQueue
  now : Time
  call : QueueCall

namespace Dealing

/-- The answer, if the call came to its end. -/
def reply (d : Dealing) : Option d.call.Reply := (d.before.call d.now d.call).1

/-- The queue that the call left. -/
def after (d : Dealing) : LeaseQueue := (d.before.call d.now d.call).2

/-- The call with its answer. -/
def exchange (d : Dealing) : (c : QueueCall) × Option c.Reply := ⟨d.call, d.reply⟩

/-- Who gets the lease on which job. -/
def grant? (d : Dealing) : Option (JobId × WorkerId) := d.reply.bind d.call.grant?

theorem call_of_grant? {d : Dealing} {id : JobId} {worker : WorkerId}
    (h : d.grant? = some (id, worker)) : d.call = .acquire id worker := by
  obtain ⟨reply, -, hgrant⟩ := Option.bind_eq_some_iff.1 h
  exact QueueCall.eq_acquire_of_grant? hgrant

end Dealing

/-- The queue after some calls. -/
def afterAll (q : LeaseQueue) : List (Time × QueueCall) → LeaseQueue
  | [] => q
  | (now, c) :: rest => (q.call now c).2.afterAll rest

/-- The dealings that some calls are, oldest first. -/
def dealings (q : LeaseQueue) : List (Time × QueueCall) → List Dealing
  | [] => []
  | (now, c) :: rest => ⟨q, now, c⟩ :: (q.call now c).2.dealings rest

variable {q : LeaseQueue} {past : List Dealing} {d : Dealing} {id : JobId} {holder : WorkerId}
  {since now : Time} {ttl : Span}

theorem afterAll_snoc (q : LeaseQueue) (calls : List (Time × QueueCall)) (now : Time)
    (c : QueueCall) :
    q.afterAll (calls ++ [(now, c)]) = ((q.afterAll calls).call now c).2 := by
  induction calls generalizing q with
  | nil => rfl
  | cons call calls ih => exact ih _

theorem dealings_snoc (q : LeaseQueue) (calls : List (Time × QueueCall)) (now : Time)
    (c : QueueCall) :
    q.dealings (calls ++ [(now, c)]) = q.dealings calls ++ [⟨q.afterAll calls, now, c⟩] := by
  induction calls generalizing q with
  | nil => rfl
  | cons call calls ih => exact congrArg _ (ih _)

/-! ## Calls that come to their end -/

/-- A call that leaves the queue open has found it open and come to its end. -/
theorem call_of_open {c : QueueCall} (usable : (q.call now c).2.closed = false) :
    q.closed = false ∧ q.breaksOff now c = false ∧
      q.call now c = (some (q.perform now c).1, (q.perform now c).2) := by
  cases closed : q.closed with
  | true =>
    rw [call_of_closed closed, closed] at usable
    cases usable
  | false =>
    cases breaks : q.breaksOff now c with
    | true =>
      rw [call_of_breaksOff closed breaks] at usable
      cases usable
    | false => exact ⟨rfl, rfl, call_of_returns closed breaks⟩

/-- What is closed stays closed. -/
theorem afterAll_of_closed (closed : q.closed = true) (calls : List (Time × QueueCall)) :
    q.afterAll calls = q := by
  induction calls with
  | nil => rfl
  | cons call rest ih => rw [afterAll, call_of_closed closed, ih]

theorem open_of_afterAll {calls : List (Time × QueueCall)}
    (usable : (q.afterAll calls).closed = false) : q.closed = false := by
  by_contra hclosed
  rw [Bool.not_eq_false] at hclosed
  rw [afterAll_of_closed hclosed, hclosed] at usable
  cases usable

theorem Dealing.of_open (usable : d.after.closed = false) :
    d.reply = some (d.before.perform d.now d.call).1 ∧
      d.after = (d.before.perform d.now d.call).2 := by
  obtain ⟨-, -, hcall⟩ := call_of_open usable
  exact ⟨congrArg Prod.fst hcall, congrArg Prod.snd hcall⟩

/-! ## The grants of the past -/

/-- The lease on a job was granted to a worker at a moment, and no dealing after that was of a
certain kind. -/
def GrantedUnless (ends : Dealing → Prop) (past : List Dealing) (id : JobId) (holder : WorkerId)
    (since : Time) : Prop :=
  ∃ earlier d later, past = earlier ++ d :: later ∧ d.grant? = some (id, holder) ∧ d.now = since ∧
    ∀ e ∈ later, ¬ ends e

/-- The lease was granted, and nobody has given it back since. -/
def Outstanding (past : List Dealing) (id : JobId) (holder : WorkerId) (since : Time) : Prop :=
  GrantedUnless (fun e => e.call = .release id) past id holder since

/-- This was the last grant of the lease, and nobody has given it back since. -/
def Held (past : List Dealing) (id : JobId) (holder : WorkerId) (since : Time) : Prop :=
  GrantedUnless (fun e => e.call = .release id ∨ ∃ other, e.grant? = some (id, other))
    past id holder since

theorem grantedUnless_nil {ends : Dealing → Prop} : ¬ GrantedUnless ends [] id holder since := by
  rintro ⟨earlier, d, later, hpast, -⟩
  simp at hpast

/-- One more dealing grants the lease, or it leaves an older grant in force. -/
theorem grantedUnless_snoc {ends : Dealing → Prop} :
    GrantedUnless ends (past ++ [d]) id holder since ↔
      (d.grant? = some (id, holder) ∧ d.now = since) ∨
        (¬ ends d ∧ GrantedUnless ends past id holder since) := by
  constructor
  · rintro ⟨earlier, e, later, hpast, hgrant, hsince, kept⟩
    rcases append_cons_eq_snoc.1 hpast.symm with ⟨rfl, rfl, -⟩ | ⟨mid, rfl, rfl⟩
    · exact .inl ⟨hgrant, hsince⟩
    · exact .inr ⟨kept d (by simp), earlier, e, mid, rfl, hgrant, hsince,
        fun e' he' => kept e' (List.mem_append_left _ he')⟩
  · rintro (⟨hgrant, hsince⟩ | ⟨hkept, earlier, e, later, rfl, hgrant, hsince, kept⟩)
    · exact ⟨past, d, [], rfl, hgrant, hsince, fun e he => absurd he List.not_mem_nil⟩
    · refine ⟨earlier, e, later ++ [d], by simp, hgrant, hsince, fun e' he' => ?_⟩
      rcases List.mem_append.1 he' with he' | he'
      · exact kept e' he'
      · exact List.mem_singleton.1 he' ▸ hkept

/-- Where a dealing grants nothing and ends nothing, the same grants are in force. -/
theorem grantedUnless_snoc_of_kept {ends : Dealing → Prop}
    (noGrant : ∀ worker, d.grant? ≠ some (id, worker)) (kept : ¬ ends d) :
    GrantedUnless ends (past ++ [d]) id holder since ↔ GrantedUnless ends past id holder since := by
  rw [grantedUnless_snoc]
  exact ⟨fun h => h.elim (fun hgrant => absurd hgrant.1 (noGrant holder)) And.right,
    fun h => .inr ⟨kept, h⟩⟩

/-- After a dealing that ends the grants and makes none, there is none in force. -/
theorem not_grantedUnless_snoc {ends : Dealing → Prop}
    (noGrant : ∀ worker, d.grant? ≠ some (id, worker)) (hends : ends d) :
    ¬ GrantedUnless ends (past ++ [d]) id holder since := fun h =>
  (grantedUnless_snoc.1 h).elim (fun hgrant => noGrant holder hgrant.1) fun hold => hold.1 hends

/-- After a grant, the lease is held by whom it was granted to, and by nobody else. -/
theorem held_snoc_of_grant {worker : WorkerId} (grant : d.grant? = some (id, worker)) :
    Held (past ++ [d]) id holder since ↔ worker = holder ∧ d.now = since := by
  rw [Held, grantedUnless_snoc, grant]
  constructor
  · rintro (⟨hgrant, hsince⟩ | ⟨hkept, -⟩)
    · exact ⟨(Prod.mk.inj (Option.some.inj hgrant)).2, hsince⟩
    · exact absurd (.inr ⟨worker, rfl⟩) hkept
  · rintro ⟨rfl, hsince⟩
    exact .inl ⟨rfl, hsince⟩

/-! ## What a call does to the lease on a job -/

/-- The lease on a job is granted where there is none that is live, or it is given back, or it
stays as it is. -/
inductive LeaseStep (id : JobId) (d : Dealing) : Prop
  | granted (worker : WorkerId) (grant : d.grant? = some (id, worker))
      (lapsed : d.before.liveLease? id d.now = none)
      (stored : d.after.leases.get? id = some ⟨worker, d.now + d.before.ttl⟩)
  | released (call : d.call = .release id) (gone : d.after.leases.get? id = none)
  | kept (noGrant : ∀ worker, d.grant? ≠ some (id, worker)) (noRelease : d.call ≠ .release id)
      (same : d.after.leases.get? id = d.before.leases.get? id)

/-- Where a lease is live, an attempt to take it changes nothing. -/
theorem perform_live (live : (q.liveLease? id now).isSome = true) (worker : WorkerId) :
    q.perform now (.acquire id worker) = (.ok false, q) := by
  simp only [perform, acquire, if_pos live]

theorem perform_free (free : ¬ (q.liveLease? id now).isSome = true) (worker : WorkerId) :
    q.perform now (.acquire id worker) =
      (.ok true, { q with leases := q.leases.set id ⟨worker, now + q.ttl⟩ }) := by
  simp only [perform, acquire, if_neg free]

theorem leaseStep (d : Dealing) (usable : d.after.closed = false) (id : JobId) :
    LeaseStep id d := by
  obtain ⟨hreply, hafter⟩ := Dealing.of_open usable
  obtain ⟨q, now, c⟩ := d
  have hgrant? : Dealing.grant? ⟨q, now, c⟩ = c.grant? (q.perform now c).1 := by
    rw [Dealing.grant?, hreply]
    rfl
  cases c with
  | enqueue other | remove other | contains other | ping =>
    exact .kept (fun worker h => by cases hgrant?.symm.trans h) (fun h => by cases h)
      (hafter ▸ rfl)
  | release other =>
    have hleft : ((q.release other).leases.get? id) =
        if other = id then none else q.leases.get? id := Table.get?_erase ..
    by_cases hsame : other = id
    · subst hsame
      exact .released rfl (hafter ▸ hleft.trans (if_pos rfl))
    · exact .kept (fun worker h => by cases hgrant?.symm.trans h)
        (fun h => hsame (QueueCall.release.inj h)) (hafter ▸ hleft.trans (if_neg hsame))
  | acquire other worker =>
    by_cases hlive : (q.liveLease? other now).isSome = true
    · have hperform := perform_live hlive worker
      refine .kept (fun w h => ?_) (fun h => by cases h) ?_
      · rw [hgrant?, hperform] at h
        cases h
      · rw [hafter, hperform]
    · have hperform := perform_free hlive worker
      have hgrant : Dealing.grant? ⟨q, now, .acquire other worker⟩ = some (other, worker) := by
        rw [hgrant?, hperform]
        rfl
      have hafter : (Dealing.after ⟨q, now, .acquire other worker⟩).leases.get? id =
          if other = id then some ⟨worker, now + q.ttl⟩ else q.leases.get? id := by
        rw [hafter, hperform]
        exact Table.get?_set ..
      by_cases hsame : other = id
      · subst hsame
        exact .granted worker hgrant (by simpa using hlive) (hafter.trans (if_pos rfl))
      · refine .kept (fun w h => ?_) (fun h => by cases h) (hafter.trans (if_neg hsame))
        rw [hgrant] at h
        exact hsame (Prod.mk.inj (Option.some.inj h)).1

/-- No call changes the terms on which leases are granted. -/
theorem perform_terms (q : LeaseQueue) (now : Time) (c : QueueCall) :
    (q.perform now c).2.ttl = q.ttl ∧ (q.perform now c).2.clockEnd = q.clockEnd := by
  cases c with
  | acquire id worker =>
    by_cases hlive : (q.liveLease? id now).isSome = true
    · rw [perform_live hlive]
      exact ⟨rfl, rfl⟩
    · rw [perform_free hlive]
      exact ⟨rfl, rfl⟩
  | enqueue | remove | contains | release | ping => exact ⟨rfl, rfl⟩

theorem call_terms (q : LeaseQueue) (now : Time) (c : QueueCall) :
    (q.call now c).2.ttl = q.ttl ∧ (q.call now c).2.clockEnd = q.clockEnd := by
  unfold call
  split
  · exact ⟨rfl, rfl⟩
  · split
    · exact ⟨rfl, rfl⟩
    · exact perform_terms q now c

/-- The stored lease of a job is the last grant that nobody has given back, and no grant that is
outstanding ends later. -/
structure Tracks (ttl : Span) (past : List Dealing) (q : LeaseQueue) (id : JobId) : Prop where
  lasts : q.ttl = ttl
  stored : ∀ lease, q.leases.get? id = some lease ↔
    ∃ since, Held past id lease.holder since ∧ lease.expiresAt = since + ttl
  longest : ∀ holder since, Outstanding past id holder since →
    ∃ lease, q.leases.get? id = some lease ∧ since + ttl ≤ lease.expiresAt

theorem Tracks.start (ready : List JobId) (ttl : Span) (clockEnd : Time) (id : JobId) :
    Tracks ttl [] { ready, ttl, clockEnd } id := by
  refine ⟨rfl, fun lease => ⟨fun h => ?_, fun ⟨since, h, _⟩ => ?_⟩, fun holder since h => ?_⟩
  · cases h
  · exact absurd h grantedUnless_nil
  · exact absurd h grantedUnless_nil

theorem liveLease?_eq_some {lease : Lease} :
    q.liveLease? id now = some lease ↔
      q.leases.get? id = some lease ∧ now < lease.expiresAt := by
  rw [liveLease?, Option.filter_eq_some_iff, decide_eq_true_eq]

/-- Where the stored lease has lapsed, so has every grant that is outstanding. -/
theorem Tracks.ended_of_lapsed (h : Tracks ttl past q id) (lapsed : q.liveLease? id now = none)
    (hout : Outstanding past id holder since) : since + ttl ≤ now := by
  obtain ⟨lease, hlease, hends⟩ := h.longest holder since hout
  have hover : lease.expiresAt ≤ now := Int.not_lt.1 fun hlive =>
    Option.some_ne_none _ ((liveLease?_eq_some.2 ⟨hlease, hlive⟩).symm.trans lapsed)
  exact Int.le_trans hends hover

theorem Tracks.step (h : Tracks ttl past d.before id) (usable : d.after.closed = false) :
    Tracks ttl (past ++ [d]) d.after id := by
  have httl : d.after.ttl = ttl := (call_terms ..).1.trans h.lasts
  cases leaseStep d usable id with
  | granted worker grant lapsed stored =>
    rw [h.lasts] at stored
    refine ⟨httl, fun lease => ?_, fun holder since hout => ⟨_, stored, ?_⟩⟩
    · obtain ⟨holder, expiresAt⟩ := lease
      simp only [stored, held_snoc_of_grant grant, Option.some.injEq, Lease.mk.injEq]
      constructor
      · rintro ⟨rfl, rfl⟩
        exact ⟨d.now, ⟨rfl, rfl⟩, rfl⟩
      · rintro ⟨since, ⟨rfl, rfl⟩, hends⟩
        exact ⟨rfl, hends.symm⟩
    · rcases grantedUnless_snoc.1 hout with ⟨-, rfl⟩ | ⟨-, hold⟩
      · exact Int.le_refl _
      · exact Int.le_trans (h.ended_of_lapsed lapsed hold) (Time.le_add d.now ttl)
  | released call gone =>
    have noGrant : ∀ worker, d.grant? ≠ some (id, worker) := fun worker hgrant => by
      cases call.symm.trans (Dealing.call_of_grant? hgrant)
    refine ⟨httl, fun lease => ?_, fun holder since hout => ?_⟩
    · rw [gone]
      refine ⟨fun hsome => (by cases hsome), fun ⟨since, hheld, _⟩ => ?_⟩
      exact absurd hheld (not_grantedUnless_snoc noGrant (.inl call))
    · exact absurd hout (not_grantedUnless_snoc noGrant call)
  | kept noGrant noRelease same =>
    have hheld : ∀ holder since,
        Held (past ++ [d]) id holder since ↔ Held past id holder since := fun _ _ =>
      grantedUnless_snoc_of_kept noGrant fun hends =>
        hends.elim noRelease fun hgranted => hgranted.elim noGrant
    refine ⟨httl, fun lease => ?_, fun holder since hout => ?_⟩
    · simp only [same, hheld, h.stored]
    · rw [same]
      exact h.longest holder since ((grantedUnless_snoc_of_kept noGrant noRelease).1 hout)

theorem Tracks.afterAll (start : Tracks ttl [] q id) (calls : List (Time × QueueCall))
    (usable : (q.afterAll calls).closed = false) :
    Tracks ttl (q.dealings calls) (q.afterAll calls) id := by
  induction calls using List.reverseRecOn with
  | nil => exact start
  | append_singleton calls call ih =>
    obtain ⟨now, c⟩ := call
    rw [afterAll_snoc] at usable
    rw [dealings_snoc, afterAll_snoc]
    exact Tracks.step (d := ⟨_, now, c⟩) (ih (call_of_open usable).1) usable

/-- The queues are open, hold the same lease on a job, and grant leases on the same terms. -/
structure SameLease (id : JobId) (q q' : LeaseQueue) : Prop where
  ttl : q.ttl = q'.ttl
  clockEnd : q.clockEnd = q'.clockEnd
  usable : q.closed = false
  usable' : q'.closed = false
  stored : q.leases.get? id = q'.leases.get? id

namespace SameLease

variable {q' : LeaseQueue} {c : QueueCall}

theorem liveLease? (h : SameLease id q q') (now : Time) :
    q.liveLease? id now = q'.liveLease? id now := by
  rw [LeaseQueue.liveLease?, LeaseQueue.liveLease?, h.stored]

theorem holder? (h : SameLease id q q') (now : Time) : q.holder? id now = q'.holder? id now := by
  rw [LeaseQueue.holder?, LeaseQueue.holder?, h.usable, h.usable', h.liveLease?]

/-- A call that takes or gives back the lease comes to its end on both or on none. -/
theorem breaksOff (h : SameLease id q q') (now : Time) (about : c.isAbout id = true) :
    q.breaksOff now c = q'.breaksOff now c := by
  cases c with
  | acquire other worker =>
    obtain rfl : other = id := by simpa [QueueCall.isAbout] using about
    simp only [LeaseQueue.breaksOff, overruns, reaches, h.liveLease?, h.ttl, h.clockEnd]
  | release | enqueue | remove | contains | ping => rfl

/-- A call that takes or gives back the lease is answered by both alike. -/
theorem perform (h : SameLease id q q') (now : Time) (about : c.isAbout id = true) :
    (q.perform now c).1 = (q'.perform now c).1 ∧
      SameLease id (q.perform now c).2 (q'.perform now c).2 := by
  cases c with
  | acquire other worker =>
    obtain rfl : other = id := by simpa [QueueCall.isAbout] using about
    by_cases hlive : (q.liveLease? other now).isSome = true
    · rw [perform_live hlive, perform_live (h.liveLease? now ▸ hlive)]
      exact ⟨rfl, h⟩
    · rw [perform_free hlive, perform_free (h.liveLease? now ▸ hlive)]
      exact ⟨rfl, h.ttl, h.clockEnd, h.usable, h.usable', by simp [h.ttl]⟩
  | release other =>
    obtain rfl : other = id := by simpa [QueueCall.isAbout] using about
    exact ⟨rfl, h.ttl, h.clockEnd, h.usable, h.usable', by
      simp [LeaseQueue.perform, LeaseQueue.release]⟩
  | enqueue | remove | contains | ping => cases about

/-- A call that takes or gives back the lease and leaves the one queue open is answered by both
alike. -/
theorem call (h : SameLease id q q') (about : c.isAbout id = true)
    (usable : (q.call now c).2.closed = false) :
    (q.call now c).1 = (q'.call now c).1 ∧ SameLease id (q.call now c).2 (q'.call now c).2 := by
  obtain ⟨-, returns, hcall⟩ := call_of_open usable
  obtain ⟨hreply, hnext⟩ := h.perform now about
  rw [hcall, call_of_returns h.usable' (h.breaksOff now about ▸ returns), hreply]
  exact ⟨rfl, hnext⟩

/-- Any other call that leaves the queue open leaves the lease as it is. -/
theorem call_other (h : SameLease id q q') (other : c.isAbout id = false)
    (usable : (q.call now c).2.closed = false) : SameLease id (q.call now c).2 q' := by
  obtain ⟨httl, hend⟩ := call_terms q now c
  refine ⟨httl.trans h.ttl, hend.trans h.clockEnd, usable, h.usable', ?_⟩
  rw [← h.stored]
  cases leaseStep ⟨q, now, c⟩ usable id with
  | granted worker grant =>
    cases Dealing.call_of_grant? grant
    simp [QueueCall.isAbout] at other
  | released call =>
    cases call
    simp [QueueCall.isAbout] at other
  | kept noGrant noRelease same => exact same

/-- The calls about a job are answered as they are when they are the only ones. -/
theorem afterAll (h : SameLease id q q') (calls : List (Time × QueueCall))
    (usable : (q.afterAll calls).closed = false) :
    SameLease id (q.afterAll calls)
        (q'.afterAll (calls.filter fun call => call.2.isAbout id)) ∧
      ((q.dealings calls).filter fun d => d.call.isAbout id).map Dealing.exchange =
        (q'.dealings (calls.filter fun call => call.2.isAbout id)).map Dealing.exchange := by
  induction calls generalizing q q' with
  | nil => exact ⟨h, rfl⟩
  | cons call rest ih =>
    obtain ⟨now, c⟩ := call
    rw [LeaseQueue.afterAll] at usable
    have hopen := open_of_afterAll usable
    cases about : c.isAbout id with
    | true =>
      obtain ⟨hreply, hnext⟩ := h.call about hopen
      obtain ⟨hlease, hrest⟩ := ih hnext usable
      simp only [List.filter_cons, LeaseQueue.afterAll, dealings, about, if_true, List.map_cons]
      exact ⟨hlease, congrArg₂ List.cons (congrArg (Sigma.mk c) hreply) hrest⟩
    | false =>
      simp only [List.filter_cons, LeaseQueue.afterAll, dealings, about, Bool.false_eq_true,
        if_false]
      exact ih (h.call_other about hopen) usable

end SameLease

/-! ## Exclusive leases -/

/-- A lease of ten nanoseconds lapses at the tenth; asking again before that does not prolong it. -/
example :
    let id : JobId := default
    let start : LeaseQueue := { ttl := ⟨10⟩ }
    let past := start.dealings [(⟨0⟩, .acquire id ⟨"a"⟩), (⟨9⟩, .acquire id ⟨"a"⟩),
      (⟨9⟩, .acquire id ⟨"b"⟩), (⟨10⟩, .acquire id ⟨"b"⟩)]
    past.map (fun d => d.grant?.map (·.2.text)) = [some "a", none, none, some "b"] := by
  decide +kernel

end LeaseQueue

end Dispatch
