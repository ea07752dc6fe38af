import Dispatch.Proofs.Store.History
import Dispatch.Proofs.Store.Keys
import Dispatch.Service

/-!
# Creation under a key happens once

Callers create jobs through the service, which asks the store and then enters a new job in the ready
list.  A creation comes to one of three things: it makes a job (`Dealing.Makes`), it finds one
(`Dealing.Finds`), or it is refused (`Dealing.Refused`); each says what is answered, what becomes of
the store, and what the service does to the queue.

Of all creations that claim one key the first makes a job and every later one finds this job as it
then is, whatever was done to it in between.  `Idempotent` collects that and the rest of what
creation comes to over a run in which the identities of new jobs are fresh.
-/

namespace Dispatch

/-! ## Creations through the service -/

/-- The store and the queue in memory, at one moment. -/
def Script.Backend.memory (m : Moment) : Backend (Store × LeaseQueue) where
  store c w := ((w.1.perform m c).1, (w.1.perform m c).2, w.2)
  queue c w := ((w.2.perform m.now c).1, w.1, (w.2.perform m.now c).2)

namespace Service

variable {s t : Store} {m : Moment} {draft : Draft} {j : Job}

/-- The service answers a job that the store found, and lets the queue be. -/
theorem create_found (complete : draft.isComplete = true)
    (answer : s.perform m (.create draft) = (.ok (j, true), t)) (q : LeaseQueue) :
    (create draft).run (.memory m) (s, q) = (.ok (j, true), t, q) := by
  unfold create
  rw [Draft.validate_of_complete complete]
  simp only [Script.askStoreFor, Script.run, Script.Backend.memory, answer]
  rfl

/-- The service enters a job that the store made in the ready list. -/
theorem create_new (complete : draft.isComplete = true)
    (answer : s.perform m (.create draft) = (.ok (j, false), t)) (q : LeaseQueue) :
    (create draft).run (.memory m) (s, q) = (.ok (j, false), t, q.enqueue j.id) := by
  unfold create
  rw [Draft.validate_of_complete complete]
  simp only [Script.askStoreFor, Script.run, Script.Backend.memory, answer]
  rfl

/-- The service asks nobody about a draft without a tenant or a model. -/
theorem create_incomplete (incomplete : draft.isComplete = false) (q : LeaseQueue) :
    (create draft).run (.memory m) (s, q) =
      (.error (.validation Draft.requiredMessage), s, q) := by
  unfold create
  rw [Draft.validate_of_incomplete incomplete]
  rfl

end Service

/-! ## What a creation comes to -/

/-- The job that the call brought, and whether it was there before. -/
def StoreCall.made : (c : StoreCall) → c.Reply → Option (Job × Bool)
  | .create _, .ok r => some r
  | _, _ => none

namespace Dealing

/-- The job that the call brought, and whether it was there before. -/
def made (d : Dealing) : Option (Job × Bool) := d.call.made d.reply

/-- If the call creates a job, there is no job with its identity yet. -/
def isFresh (d : Dealing) : Bool :=
  match d.call with
  | .create _ => (d.before.jobs.get? d.moment.fresh.job).isNone
  | _ => true

/-- Through the service the creation is answered so, it leaves the store that the call left, and it
does this to the queue. -/
def Serves (d : Dealing) (answer : Except JobError (Job × Bool))
    (effect : LeaseQueue → LeaseQueue) : Prop :=
  ∀ draft q, d.call = .create draft →
    (Service.create draft).run (.memory d.moment) (d.before, q) = (answer, d.after, effect q)

/-- The creation makes a job, and the service enters it in the ready list. -/
structure Makes (d : Dealing) (j : Job) : Prop where
  answered : d.made = some (j, false)
  unknown : d.before.jobs.get? j.id = none
  stored : d.after.jobs.get? j.id = some j
  served : d.Serves (.ok (j, false)) fun q => q.enqueue j.id

/-- The creation finds a job as it stands, and nothing happens. -/
structure Finds (d : Dealing) (j : Job) : Prop where
  answered : d.made = some (j, true)
  stored : d.before.jobs.get? j.id = some j
  same : d.after = d.before
  served : d.Serves (.ok (j, true)) fun q => q

/-- The creation is refused for want of a tenant or a model, and nothing happens. -/
structure Refused (d : Dealing) : Prop where
  answered : d.error = some (.validation Draft.requiredMessage)
  same : d.after = d.before
  served : d.Serves (.error (.validation Draft.requiredMessage)) fun q => q

end Dealing

section Create

variable {s t : Store} {m : Moment} {draft : Draft} {k : String × String} {id : JobId}

/-- What the service makes of the answer to a creation is what the creation serves. -/
theorem Dealing.serves {r : (StoreCall.create draft).Reply}
    (answer : s.perform m (.create draft) = (r, t)) {served : Except JobError (Job × Bool)}
    {effect : LeaseQueue → LeaseQueue}
    (run : ∀ q, (Service.create draft).run (.memory m) (s, q) = (served, t, effect q)) :
    Dealing.Serves ⟨s, m, .create draft⟩ served effect := by
  intro draft' q hcall
  cases hcall
  show _ = (served, (s.perform m (.create draft)).2, effect q)
  rw [answer]
  exact run q

theorem makes_of_unclaimed (complete : draft.isComplete = true)
    (unclaimed : ∀ k, draft.normalized.claim = some k → s.keys.get? k = none)
    (unknown : s.jobs.get? m.fresh.job = none) :
    Dealing.Makes ⟨s, m, .create draft⟩ (Job.queued draft.normalized m.fresh m.now) := by
  have hanswer : s.perform m (.create draft) = (.ok (Job.queued draft.normalized m.fresh m.now,
      false), s.register draft.normalized.claim (Job.queued draft.normalized m.fresh m.now)
        m.now) := congrArg s.settle (Store.create_new complete unclaimed unknown)
  refine ⟨?_, unknown, ?_, Dealing.serves hanswer (Service.create_new complete hanswer)⟩
  · show StoreCall.made _ (s.perform m (.create draft)).1 = _
    rw [hanswer]
    rfl
  · show (s.perform m (.create draft)).2.jobs.get? _ = _
    rw [hanswer, Store.get?_jobs_register, if_pos rfl]

theorem finds_of_claimed (h : s.Orderly) (indexed : s.Indexed) (complete : draft.isComplete = true)
    (claim : draft.normalized.claim = some k) (hk : s.keys.get? k = some id) :
    ∃ j, j.id = id ∧ Dealing.Finds ⟨s, m, .create draft⟩ j := by
  obtain ⟨j, stored, -⟩ := indexed.stored hk
  have hid : j.id = id := h.filed id j stored
  have hanswer : s.perform m (.create draft) = (.ok (j, true), s) :=
    congrArg s.settle (Store.create_found complete claim hk stored)
  refine ⟨j, hid, ?_, hid ▸ stored, congrArg Prod.snd hanswer,
    Dealing.serves hanswer (Service.create_found complete hanswer)⟩
  show StoreCall.made _ (s.perform m (.create draft)).1 = _
  rw [hanswer]
  rfl

theorem refused_of_incomplete (incomplete : draft.isComplete = false) :
    Dealing.Refused ⟨s, m, .create draft⟩ := by
  have hanswer : s.perform m (.create draft) =
      (.error (.validation Draft.requiredMessage), s) :=
    congrArg s.settle (Store.create_incomplete incomplete)
  refine ⟨?_, congrArg Prod.snd hanswer,
    Dealing.serves hanswer (Service.create_incomplete incomplete)⟩
  show refusal (s.perform m (.create draft)).1 = _
  rw [hanswer]
  rfl

end Create

/-! ## Creations over a run -/

/-- A creation that claims a key makes a job under it if the key leads nowhere, and finds the job
that the key leads to otherwise; either way the key leads to this job afterwards. -/
theorem Dealing.claimed {d : Dealing} {k : String × String} (h : d.before.Orderly)
    (indexed : d.before.Indexed) (fresh : d.isFresh = true) (hclaims : d.call.claims = some k) :
    (d.before.keys.get? k = none ∧
        ∃ j, d.Makes j ∧ j.claim = some k ∧ d.after.keys.get? k = some j.id) ∨
      ∃ j, d.before.keys.get? k = some j.id ∧ d.Finds j ∧ d.after.keys.get? k = some j.id := by
  obtain ⟨s, m, c⟩ := d
  cases c with
  | create draft =>
    obtain ⟨complete, hclaim⟩ := StoreCall.claims_create.1 hclaims
    cases hk : s.keys.get? k with
    | some id =>
      obtain ⟨j, rfl, hfinds⟩ := finds_of_claimed (m := m) h indexed complete hclaim hk
      refine .inr ⟨j, rfl, hfinds, ?_⟩
      rw [hfinds.same]
      exact hk
    | none =>
      have hunclaimed : ∀ k', draft.normalized.claim = some k' → s.keys.get? k' = none := by
        intro k' hk'
        rw [hclaim] at hk'
        cases hk'
        exact hk
      have hmakes := makes_of_unclaimed complete hunclaimed (Option.isNone_iff_eq_none.1 fresh)
      have hown := (Job.claim_queued draft m.fresh m.now).trans hclaim
      refine .inl ⟨rfl, _, hmakes, hown, ?_⟩
      have hnext : (Store.perform s m (.create draft)).2.Indexed :=
        (Store.kept_by_perform h m (.create draft) (fun _ c i => Store.Indexed.change c i)
          indexed).2
      obtain ⟨tenant, key⟩ := k
      obtain ⟨htenant, hkey⟩ := Job.claim_eq_some.1 hown
      exact (hnext.found tenant key _).2 ⟨_, hmakes.stored, htenant, hkey⟩
  | _ => cases hclaims

namespace Lived

variable {past earlier mid : List Dealing} {d : Dealing} {s : Store} {k : String × String}
  {id : JobId}

/-- A key that leads to a job after a call leads to it at every later moment. -/
theorem keys_kept (h : Lived (earlier ++ d :: mid) s) (hk : d.after.keys.get? k = some id) :
    s.keys.get? k = some id := by
  induction mid using List.reverseRecOn generalizing s with
  | nil =>
    rw [h.snoc_inv.2]
    exact hk
  | append_singleton mid e ih =>
    rw [← List.cons_append, ← List.append_assoc] at h
    obtain ⟨hbefore, rfl⟩ := h.snoc_inv
    exact Store.keys_kept hbefore.orderly (.lived hbefore) (ih hbefore) e.moment e.call

/-- A key that no call has claimed leads nowhere. -/
theorem unclaimed (h : Lived past s) (hfree : ∀ e ∈ past, e.call.claims ≠ some k) :
    s.keys.get? k = none := by
  induction h with
  | born => rfl
  | @deal past s m c lived ih =>
    by_contra hsome
    obtain ⟨id, hid⟩ := Option.ne_none_iff_exists'.1 hsome
    rcases Store.claimed_of_perform lived.orderly m c hid with hold | hclaims
    · rw [ih fun e he => hfree e (List.mem_append_left _ he)] at hold
      cases hold
    · exact hfree ⟨s, m, c⟩ (List.mem_append_right _ (List.mem_singleton_self _)) hclaims

end Lived

/-- What creation comes to over a run. -/
structure Idempotent (past : List Dealing) (s : Store) : Prop where
  /-- The index leads from a key to a job if and only if the job was created under it. -/
  indexed : s.Indexed
  /-- No two jobs were created under one key. -/
  apart : ∀ a b i j, s.jobs.get? a = some i → s.jobs.get? b = some j → i.tenant = j.tenant →
    i.idempotencyKey = j.idempotencyKey → i.idempotencyKey.isSome = true → a = b
  /-- The first creation that claims a key makes a job under it. -/
  first : ∀ earlier d later k, past = earlier ++ d :: later → d.call.claims = some k →
    (∀ e ∈ earlier, e.call.claims ≠ some k) → ∃ j, d.Makes j ∧ j.claim = some k
  /-- Every later creation that claims the key finds the job as it then is. -/
  again : ∀ earlier d mid e later k, past = earlier ++ d :: (mid ++ e :: later) →
    d.call.claims = some k → e.call.claims = some k →
      ∃ j found j', d.made = some (j, found) ∧ e.Finds j' ∧ j'.id = j.id
  /-- A creation without a key makes a job. -/
  unkeyed : ∀ d ∈ past, ∀ draft, d.call = .create draft → draft.isComplete = true →
    (draft.idempotencyKey = none ∨ draft.idempotencyKey = some "") → ∃ j, d.Makes j
  /-- A creation without a tenant or a model is refused. -/
  refused : ∀ d ∈ past, ∀ draft, d.call = .create draft → draft.isComplete = false → d.Refused

/-- A draft without a key, or with the empty one, claims none. -/
theorem Draft.claim_normalized_eq_none {d : Draft}
    (h : d.idempotencyKey = none ∨ d.idempotencyKey = some "") : d.normalized.claim = none := by
  rcases h with h | h <;> simp [normalized, claim, h]

/-- Whatever calls are made on the empty store, under one key one job is created. -/
theorem Store.idempotent_afterAll (calls : List (Moment × StoreCall))
    (fresh : ∀ d ∈ empty.dealings calls, d.isFresh = true) :
    Idempotent (empty.dealings calls) (empty.afterAll calls) := by
  have hlived := Lived.dealings calls
  have hindexed := Indexed.lived hlived
  generalize empty.dealings calls = past at hlived fresh
  refine ⟨hindexed, fun a b i j => hindexed.apart, ?_, ?_, ?_, ?_⟩
  · rintro earlier d later k rfl hclaims hfree
    have hbefore := hlived.before_of_append
    have hfresh := fresh d (List.mem_append_right _ List.mem_cons_self)
    rcases Dealing.claimed hbefore.orderly (.lived hbefore) hfresh hclaims with
      ⟨-, j, hmakes, hown, -⟩ | ⟨j, hk, -⟩
    · exact ⟨j, hmakes, hown⟩
    · rw [hbefore.unclaimed hfree] at hk
      cases hk
  · rintro earlier d mid e later k rfl hd he
    have hbefore := hlived.before_of_append
    have hfresh := fresh d (List.mem_append_right _ List.mem_cons_self)
    -- the key leads to the job of the first creation from then on
    obtain ⟨j, found, hmade, hk⟩ : ∃ j found, d.made = some (j, found) ∧
        d.after.keys.get? k = some j.id := by
      rcases Dealing.claimed hbefore.orderly (.lived hbefore) hfresh hd with
        ⟨-, j, hmakes, -, hk⟩ | ⟨j, -, hfinds, hk⟩
      · exact ⟨j, false, hmakes.answered, hk⟩
      · exact ⟨j, true, hfinds.answered, hk⟩
    have hsplit : earlier ++ d :: (mid ++ e :: later) = (earlier ++ d :: mid) ++ e :: later := by
      rw [List.append_assoc, List.cons_append]
    have hlater : Lived (earlier ++ d :: mid) e.before := (hsplit ▸ hlived).before_of_append
    have hstill := hlater.keys_kept hk
    have hfresh' := fresh e (by simp)
    rcases Dealing.claimed hlater.orderly (.lived hlater) hfresh' he with
      ⟨hnone, -⟩ | ⟨j', hk', hfinds, -⟩
    · rw [hstill] at hnone
      cases hnone
    · refine ⟨j, found, j', hmade, hfinds, ?_⟩
      rw [hstill] at hk'
      exact (Option.some.inj hk').symm
  · rintro ⟨s, m, c⟩ hd draft rfl complete unkeyed
    have hnone := Draft.claim_normalized_eq_none unkeyed
    have hfresh := Option.isNone_iff_eq_none.1 (fresh _ hd)
    refine ⟨_, makes_of_unclaimed complete (fun k hk => ?_) hfresh⟩
    rw [hnone] at hk
    cases hk
  · rintro ⟨s, m, c⟩ hd draft rfl incomplete
    exact refused_of_incomplete incomplete

/-- A job is created under a key, fails, is sent back to waiting and asked for again; a job without
a key and a draft without a tenant follow. -/
def comeback : List (Moment × StoreCall) :=
  let draft : Draft := { tenant := "acme", model := "small", idempotencyKey := some "order-1" }
  let id := (FreshIds.numbered 1 1).job
  [(⟨⟨1⟩, .numbered 1 1⟩, .create draft), (⟨⟨2⟩, .numbered 2 2⟩, .start id ⟨"worker-1"⟩),
    (⟨⟨3⟩, .numbered 3 3⟩, .fail id 1 ⟨"worker-1"⟩ .providerError "refused"),
    (⟨⟨4⟩, .numbered 4 4⟩, .retry id),
    (⟨⟨5⟩, .numbered 5 5⟩, .create { draft with model := "large", priority := 9 }),
    (⟨⟨6⟩, .numbered 6 6⟩, .create { draft with idempotencyKey := some "" }),
    (⟨⟨7⟩, .numbered 7 7⟩, .create { draft with tenant := " " })]

theorem Store.idempotent_comeback :
    (∀ d ∈ empty.dealings comeback, d.isFresh = true) ∧
      Idempotent (empty.dealings comeback) (empty.afterAll comeback) :=
  ⟨by decide, idempotent_afterAll comeback (by decide)⟩

example : ((Store.empty.dealings comeback).map fun d => d.made.map fun r => (r.1.attempt, r.2)) =
    [some (0, false), none, none, none, some (1, true), some (0, false), none] := by decide

end Dispatch
