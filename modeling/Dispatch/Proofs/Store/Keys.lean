import Dispatch.Proofs.Job.Draft
import Dispatch.Proofs.Store.Run

/-!
# The index of keys

A job may be created under a key of its tenant's choice.  The index finds the job of a key, and it
stays in step with the jobs whatever happens to them: `Indexed` says that the index leads from a key
to a job if and only if the job was created under it, so no two jobs were created under one key.

A job is created under the key that its draft claims, and the key of a job never changes
(`Turn.keys`).  Hence a key that leads to a job leads to it ever after (`keys_kept`), and a creation
that claims such a key finds the job (`create_found`).
-/

namespace Dispatch

/-! ## Claims -/

/-- The key, with its tenant, under which the job was created. -/
def Job.claim (j : Job) : Option (String × String) := j.idempotencyKey.map fun k => (j.tenant, k)

theorem Job.claim_eq_some {j : Job} {tenant key : String} :
    j.claim = some (tenant, key) ↔ j.tenant = tenant ∧ j.idempotencyKey = some key := by
  simp only [claim, Option.map_eq_some_iff, Prod.mk.injEq]
  constructor
  · rintro ⟨k, hkey, rfl, rfl⟩
    exact ⟨rfl, hkey⟩
  · rintro ⟨rfl, hkey⟩
    exact ⟨key, hkey, rfl, rfl⟩

/-- A job is created under the key that its draft claims. -/
theorem Job.claim_queued (d : Draft) (ids : FreshIds) (now : Time) :
    (Job.queued d.normalized ids now).claim = d.normalized.claim := by
  show d.normalized.normalized.claim = d.normalized.claim
  rw [d.normalized_normalized]

/-- The key that the call claims, if it creates a job. -/
def StoreCall.claims : StoreCall → Option (String × String)
  | .create draft => if draft.isComplete then draft.normalized.claim else none
  | _ => none

theorem StoreCall.claims_create {draft : Draft} {key : String × String} :
    (StoreCall.create draft).claims = some key ↔
      draft.isComplete = true ∧ draft.normalized.claim = some key := by
  by_cases h : draft.isComplete = true <;> simp [claims, h]

namespace Store

variable {s s' t : Store} {now : Time} {k : String × String} {id : JobId}

/-! ## The index -/

/-- The index leads from a key to a job if and only if the job was created under it; jobs are not
created under an empty key. -/
structure Indexed (s : Store) : Prop where
  found : ∀ tenant key id, s.keys.get? (tenant, key) = some id ↔
    ∃ j, s.jobs.get? id = some j ∧ j.tenant = tenant ∧ j.idempotencyKey = some key
  named : ∀ id j, s.jobs.get? id = some j → j.idempotencyKey ≠ some ""

theorem get?_jobs_register (claim : Option (String × String)) (j : Job) (id : JobId) :
    (s.register claim j now).jobs.get? id = if j.id = id then some j else s.jobs.get? id :=
  Table.get?_set s.jobs j.id id j

theorem get?_keys_register (claim : Option (String × String)) (j : Job) (k : String × String) :
    (s.register claim j now).keys.get? k =
      if claim = some k then some j.id else s.keys.get? k := by
  cases claim with
  | none => rfl
  | some own =>
    show (s.keys.set own j.id).get? k = _
    simp

/-- A creation enters the job's key into the index, under which no job was found before; any other
turn leaves the index and the job's key alone. -/
theorem Turn.keys {d : Deed} {after : Job} (turn : Turn now s d after s') :
    (s.jobs.get? after.id = none ∧ after.idempotencyKey ≠ some "" ∧
      (∀ k id, after.claim = some k → s.keys.get? k = some id → s.jobs.get? id = none) ∧
      ∀ k, s'.keys.get? k = if after.claim = some k then some after.id else s.keys.get? k) ∨
    ∃ j, s.jobs.get? after.id = some j ∧ after.tenant = j.tenant ∧
      after.idempotencyKey = j.idempotencyKey ∧ s'.keys = s.keys := by
  cases turn with
  | @created draft ids valid unclaimed unknown =>
    have hclaim := Job.claim_queued draft ids now
    refine .inl ⟨unknown, ?_, ?_, ?_⟩
    · intro hempty
      have hnone : (Job.queued draft.normalized ids now).claim = some (draft.tenant, "") :=
        Job.claim_eq_some.2 ⟨rfl, hempty⟩
      rw [hclaim, Draft.claim_normalized_eq_some] at hnone
      exact hnone.2.2 rfl
    · intro k id hk hid
      rw [hclaim] at hk
      rw [hk] at unclaimed
      simpa [hid] using unclaimed
    · intro k
      rw [hclaim]
      exact get?_keys_register draft.normalized.claim (Job.queued draft.normalized ids now) k
  | @started j worker stored waiting => exact .inr ⟨j, stored, rfl, rfl, rfl⟩
  | @succeeded j worker usage stored running => exact .inr ⟨j, stored, rfl, rfl, rfl⟩
  | @failed j worker code message stored running => exact .inr ⟨j, stored, rfl, rfl, rfl⟩
  | @dropped j reason stored waiting => exact .inr ⟨j, stored, rfl, rfl, rfl⟩
  | @stopped j reason stored running =>
    refine .inr ⟨j, stored, rfl, rfl, ?_⟩
    show (Store.closeAttempt _ _ _ _ _ _).keys = s.keys
    unfold closeAttempt
    split <;> rfl
  | @retried j stored ended => exact .inr ⟨j, stored, rfl, rfl, rfl⟩
  | @requeued j stored running => exact .inr ⟨j, stored, rfl, rfl, rfl⟩

namespace Indexed

theorem empty : Store.empty.Indexed where
  found := by simp [Store.empty]
  named := by simp [Store.empty]

/-- The job of a key is there. -/
theorem stored (h : s.Indexed) (hk : s.keys.get? k = some id) :
    ∃ j, s.jobs.get? id = some j ∧ j.claim = some k := by
  obtain ⟨tenant, key⟩ := k
  obtain ⟨j, hj, hclaim⟩ := (h.found tenant key id).1 hk
  exact ⟨j, hj, Job.claim_eq_some.2 hclaim⟩

/-- No two jobs were created under one key. -/
theorem apart (h : s.Indexed) {a b : JobId} {i j : Job} (ha : s.jobs.get? a = some i)
    (hb : s.jobs.get? b = some j) (tenant : i.tenant = j.tenant)
    (key : i.idempotencyKey = j.idempotencyKey) (keyed : i.idempotencyKey.isSome = true) :
    a = b := by
  obtain ⟨own, hown⟩ := Option.isSome_iff_exists.1 keyed
  have hfirst := (h.found i.tenant own a).2 ⟨i, ha, rfl, hown⟩
  have hsecond := (h.found i.tenant own b).2 ⟨j, hb, tenant.symm, key.symm.trans hown⟩
  exact Option.some.inj (hfirst.symm.trans hsecond)

theorem turn {d : Deed} {after : Job} (turn : Turn now s d after s') (h : s.Indexed) :
    s'.Indexed := by
  rcases turn.keys with ⟨unknown, hnamed, hfree, hkeys⟩ | ⟨j, stored, htenant, hkey, hkeys⟩
  · have hclaim : ∀ tenant key, after.claim = some (tenant, key) →
        s.keys.get? (tenant, key) = none := by
      intro tenant key hown
      by_contra hsome
      obtain ⟨id, hid⟩ := Option.ne_none_iff_exists'.1 hsome
      obtain ⟨j, hj, -⟩ := h.stored hid
      rw [hfree _ id hown hid] at hj
      cases hj
    refine ⟨fun tenant key id => ?_, fun id j hj => ?_⟩
    · rw [hkeys, turn.get?_jobs]
      -- the new job is found under its own key and no other job is
      by_cases hid : after.id = id
      · subst hid
        simp only [if_true, Option.some.injEq, exists_eq_left', ← Job.claim_eq_some]
        by_cases hown : after.claim = some (tenant, key)
        · simp [hown]
        · simp only [hown, if_false, iff_false]
          intro hid
          obtain ⟨j, hj, -⟩ := h.stored hid
          rw [unknown] at hj
          cases hj
      · simp only [hid, if_false]
        by_cases hown : after.claim = some (tenant, key)
        · have hnone := (h.found tenant key id).not.1 (by rw [hclaim tenant key hown]; simp)
          simp only [hown, if_true, Option.some.injEq, hid, false_iff]
          exact hnone
        · simp only [hown, if_false]
          exact h.found tenant key id
    · rw [turn.get?_jobs] at hj
      split at hj
      · cases hj
        exact hnamed
      · exact h.named id j hj
  · refine ⟨fun tenant key id => ?_, fun id i hi => ?_⟩
    · rw [hkeys, h.found, turn.get?_jobs]
      by_cases hid : after.id = id
      · subst hid
        simp [stored, htenant, hkey]
      · simp [hid]
    · rw [turn.get?_jobs] at hi
      split at hi
      · cases hi
        rw [hkey]
        exact h.named _ j stored
      · exact h.named id i hi

theorem change (change : Change now s t) (h : s.Indexed) : t.Indexed := by
  cases change with
  | turn t => exact turn t h
  | report workers => exact ⟨h.found, h.named⟩

theorem lived {past : List Dealing} (h : Lived past s) : s.Indexed :=
  (h.kept empty fun _ c indexed => change c indexed).2

end Indexed

/-- A key that leads to a job leads to it after every change. -/
theorem Change.keys_kept (c : Change now s t) (indexed : s.Indexed)
    (hk : s.keys.get? k = some id) : t.keys.get? k = some id := by
  cases c with
  | report workers => exact hk
  | turn turn =>
    rcases turn.keys with ⟨-, -, hfree, hkeys⟩ | ⟨j, -, -, -, hkeys⟩
    · -- a job is there already, so the key is not that of the new one
      obtain ⟨j, hj, -⟩ := indexed.stored hk
      rw [hkeys, if_neg]
      · exact hk
      · intro hown
        rw [hfree k id hown hk] at hj
        cases hj
    · rw [hkeys]
      exact hk

/-- A key that leads to a job leads to it after every call. -/
theorem keys_kept (h : s.Orderly) (indexed : s.Indexed) (hk : s.keys.get? k = some id) (m : Moment)
    (c : StoreCall) : (s.perform m c).2.keys.get? k = some id := by
  have hboth := kept_by_perform (P := fun u => u.Indexed ∧ u.keys.get? k = some id) h m c
    (fun _ change hold => ⟨hold.1.change change, change.keys_kept hold.1 hold.2⟩) ⟨indexed, hk⟩
  exact hboth.2.2

/-! ## Creations -/

section Create

variable {draft : Draft} {ids : FreshIds}

/-- A draft whose key leads to a job finds the job, and nothing happens. -/
theorem create_found (complete : draft.isComplete = true) {j : Job}
    (claim : draft.normalized.claim = some k) (hk : s.keys.get? k = some id)
    (stored : s.jobs.get? id = some j) : s.create draft ids now = .ok ((j, true), s) := by
  unfold create
  rw [Draft.validate_of_complete complete]
  simp only [claim, hk, stored, Option.bind_some]

/-- A draft whose key, if it claims one, leads to no job makes a job. -/
theorem create_new (complete : draft.isComplete = true)
    (unclaimed : ∀ k, draft.normalized.claim = some k → s.keys.get? k = none)
    (unknown : s.jobs.get? ids.job = none) :
    s.create draft ids now = .ok ((Job.queued draft.normalized ids now, false),
      s.register draft.normalized.claim (Job.queued draft.normalized ids now) now) := by
  have hnone : (draft.normalized.claim.bind fun k => (s.keys.get? k).bind s.jobs.get?) = none := by
    cases hclaim : draft.normalized.claim with
    | none => rfl
    | some k =>
      show (s.keys.get? k).bind s.jobs.get? = none
      rw [unclaimed k hclaim]
      rfl
  have hid : (s.jobs.get? (Job.queued draft.normalized ids now).id).isSome = false := by
    show (s.jobs.get? ids.job).isSome = false
    rw [unknown]
    rfl
  unfold create
  rw [Draft.validate_of_complete complete]
  simp only [hnone, hid]
  rfl

/-- A draft without a tenant or a model is refused. -/
theorem create_incomplete (incomplete : draft.isComplete = false) :
    s.create draft ids now = .error (.validation Draft.requiredMessage) := by
  unfold create
  rw [Draft.validate_of_incomplete incomplete]
  rfl

end Create

/-- A draft that is accepted leads to a job under the key that it claims and leaves the store as it
was, or it makes a job. -/
theorem create_inv {draft : Draft} {ids : FreshIds} {j : Job} {found : Bool}
    (hs : s.create draft ids now = .ok ((j, found), t)) :
    (found = true ∧ t = s ∧ ∃ k id, draft.normalized.claim = some k ∧ s.keys.get? k = some id ∧
        s.jobs.get? id = some j) ∨
      (found = false ∧ j = Job.queued draft.normalized ids now ∧ s.jobs.get? j.id = none ∧
        t = s.register draft.normalized.claim j now) := by
  unfold create at hs
  split at hs
  · cases hs
  · dsimp only at hs
    split at hs
    · rename_i hfound
      cases hs
      obtain ⟨k, hclaim, hk⟩ := Option.bind_eq_some_iff.1 hfound
      obtain ⟨id, hid, stored⟩ := Option.bind_eq_some_iff.1 hk
      exact .inl ⟨rfl, rfl, k, id, hclaim, hid, stored⟩
    · split at hs
      · cases hs
      · rename_i unknown
        cases hs
        exact .inr ⟨rfl, rfl, Option.not_isSome_iff_eq_none.1 unknown, rfl⟩

/-- What a draft leaves behind if it is accepted: the store as it was, or the store with a job under
the key that the draft claims. -/
theorem create_leaves {draft : Draft} {ids : FreshIds} {r : Job × Bool}
    (hs : s.create draft ids now = .ok (r, t)) :
    draft.isComplete = true ∧ (t = s ∨
      t = s.register draft.normalized.claim (Job.queued draft.normalized ids now) now) := by
  cases hcomplete : draft.isComplete with
  | false =>
    rw [create_incomplete hcomplete] at hs
    cases hs
  | true =>
    refine ⟨rfl, ?_⟩
    unfold create at hs
    rw [Draft.validate_of_complete hcomplete] at hs
    dsimp only at hs
    split at hs
    · cases hs
      exact .inl rfl
    · split at hs
      · cases hs
      · cases hs
        exact .inr rfl

/-- Turns that are no creations leave the index as it is. -/
theorem Turns.keys_eq {kind : Option EventKind} (turns : Turns now kind s t)
    (made : kind ≠ some .created) : t.keys = s.keys := by
  induction turns with
  | refl => rfl
  | tail _ hturn ih =>
    obtain ⟨d, after, rfl, turn⟩ := hturn
    rcases turn.keys with ⟨unknown, -⟩ | ⟨j, -, -, -, hkeys⟩
    · -- the job is new, so this is a creation after all
      rcases turn.found with ⟨rfl, -⟩ | ⟨j, stored, -⟩
      · exact absurd rfl made
      · rw [unknown] at stored
        cases stored
    · rw [hkeys, ih]

/-- A call that is no creation leaves the index as it is. -/
theorem perform_keys (h : s.Orderly) (m : Moment) {c : StoreCall}
    (made : c.kind? ≠ some .created) : (s.perform m c).2.keys = s.keys := by
  cases hreporter : c.reporter with
  | none => exact (perform_turns h m hreporter).keys_eq made
  | some worker =>
    cases c with
    | beat worker state running concurrency => rfl
    | _ => cases hreporter

/-- A key is in the index after a call only if it was there before or the call claimed it. -/
theorem claimed_of_perform (h : s.Orderly) (m : Moment) (c : StoreCall)
    (hk : (s.perform m c).2.keys.get? k = some id) :
    s.keys.get? k = some id ∨ c.claims = some k := by
  by_cases made : c.kind? = some .created
  · cases c with
    | create draft =>
      rw [perform] at hk
      cases hs : s.create draft m.fresh m.now with
      | error e =>
        rw [hs] at hk
        exact .inl hk
      | ok r =>
        rw [hs] at hk
        have hk : r.2.keys.get? k = some id := hk
        obtain ⟨hcomplete, hsame | hnew⟩ := create_leaves hs
        · rw [hsame] at hk
          exact .inl hk
        · rw [hnew, get?_keys_register] at hk
          by_cases hclaim : draft.normalized.claim = some k
          · exact .inr (StoreCall.claims_create.2 ⟨hcomplete, hclaim⟩)
          · rw [if_neg hclaim] at hk
            exact .inl hk
    | _ => cases made
  · rw [perform_keys h m made] at hk
    exact .inl hk

end Store

end Dispatch
