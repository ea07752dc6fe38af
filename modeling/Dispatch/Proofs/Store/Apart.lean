import Dispatch.Proofs.Store.Keys
import Dispatch.Proofs.Store.Pages
import Dispatch.Proofs.Store.Settled

/-!
# Operations on different jobs are independent

All jobs share the tables of the store and its log.  Nevertheless an operation on one job reads one
row only, the row of that job: `Operation.act` says what it comes to, given the row, and
`perform_on` that the store does just this.  So two operations on different jobs get the same
answers in either order and leave the same (`independent_afterAll`); only the numbers of the entries
in the log tell the orders apart, which is why `Agree` compares entries without their numbers.

What one tenant's jobs go through is invisible to every other tenant (`ShowsAlike`).  This rests on
the index of keys as well: a key leads to a job of the tenant who chose it.
-/

namespace Dispatch

/-! ## Operations -/

/-- What workers and operators do to a job. -/
inductive Operation where
  | start (worker : WorkerId)
  | succeed (attempt : Int) (worker : WorkerId) (usage : Usage)
  | fail (attempt : Int) (worker : WorkerId) (code : FailureCode) (message : String)
  | cancel (reason : String)
  | retry

namespace Operation

open Store

/-- The call that does it to a job. -/
def on (id : JobId) : Operation → StoreCall
  | start worker => .start id worker
  | succeed attempt worker usage => .succeed id attempt worker usage
  | fail attempt worker code message => .fail id attempt worker code message
  | cancel reason => .cancel id reason
  | retry => .retry id

/-- None of them is a creation. -/
theorem kind?_on (o : Operation) (id : JobId) : (o.on id).kind? ≠ some .created := by
  cases o <;> simp [on, StoreCall.kind?]

/-- What it does to a job with this row, if the row allows it: the deed, and the row after it. -/
def act (now : Time) (j : Job) : Operation → Option (Deed × Job)
  | start worker =>
    if j.status = .queued then some (.started worker, j.begun now) else none
  | succeed attempt worker usage =>
    if j.status = .running ∧ j.attempt = attempt
    then some (.succeeded worker usage, j.completed now) else none
  | fail attempt worker code message =>
    if j.status = .running ∧ j.attempt = attempt
    then some (.failed worker code message, j.broken code message now) else none
  | cancel reason =>
    if j.status.isCancellable
    then some (if j.status = .running then .stopped reason else .dropped reason,
      j.withdrawn reason now) else none
  | retry => if j.status.isRetryable then some (.retried, j.renewed) else none

/-- What is answered, given what was done. -/
def answer (id : JobId) : (o : Operation) → Option (Deed × Job) → (o.on id).Reply
  | start _, done => .ok (done.map (·.2))
  | succeed _ _ _, some _ => .ok ()
  | succeed attempt _ _, none => .error (notRunning id attempt)
  | fail _ _ _ _, some _ => .ok ()
  | fail attempt _ _ _, none => .error (notRunning id attempt)
  | cancel _, some (_, j) => .ok j
  | cancel _, none => .error (notInState id "cancellable")
  | retry, some (_, j) => .ok j
  | retry, none => .error (notInState id "retryable")

end Operation

/-- An operation as it is asked for: when, of which job, and what. -/
structure Instruction where
  moment : Moment
  job : JobId
  operation : Operation

namespace Instruction

/-- The call to the store. -/
def call (r : Instruction) : StoreCall := r.operation.on r.job

/-- The answer of a store. -/
def reply (r : Instruction) (s : Store) : r.call.Reply := (s.perform r.moment r.call).1

/-- What it leaves of a store. -/
def after (r : Instruction) (s : Store) : Store := (s.perform r.moment r.call).2

end Instruction

namespace Store

variable {s t s' t' : Store} {now : Time} {id : JobId} {r : Instruction} {tenant : String}

/-! ## One row is read -/

/-- An operation that the row of its job does not allow, or whose job is not there, does nothing. -/
theorem perform_refused {m : Moment} {o : Operation}
    (refused : (s.jobs.get? id).bind (o.act m.now) = none) :
    s.perform m (o.on id) = (o.answer id none, s) := by
  have hidle : ∀ allowed : Job → Bool, (∀ j, o.act m.now j = none → allowed j = false) →
      s.jobIf? id allowed = none := by
    intro allowed forbidden
    rw [jobIf?, Option.filter_eq_none_iff]
    intro j hj
    rw [hj] at refused
    simpa using forbidden j refused
  cases o with
  | start worker =>
    have hnone : s.jobIf? id (·.status = .queued) = none := hidle _ (by simp [Operation.act])
    simp only [Operation.on, perform, Store.start, hnone, Operation.answer, Option.map_none]
  | succeed attempt worker usage =>
    have hnone : s.running? id attempt = none := hidle _ (by simp [Operation.act])
    simp only [Operation.on, perform, Store.succeed, hnone, Operation.answer, settle]
  | fail attempt worker code message =>
    have hnone : s.running? id attempt = none := hidle _ (by simp [Operation.act])
    simp only [Operation.on, perform, Store.fail, hnone, Operation.answer, settle]
  | cancel reason =>
    have hnone : s.jobIf? id (·.status.isCancellable) = none := hidle _ (by simp [Operation.act])
    simp only [Operation.on, perform, Store.cancel, hnone, Operation.answer, settle]
  | retry =>
    have hnone : s.jobIf? id (·.status.isRetryable) = none := hidle _ (by simp [Operation.act])
    simp only [Operation.on, perform, Store.retry, hnone, Operation.answer, settle]

/-- An operation that the row of its job allows is a turn of the job. -/
theorem perform_taken (h : s.Orderly) {m : Moment} {o : Operation} {d : Deed} {after : Job}
    (taken : (s.jobs.get? id).bind (o.act m.now) = some (d, after)) :
    (s.perform m (o.on id)).1 = o.answer id (some (d, after)) ∧ after.id = id ∧
      Turn m.now s d after (s.perform m (o.on id)).2 := by
  obtain ⟨j, stored, hact⟩ := Option.bind_eq_some_iff.1 taken
  cases h.filed id j stored
  cases o with
  | start worker =>
    obtain ⟨waiting, hdone⟩ := Option.ite_none_right_eq_some.1 hact
    cases hdone
    have hfound : s.jobIf? j.id (·.status = .queued) = some j :=
      jobIf?_eq_some.2 ⟨stored, by simpa using waiting⟩
    simp only [Operation.on, perform, Store.start, hfound, Operation.answer, Option.map_some]
    exact ⟨trivial, rfl, .started worker stored waiting⟩
  | succeed attempt worker usage =>
    obtain ⟨⟨running, rfl⟩, hdone⟩ := Option.ite_none_right_eq_some.1 hact
    cases hdone
    have hfound : s.running? j.id j.attempt = some j :=
      running?_eq_some.2 ⟨stored, running, rfl⟩
    simp only [Operation.on, perform, Store.succeed, hfound, Operation.answer, settle]
    exact ⟨trivial, rfl, .succeeded worker usage stored running⟩
  | fail attempt worker code message =>
    obtain ⟨⟨running, rfl⟩, hdone⟩ := Option.ite_none_right_eq_some.1 hact
    cases hdone
    have hfound : s.running? j.id j.attempt = some j :=
      running?_eq_some.2 ⟨stored, running, rfl⟩
    simp only [Operation.on, perform, Store.fail, hfound, Operation.answer, settle]
    exact ⟨trivial, rfl, .failed worker code message stored running⟩
  | cancel reason =>
    obtain ⟨allowed, hdone⟩ := Option.ite_none_right_eq_some.1 hact
    cases hdone
    have hfound : s.jobIf? j.id (·.status.isCancellable) = some j :=
      jobIf?_eq_some.2 ⟨stored, allowed⟩
    simp only [Operation.on, perform, Store.cancel, hfound, Operation.answer, settle]
    refine ⟨trivial, rfl, ?_⟩
    by_cases running : j.status = .running
    · simp only [running, if_true]
      exact .stopped reason stored running
    · simp only [running, if_false]
      exact .dropped reason stored (h.waits_of_cancellable stored allowed running)
  | retry =>
    obtain ⟨allowed, hdone⟩ := Option.ite_none_right_eq_some.1 hact
    cases hdone
    have hfound : s.jobIf? j.id (·.status.isRetryable) = some j :=
      jobIf?_eq_some.2 ⟨stored, allowed⟩
    simp only [Operation.on, perform, Store.retry, hfound, Operation.answer, settle]
    exact ⟨trivial, rfl, .retried stored (h.ended_of_retryable stored allowed)⟩

/-! ## Stores that agree about a job -/

/-- The stores have the same about one job, apart from the numbers of the entries in the log. -/
structure Agree (id : JobId) (s t : Store) : Prop where
  job : t.jobs.get? id = s.jobs.get? id
  attempts : ∀ n, t.attempts.get? (id, n) = s.attempts.get? (id, n)
  events : (t.eventsOf id).map Event.unnumbered = (s.eventsOf id).map Event.unnumbered

theorem Untouched.agree (h : Untouched id s t) : Agree id s t :=
  ⟨h.job, h.attempts, by rw [h.events]⟩

namespace Agree

theorem symm (h : Agree id s t) : Agree id t s :=
  ⟨h.job.symm, fun n => (h.attempts n).symm, h.events.symm⟩

theorem trans (h : Agree id s t) (h' : Agree id t t') : Agree id s t' :=
  ⟨h'.job.trans h.job, fun n => (h'.attempts n).trans (h.attempts n), h'.events.trans h.events⟩

/-- A job that takes the same turn in stores that agree about it goes on the same in both. -/
theorem turn {d : Deed} {j : Job} (agree : Agree id s t) (hs : s.Orderly) (ht : t.Orderly)
    (own : j.id = id) (turn : Turn now s d j s') (turn' : Turn now t d j t') :
    Agree id s' t' where
  job := by rw [turn'.get?_jobs, turn.get?_jobs, if_pos own, if_pos own]
  attempts n := by rw [turn'.get?_attempts ht, turn.get?_attempts hs, agree.attempts]
  events := by
    rw [Chronicle.eventsOf_turn turn', Chronicle.eventsOf_turn turn, if_pos own, if_pos own,
      List.map_append, List.map_append, agree.events]
    rfl

end Agree

/-! ## Instructions -/

theorem Orderly.instruction (h : s.Orderly) (r : Instruction) : (r.after s).Orderly :=
  h.perform r.moment r.call

/-- Stores that agree about a job answer an instruction about it alike and agree
about it afterwards. -/
theorem Agree.instruction (agree : Agree r.job s t) (hs : s.Orderly) (ht : t.Orderly) :
    r.reply t = r.reply s ∧ Agree r.job (r.after s) (r.after t) := by
  unfold Instruction.reply Instruction.after Instruction.call
  cases hact : (s.jobs.get? r.job).bind (r.operation.act r.moment.now) with
  | none =>
    rw [perform_refused hact, perform_refused (by rw [agree.job, hact])]
    exact ⟨rfl, agree⟩
  | some done =>
    obtain ⟨hanswer, hid, turn⟩ := perform_taken hs hact
    obtain ⟨hanswer', -, turn'⟩ := perform_taken ht (agree.job ▸ hact)
    rw [hanswer, hanswer']
    exact ⟨rfl, agree.turn hs ht hid turn turn'⟩

/-- An instruction leaves everything about the other jobs as it was. -/
theorem Orderly.instruction_untouched (h : s.Orderly) (other : r.job ≠ id) :
    Untouched id s (r.after s) := by
  unfold Instruction.after Instruction.call
  cases hact : (s.jobs.get? r.job).bind (r.operation.act r.moment.now) with
  | none =>
    rw [perform_refused hact]
    exact .refl id s
  | some done =>
    obtain ⟨-, hid, turn⟩ := perform_taken h hact
    exact turn.untouched h (hid ▸ other)

/-- No instruction enters anything into the index. -/
theorem Orderly.instruction_keys (h : s.Orderly) (r : Instruction) : (r.after s).keys = s.keys :=
  perform_keys h r.moment (r.operation.kind?_on r.job)

/-- No instruction is a worker's report. -/
theorem Orderly.instruction_workers (h : s.Orderly) (r : Instruction) :
    (r.after s).workers = s.workers := by
  unfold Instruction.after Instruction.call
  cases hact : (s.jobs.get? r.job).bind (r.operation.act r.moment.now) with
  | none => rw [perform_refused hact]
  | some done => exact (perform_taken h hact).2.2.workers_eq

/-! ## Two instructions -/

/-- The stores have the same jobs, attempts, reports and index, and the same log of every job, apart
from the numbers of the entries. -/
structure Alike (s t : Store) : Prop where
  about : ∀ id, Agree id s t
  workers : t.workers = s.workers
  keys : t.keys = s.keys

/-- Two instructions do not get in each other's way. -/
structure Independent (s : Store) (a b : Instruction) : Prop where
  /-- The one is answered the same whether or not the other comes first. -/
  first : a.reply (b.after s) = a.reply s
  second : b.reply (a.after s) = b.reply s
  /-- Both orders leave the same. -/
  alike : Alike (b.after (a.after s)) (a.after (b.after s))
  /-- Each leaves the job of the other exactly as it was. -/
  spares : Untouched b.job s (a.after s)
  spared : Untouched a.job s (b.after s)

/-- Instructions about different jobs do not get in each other's way. -/
theorem Orderly.independent (h : s.Orderly) {a b : Instruction} (apart : a.job ≠ b.job) :
    Independent s a b := by
  have ha := h.instruction a
  have hb := h.instruction b
  have hspares := h.instruction_untouched (r := a) apart
  have hspared := h.instruction_untouched (r := b) apart.symm
  obtain ⟨hfirst, hafter⟩ := hspared.agree.instruction (r := a) h hb
  obtain ⟨hsecond, hafter'⟩ := hspares.agree.instruction (r := b) h ha
  refine ⟨hfirst, hsecond, ⟨fun id => ?_, ?_, ?_⟩, hspares, hspared⟩
  · by_cases hida : a.job = id
    · -- the job of the first: the other one does not touch it before or after
      subst hida
      have hlast := ha.instruction_untouched (r := b) apart.symm
      exact hlast.agree.symm.trans hafter
    · by_cases hidb : b.job = id
      · subst hidb
        have hlast := hb.instruction_untouched (r := a) apart
        exact hafter'.symm.trans hlast.agree
      · have hone := (h.instruction_untouched hida).trans (ha.instruction_untouched hidb)
        have hother := (h.instruction_untouched hidb).trans (hb.instruction_untouched hida)
        exact hone.agree.symm.trans hother.agree
  · rw [hb.instruction_workers, h.instruction_workers, ha.instruction_workers,
      h.instruction_workers]
  · rw [hb.instruction_keys, h.instruction_keys, ha.instruction_keys, h.instruction_keys]

/-! ## Tenants -/

/-- Whoever looks at a tenant's jobs sees the same in both stores. -/
structure ShowsAlike (tenant : String) (s t : Store) : Prop where
  /-- The tenant has the same jobs. -/
  jobs : ∀ id j, j.tenant = tenant → (t.jobs.get? id = some j ↔ s.jobs.get? id = some j)
  listings : ∀ f : Filter, f.normalized.tenant = some tenant → t.list f = s.list f
  snapshots : ∀ id j, s.jobs.get? id = some j → j.tenant = tenant → t.get id = s.get id
  events : ∀ id j limit, s.jobs.get? id = some j → j.tenant = tenant →
    t.listEvents id limit = s.listEvents id limit
  /-- A draft of the tenant finds the same job, or none in either store. -/
  replays : ∀ (m : Moment) (draft : Draft), draft.tenant = tenant →
    (t.perform m (.create draft)).1 = (s.perform m (.create draft)).1

namespace ShowsAlike

theorem refl (tenant : String) (s : Store) : ShowsAlike tenant s s :=
  ⟨fun _ _ _ => .rfl, fun _ _ => rfl, fun _ _ _ _ => rfl, fun _ _ _ _ _ => rfl,
    fun _ _ _ => rfl⟩

theorem trans (h : ShowsAlike tenant s s') (h' : ShowsAlike tenant s' t) :
    ShowsAlike tenant s t where
  jobs id j own := (h'.jobs id j own).trans (h.jobs id j own)
  listings f hf := (h'.listings f hf).trans (h.listings f hf)
  snapshots id j hj own :=
    (h'.snapshots id j ((h.jobs id j own).2 hj) own).trans (h.snapshots id j hj own)
  events id j limit hj own :=
    (h'.events id j limit ((h.jobs id j own).2 hj) own).trans (h.events id j limit hj own)
  replays m draft own := (h'.replays m draft own).trans (h.replays m draft own)

end ShowsAlike

/-- Stores in which a tenant has the same jobs list them alike. -/
theorem Orderly.list_eq (hs : s.Orderly) (ht : t.Orderly)
    (jobs : ∀ id j, j.tenant = tenant → (t.jobs.get? id = some j ↔ s.jobs.get? id = some j))
    {f : Filter} (hf : f.normalized.tenant = some tenant) : t.list f = s.list f := by
  by_cases room : f.limit = 0
  · rw [list, list, if_pos room, if_pos room]
  · have hroom : 0 < f.limit := by omega
    rw [list_eq_page t hroom, list_eq_page s hroom]
    congr 2
    refine Filter.Listed.unique (f := f.normalized) (Filter.listed_listing ht.nodup_ids)
      (Filter.listed_listing hs.nodup_ids) fun j => ?_
    rw [Filter.mem_listing, Filter.mem_listing]
    refine and_congr_left fun covered => ?_
    -- what such a filter covers is the tenant's
    have own : j.tenant = tenant := by
      have hcriterion := covered
      simp only [Filter.covers, Bool.and_eq_true, hf, Filter.admits, decide_eq_true_eq]
        at hcriterion
      exact hcriterion.1.1.1.2
    simp only [Table.mem_rows, jobs _ j own]

/-- A creation is answered alike where the draft's key leads to the same job and the same
identities are taken. -/
theorem create_answer_congr {m : Moment} {draft : Draft}
    (claimed : (draft.normalized.claim.bind fun k => (t.keys.get? k).bind t.jobs.get?) =
      draft.normalized.claim.bind fun k => (s.keys.get? k).bind s.jobs.get?)
    (taken : ∀ id, (t.jobs.get? id).isSome = (s.jobs.get? id).isSome) :
    (t.perform m (.create draft)).1 = (s.perform m (.create draft)).1 := by
  simp only [perform, create, claimed, taken]
  split
  · rfl
  · split
    · rfl
    · split <;> rfl

/-- A turn of a job that is there leaves it with its tenant, and the keys as they are. -/
theorem Turn.of_stored {d : Deed} {after j : Job} (turn : Turn now s d after s')
    (stored : s.jobs.get? after.id = some j) : after.tenant = j.tenant ∧ s'.keys = s.keys := by
  rcases turn.keys with ⟨unknown, -⟩ | ⟨k, hk, htenant, -, hkeys⟩
  · rw [unknown] at stored
    cases stored
  · rw [hk] at stored
    cases stored
    exact ⟨htenant, hkeys⟩

/-- A turn of another tenant's job leaves the tenant the same jobs. -/
theorem Turn.jobs_foreign {d : Deed} {after j k : Job} (turn : Turn now s d after s')
    (stored : s.jobs.get? after.id = some j) (foreign : j.tenant ≠ tenant)
    (own : k.tenant = tenant) : s'.jobs.get? id = some k ↔ s.jobs.get? id = some k := by
  rw [turn.get?_jobs]
  by_cases hid : after.id = id
  · subst hid
    rw [if_pos rfl, stored]
    refine iff_of_false ?_ ?_
    · rintro ⟨⟩
      exact foreign ((turn.of_stored stored).1.symm.trans own)
    · rintro ⟨⟩
      exact foreign own
  · rw [if_neg hid]

/-- Where the keys and the tenant's jobs are the same, a draft of the tenant claims the same job. -/
theorem claimed_eq (indexed : s.Indexed) (keys : t.keys = s.keys)
    (jobs : ∀ id j, j.tenant = tenant → (t.jobs.get? id = some j ↔ s.jobs.get? id = some j))
    {draft : Draft} (own : draft.tenant = tenant) :
    (draft.normalized.claim.bind fun k => (t.keys.get? k).bind t.jobs.get?) =
      draft.normalized.claim.bind fun k => (s.keys.get? k).bind s.jobs.get? := by
  cases hclaim : draft.normalized.claim with
  | none => rfl
  | some k =>
    show (t.keys.get? k).bind t.jobs.get? = (s.keys.get? k).bind s.jobs.get?
    rw [keys]
    cases hk : s.keys.get? k with
    | none => rfl
    | some id =>
      -- the key is the tenant's, so the job that it leads to is the tenant's
      obtain ⟨tenant', key⟩ := k
      obtain ⟨found, hfound, howner⟩ := indexed.stored hk
      have hdraft := (Draft.claim_normalized_eq_some.1 hclaim).1
      have hmine : found.tenant = tenant :=
        (Job.claim_eq_some.1 howner).1.trans (hdraft.symm.trans own)
      show t.jobs.get? id = s.jobs.get? id
      rw [hfound, (jobs id found hmine).2 hfound]

/-- A turn of another tenant's job shows in nothing that the tenant sees. -/
theorem Turn.showsAlike {d : Deed} {after j : Job} (turn : Turn now s d after s') (h : s.Orderly)
    (indexed : s.Indexed) (stored : s.jobs.get? after.id = some j) (foreign : j.tenant ≠ tenant) :
    ShowsAlike tenant s s' := by
  have hother : ∀ id k, s.jobs.get? id = some k → k.tenant = tenant → after.id ≠ id := by
    rintro id k hk own rfl
    rw [stored] at hk
    cases hk
    exact foreign own
  have hjobs : ∀ id k, k.tenant = tenant →
      (s'.jobs.get? id = some k ↔ s.jobs.get? id = some k) :=
    fun id k own => turn.jobs_foreign stored foreign own
  have hnext := turn.orderly h
  refine ⟨hjobs, fun f hf => h.list_eq hnext hjobs hf, ?_, ?_, ?_⟩
  · intro id k hk own
    have hsame := turn.untouched h (hother id k hk own)
    rw [get, get, hsame.job, hsame.attemptsOf_eq h hnext]
  · intro id k limit hk own
    have hsame := (turn.untouched h (hother id k hk own)).events
    simp only [eventsOf] at hsame
    rw [listEvents, listEvents, hsame]
  · intro m draft own
    refine create_answer_congr (claimed_eq indexed (turn.of_stored stored).2 hjobs own) ?_
    intro id
    rw [turn.get?_jobs]
    split
    · rename_i hid
      rw [← hid, stored]
      rfl
    · rfl

/-- An instruction about another tenant's job shows in nothing that the tenant sees. -/
theorem Orderly.instruction_showsAlike (h : s.Orderly) (indexed : s.Indexed)
    (foreign : ∀ j, s.jobs.get? r.job = some j → j.tenant ≠ tenant) :
    ShowsAlike tenant s (r.after s) := by
  unfold Instruction.after Instruction.call
  cases hact : (s.jobs.get? r.job).bind (r.operation.act r.moment.now) with
  | none =>
    rw [perform_refused hact]
    exact .refl tenant s
  | some done =>
    obtain ⟨-, hid, turn⟩ := perform_taken h hact
    obtain ⟨j, stored, -⟩ := Option.bind_eq_some_iff.1 hact
    exact turn.showsAlike h indexed (hid ▸ stored) (foreign j stored)

/-- No instructions about other tenants' jobs show in anything that the tenant sees. -/
theorem Orderly.instructions_showsAlike (h : s.Orderly) (indexed : s.Indexed)
    (orders : List Instruction)
    (foreign : ∀ r ∈ orders, ∀ j, s.jobs.get? r.job = some j → j.tenant ≠ tenant) :
    ShowsAlike tenant s (s.afterAll (orders.map fun r => (r.moment, r.call))) := by
  induction orders generalizing s with
  | nil => exact .refl tenant s
  | cons r rest ih =>
    have hfirst := h.instruction_showsAlike indexed (foreign r List.mem_cons_self)
    obtain ⟨hnext, hindexed⟩ := kept_by_perform h r.moment r.call
      (fun _ change hold => Indexed.change change hold) indexed
    refine hfirst.trans (ih hnext hindexed fun r' hr j hj own => ?_)
    -- a job of the tenant is the tenant's from the start
    exact foreign r' (List.mem_cons_of_mem r hr) j ((hfirst.jobs r'.job j own).1 hj) own

/-- Whatever calls are made on the empty store, instructions about different jobs do not get in each
other's way, and those about other tenants' jobs show in nothing that a tenant sees. -/
theorem independent_afterAll (calls : List (Moment × StoreCall)) {a b : Instruction}
    (apart : a.job ≠ b.job) :
    Independent (empty.afterAll calls) a b ∧ ∀ (tenant : String) (orders : List Instruction),
      (∀ r ∈ orders, ∀ j,
        (empty.afterAll calls).jobs.get? r.job = some j → j.tenant ≠ tenant) →
        ShowsAlike tenant (empty.afterAll calls)
          ((empty.afterAll calls).afterAll (orders.map fun r => (r.moment, r.call))) := by
  have hlived := Lived.dealings calls
  refine ⟨hlived.orderly.independent apart, fun tenant orders foreign => ?_⟩
  exact hlived.orderly.instructions_showsAlike (Indexed.lived hlived) orders foreign

/-- Two tenants have a waiting job each. -/
def twoTenants : List (Moment × StoreCall) :=
  [(⟨⟨1⟩, .numbered 1 1⟩, .create { tenant := "acme", model := "small" }),
    (⟨⟨1⟩, .numbered 1 2⟩, .create { tenant := "globex", model := "small" })]

/-- The job of the one is started. -/
def startFirst : Instruction :=
  ⟨⟨⟨5⟩, .numbered 5 3⟩, (FreshIds.numbered 1 1).job, .start ⟨"worker-1"⟩⟩

/-- That of the other is given up at the same time. -/
def cancelSecond : Instruction :=
  ⟨⟨⟨5⟩, .numbered 5 3⟩, (FreshIds.numbered 1 2).job, .cancel "not needed"⟩

theorem independent_twoTenants :
    startFirst.job ≠ cancelSecond.job ∧
      Independent (empty.afterAll twoTenants) startFirst cancelSecond ∧
      ShowsAlike "globex" (empty.afterAll twoTenants)
        (startFirst.after (empty.afterAll twoTenants)) ∧
      (cancelSecond.after (startFirst.after (empty.afterAll twoTenants))).jobs.rows.map
        (·.status) = [.running, .cancelled] := by
  have apart : startFirst.job ≠ cancelSecond.job := by decide
  obtain ⟨hindependent, hshows⟩ := independent_afterAll twoTenants apart
  have howner : ((empty.afterAll twoTenants).jobs.get? startFirst.job).map (·.tenant) =
      some "acme" := by decide +kernel
  refine ⟨apart, hindependent, hshows "globex" [startFirst] ?_, by decide +kernel⟩
  intro r hr j hj
  rw [List.mem_singleton.1 hr] at hj
  rw [hj] at howner
  simp [Option.some.inj howner]

end Store

end Dispatch
