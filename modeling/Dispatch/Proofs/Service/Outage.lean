import Dispatch.Proofs.Service.Creation

/-!
# The queue may fail

The service writes to the store first and turns to the queue only afterwards, so nothing that the
queue does or fails to do reaches the store.  Here the queue is any function from calls to replies,
one that fails at some calls and not at others included, and everything that is asked of the store
and the queue is written down.

What an order asks of the store is known before anything is asked of the queue (`Order.dealing?`),
and `created`, `cancelled` and `retried` say what becomes of each order, with the calls that it
comes to.  `Weathered` collects what follows when the same orders are carried out beside a queue
that may fail and beside one that does not.
-/

namespace Dispatch

/-! ## Queues that may fail -/

/-- A queue of any kind, with contents of type `ρ`, which may fail at any call. -/
abbrev AnyQueue (ρ : Type) : Type := (c : QueueCall) → ρ → c.Reply × ρ

/-- A queue of any kind that never fails. -/
abbrev SteadyQueue (ρ : Type) : Type := (c : QueueCall) → ρ → c.Value × ρ

/-- A queue that never fails is a queue. -/
def SteadyQueue.any {ρ : Type} (q : SteadyQueue ρ) : AnyQueue ρ :=
  fun c w => (.ok (q c w).1, (q c w).2)

/-- Something that was asked, and what came of it. -/
inductive Asked where
  | store (d : Dealing)
  | queue (call : QueueCall) (reply : call.Reply)

/-- The store in memory beside some queue, at one moment.  Everything that is asked is written
down, oldest first. -/
def Script.Backend.beside {ρ : Type} (q : AnyQueue ρ) (m : Moment) :
    Backend (Store × ρ × List Asked) where
  store c w :=
    ((w.1.perform m c).1, (w.1.perform m c).2, w.2.1, w.2.2 ++ [.store ⟨w.1, m, c⟩])
  queue c w := ((q c w.2.1).1, w.1, (q c w.2.1).2, w.2.2 ++ [.queue c (q c w.2.1).1])

/-! ## Orders -/

/-- What callers of the service want done. -/
inductive Order where
  | create (draft : Draft)
  | cancel (id : JobId)
  | retry (id : JobId)

/-- An order that was carried out: its answer, and everything that was asked for it. -/
inductive Handled where
  | created (draft : Draft) (answer : Except JobError (Job × Bool)) (asked : List Asked)
  | cancelled (id : JobId) (answer : Except JobError Job) (asked : List Asked)
  | retried (id : JobId) (answer : Except JobError Job) (asked : List Asked)

namespace Handled

/-- Everything that was asked. -/
def asked : Handled → List Asked
  | created _ _ asked | cancelled _ _ asked | retried _ _ asked => asked

/-- What was asked of the store: the stores that were found and left are part of it. -/
def dealings (v : Handled) : List Dealing :=
  v.asked.filterMap fun
    | .store d => some d
    | .queue _ _ => none

end Handled

section Queue

variable {ρ : Type}

/-- Carry out an order. -/
def Order.serve (o : Order) (q : AnyQueue ρ) (m : Moment) (s : Store) (w : ρ) :
    Handled × Store × ρ :=
  match o with
  | .create draft =>
    let (answer, t, v, asked) := (Service.create draft).run (.beside q m) (s, w, [])
    (.created draft answer asked, t, v)
  | .cancel id =>
    let (answer, t, v, asked) := (Service.cancel id).run (.beside q m) (s, w, [])
    (.cancelled id answer asked, t, v)
  | .retry id =>
    let (answer, t, v, asked) := (Service.retry id).run (.beside q m) (s, w, [])
    (.retried id answer asked, t, v)

/-- Carry out orders one after the other, each at its moment. -/
def AnyQueue.serveAll (q : AnyQueue ρ) (s : Store) (w : ρ) : List (Moment × Order) → List Handled
  | [] => []
  | (m, o) :: rest =>
    let (served, t, v) := o.serve q m s w
    served :: serveAll q t v rest

/-! ## What becomes of an order -/

/-- What an order asks of the store: nothing if it is a draft without a tenant or a model. -/
def Order.dealing? (s : Store) (m : Moment) : Order → Option Dealing
  | create draft => if draft.isComplete then some ⟨s, m, .create draft⟩ else none
  | cancel id => some ⟨s, m, .cancel id Service.cancelReason⟩
  | retry id => some ⟨s, m, .retry id⟩

/-- The store that an order leaves. -/
def Order.leaves (s : Store) (m : Moment) (o : Order) : Store :=
  ((o.dealing? s m).map (·.after)).getD s

/-- The outcome of entering a job in the ready list, and what callers are told when that fails. -/
def Service.entered {α β : Type} (result : α) (complaint : String) :
    Except QueueError β → Except JobError α
  | .ok _ => .ok result
  | .error e => .error (.transient (complaint ++ e.message))

/-- What becomes of a creation: the answer, the store and the queue that are left, and everything
that was asked. -/
inductive Service.Creation (q : AnyQueue ρ) (m : Moment) (s : Store) (w : ρ) (draft : Draft) :
    Except JobError (Job × Bool) × Store × ρ × List Asked → Prop
  /-- The service itself refuses a draft without a tenant or a model. -/
  | incomplete (hdraft : draft.isComplete = false) :
      Creation q m s w draft (.error (.validation Draft.requiredMessage), s, w, [])
  /-- The store refuses it. -/
  | refused {d : Dealing} {e : StoreError} (hd : d = ⟨s, m, .create draft⟩)
      (hdraft : draft.isComplete = true) (hrefused : d.error = some e) :
      Creation q m s w draft (.error e.toJob, d.after, w, [.store d])
  /-- The store finds a job. -/
  | found {d : Dealing} {j : Job} (hd : d = ⟨s, m, .create draft⟩)
      (hdraft : draft.isComplete = true) (hmade : d.made = some (j, true)) :
      Creation q m s w draft (.ok (j, true), d.after, w, [.store d])
  /-- The store makes a job, which is entered in the ready list. -/
  | made {d : Dealing} {j : Job} (hd : d = ⟨s, m, .create draft⟩)
      (hdraft : draft.isComplete = true) (hmade : d.made = some (j, false)) :
      Creation q m s w draft
        (entered (j, false) ("job " ++ j.id.text ++ " stored but not enqueued: ")
            (q (.enqueue j.id) w).1,
          d.after, (q (.enqueue j.id) w).2,
          [.store d, .queue (.enqueue j.id) (q (.enqueue j.id) w).1])

/-- What becomes of a cancellation. -/
inductive Service.Cancellation (q : AnyQueue ρ) (m : Moment) (s : Store) (w : ρ) (id : JobId) :
    Except JobError Job × Store × ρ × List Asked → Prop
  /-- The store refuses it. -/
  | refused {d : Dealing} {e : StoreError} (hd : d = ⟨s, m, .cancel id cancelReason⟩)
      (hrefused : d.error = some e) :
      Cancellation q m s w id (.error e.toJob, d.after, w, [.store d])
  /-- The store accepts it, and the queue is tidied up; what comes of that is not looked at. -/
  | accepted {d : Dealing} {j : Job} {v : ρ} (hd : d = ⟨s, m, .cancel id cancelReason⟩)
      (hreply : (s.perform m (.cancel id cancelReason)).1 = .ok j) (hv : v = (q (.remove id) w).2) :
      Cancellation q m s w id (.ok j, d.after, (q (.release id) v).2,
        [.store d, .queue (.remove id) (q (.remove id) w).1,
          .queue (.release id) (q (.release id) v).1])

/-- What becomes of a retry. -/
inductive Service.Retrial (q : AnyQueue ρ) (m : Moment) (s : Store) (w : ρ) (id : JobId) :
    Except JobError Job × Store × ρ × List Asked → Prop
  /-- The store refuses it. -/
  | refused {d : Dealing} {e : StoreError} (hd : d = ⟨s, m, .retry id⟩)
      (hrefused : d.error = some e) :
      Retrial q m s w id (.error e.toJob, d.after, w, [.store d])
  /-- The store accepts it; the entries of the job are removed, and whether or not that succeeds,
  the job is entered once more. -/
  | accepted {d : Dealing} {j : Job} {v : ρ} (hd : d = ⟨s, m, .retry id⟩)
      (haccepted : d.error = none) (hv : v = (q (.remove id) w).2) :
      Retrial q m s w id
        (entered j ("job " ++ id.text ++ " re-queued but not enqueued: ") (q (.enqueue id) v).1,
          d.after, (q (.enqueue id) v).2,
          [.store d, .queue (.remove id) (q (.remove id) w).1,
            .queue (.enqueue id) (q (.enqueue id) v).1])

namespace Service

variable (q : AnyQueue ρ) (m : Moment) (s : Store) (w : ρ)

theorem creation (draft : Draft) :
    Creation q m s w draft ((create draft).run (.beside q m) (s, w, [])) := by
  unfold create
  cases hcomplete : draft.isComplete with
  | false =>
    rw [Draft.validate_of_incomplete hcomplete]
    exact .incomplete hcomplete
  | true =>
    rw [Draft.validate_of_complete hcomplete]
    simp only [Script.askStoreFor, Script.run, Script.Backend.beside, List.nil_append]
    cases hreply : (s.perform m (.create draft)).1 with
    | error e => exact .refused rfl hcomplete (congrArg refusal hreply)
    | ok r =>
      obtain ⟨j, found⟩ := r
      have hmade : Dealing.made ⟨s, m, .create draft⟩ = some (j, found) :=
        congrArg (StoreCall.made _) hreply
      cases found with
      | true => exact .found rfl hcomplete hmade
      | false =>
        have h := Creation.made (q := q) (w := w) rfl hcomplete hmade
        cases henqueue : (q (.enqueue j.id) w).1 <;>
          simpa [Script.run, henqueue, entered, Dealing.after] using h

theorem cancellation (id : JobId) :
    Cancellation q m s w id ((cancel id).run (.beside q m) (s, w, [])) := by
  simp only [cancel, Script.askStoreFor, Script.run, Script.Backend.beside, List.nil_append]
  cases hreply : (s.perform m (.cancel id cancelReason)).1 with
  | error e => exact .refused rfl (congrArg refusal hreply)
  | ok j => exact .accepted rfl hreply rfl

theorem retrial (id : JobId) :
    Retrial q m s w id ((retry id).run (.beside q m) (s, w, [])) := by
  simp only [retry, Script.askStoreFor, Script.run, Script.Backend.beside, List.nil_append]
  cases hreply : (s.perform m (.retry id)).1 with
  | error e => exact .refused rfl (congrArg refusal hreply)
  | ok j =>
    have h := Retrial.accepted (q := q) (w := w) (j := j) rfl (congrArg refusal hreply) rfl
    cases henqueue : (q (.enqueue id) (q (.remove id) w).2).1 <;>
      simpa [Script.run, henqueue, entered, Dealing.after] using h

end Service

/-! ## What the queue has no part in -/

namespace Order

variable (q : AnyQueue ρ) (m : Moment) (s : Store) (w : ρ) (o : Order)

/-- What an order asks of the store does not depend on the queue, nor does the store it leaves. -/
theorem serve_store :
    (o.serve q m s w).1.dealings = (o.dealing? s m).toList ∧
      (o.serve q m s w).2.1 = o.leaves s m := by
  cases o with
  | create draft =>
    simp only [serve]
    have h := Service.creation q m s w draft
    generalize (Service.create draft).run (.beside q m) (s, w, []) = r at h ⊢
    cases h with
    | incomplete hdraft => simp [Handled.dealings, Handled.asked, dealing?, leaves, hdraft]
    | refused hd hdraft _ =>
      subst hd
      simp [Handled.dealings, Handled.asked, dealing?, leaves, hdraft]
    | found hd hdraft _ =>
      subst hd
      simp [Handled.dealings, Handled.asked, dealing?, leaves, hdraft]
    | made hd hdraft _ =>
      subst hd
      simp [Handled.dealings, Handled.asked, dealing?, leaves, hdraft]
  | cancel id =>
    simp only [serve]
    have h := Service.cancellation q m s w id
    generalize (Service.cancel id).run (.beside q m) (s, w, []) = r at h ⊢
    cases h with
    | refused hd _ =>
      subst hd
      exact ⟨rfl, rfl⟩
    | accepted hd _ _ =>
      subst hd
      exact ⟨rfl, rfl⟩
  | retry id =>
    simp only [serve]
    have h := Service.retrial q m s w id
    generalize (Service.retry id).run (.beside q m) (s, w, []) = r at h ⊢
    cases h with
    | refused hd _ =>
      subst hd
      exact ⟨rfl, rfl⟩
    | accepted hd _ _ =>
      subst hd
      exact ⟨rfl, rfl⟩

/-- A cancellation is answered as the store answers it. -/
theorem cancel_answer (id : JobId) :
    ((Service.cancel id).run (.beside q m) (s, w, [])).1 =
      (s.perform m (.cancel id Service.cancelReason)).1.mapError StoreError.toJob := by
  simp only [Service.cancel, Script.askStoreFor, Script.run, Script.Backend.beside]
  cases (s.perform m (.cancel id Service.cancelReason)).1 with
  | error e => rfl
  | ok j => rfl

theorem serve_cancel (id : JobId) :
    ((cancel id).serve q m s w).1 =
      .cancelled id ((s.perform m (.cancel id Service.cancelReason)).1.mapError StoreError.toJob)
        ((Service.cancel id).run (.beside q m) (s, w, [])).2.2.2 :=
  congrArg (Handled.cancelled id · ((Service.cancel id).run (.beside q m) (s, w, [])).2.2.2)
    (cancel_answer q m s w id)

end Order

/-! ## What callers are told -/

/-- The store in memory is never out of reach. -/
theorem Dealing.error_ne_storage (d : Dealing) (detail : String) :
    d.error ≠ some (.storage detail) := by
  obtain ⟨s, m, c⟩ := d
  have hsettle : ∀ {α : Type} (o : Store.Outcome α), (∀ e, o = .error e → e ≠ .storage detail) →
      refusal (s.settle o).1 ≠ some (.storage detail) := by
    intro α o ho hrefusal
    cases o with
    | ok r => cases hrefusal
    | error e => exact ho e rfl (Option.some.inj hrefusal)
  cases c with
  | create draft =>
    apply hsettle
    intro e he
    unfold Store.create at he
    cases hcomplete : draft.isComplete with
    | false =>
      rw [Draft.validate_of_incomplete hcomplete] at he
      cases he
      exact StoreError.noConfusion
    | true =>
      rw [Draft.validate_of_complete hcomplete] at he
      dsimp only at he
      split at he
      · cases he
      · split at he <;> cases he
        exact StoreError.noConfusion
  | succeed id n worker usage =>
    apply hsettle
    intro e he
    unfold Store.succeed at he
    split at he <;> cases he
    exact StoreError.noConfusion
  | fail id n worker code message =>
    apply hsettle
    intro e he
    unfold Store.fail at he
    split at he <;> cases he
    exact StoreError.noConfusion
  | cancel id reason =>
    apply hsettle
    intro e he
    unfold Store.cancel at he
    split at he <;> cases he
    exact StoreError.noConfusion
  | retry id =>
    apply hsettle
    intro e he
    unfold Store.retry at he
    split at he <;> cases he
    exact StoreError.noConfusion
  | get id =>
    show refusal (s.get id) ≠ _
    unfold Store.get
    split <;> simp [refusal, Store.missing]
  | list filter =>
    show refusal (s.list filter) ≠ _
    unfold Store.list
    split <;> simp [refusal, Store.noLimit]
  | listEvents id limit =>
    show refusal (s.listEvents id limit) ≠ _
    unfold Store.listEvents
    split <;> simp [refusal, Store.noLimit]
  | _ => exact fun h => by cases h

/-- What the store in memory refuses, callers are not told to try again. -/
theorem Dealing.toJob_ne_transient {d : Dealing} {e : StoreError} (h : d.error = some e)
    (detail : String) : e.toJob ≠ .transient detail := by
  intro htransient
  cases e with
  | storage text => exact d.error_ne_storage text h
  | _ => cases htransient

theorem Service.entered_eq_transient {α β : Type} {result : α} {complaint detail : String}
    {r : Except QueueError β} :
    entered result complaint r = .error (.transient detail) ↔
      ∃ e, r = .error e ∧ detail = complaint ++ e.message := by
  cases r with
  | ok u => simp [entered]
  | error e => simp [entered, eq_comm]

/-- What becomes of orders whose queue may fail, next to what becomes of them when it does not. -/
structure Weathered (shaky calm : List Handled) : Prop where
  /-- For every order the store is asked the same, finds the same and leaves the same. -/
  dealings : shaky.map (·.dealings) = calm.map (·.dealings)
  /-- A cancellation is answered the same. -/
  cancelled : ∀ (i : Nat) (id : JobId) (answer : Except JobError Job) (asked : List Asked),
    shaky[i]? = some (.cancelled id answer asked) →
      ∃ asked', calm[i]? = some (.cancelled id answer asked')
  /-- Callers are told to try a creation again if and only if the store made a job that could not
  be entered in the ready list. -/
  created : ∀ draft answer asked, .created draft answer asked ∈ shaky → ∀ detail,
    answer = .error (.transient detail) ↔ ∃ d j e, .store d ∈ asked ∧ d.made = some (j, false) ∧
      .queue (.enqueue j.id) (.error e) ∈ asked ∧
      detail = "job " ++ j.id.text ++ " stored but not enqueued: " ++ e.message
  /-- Callers are told to try a retry again if and only if the store accepted it and the job could
  not be entered in the ready list. -/
  retried : ∀ id answer asked, .retried id answer asked ∈ shaky → ∀ detail,
    answer = .error (.transient detail) ↔ ∃ d e, .store d ∈ asked ∧ d.error = none ∧
      .queue (.enqueue id) (.error e) ∈ asked ∧
      detail = "job " ++ id.text ++ " re-queued but not enqueued: " ++ e.message
  /-- A retry that the store accepts enters the job, whatever came of removing its entries. -/
  reentered : ∀ id answer asked, .retried id answer asked ∈ shaky →
    ∀ d, .store d ∈ asked → d.error = none →
      ∃ removal entry, asked = [.store d, .queue (.remove id) removal, .queue (.enqueue id) entry]
  /-- Where the store accepts nothing, nothing is asked of the queue. -/
  idle : ∀ v ∈ shaky, (∀ d ∈ v.dealings, d.error ≠ none) → ∀ c r, .queue c r ∉ v.asked

namespace AnyQueue

variable {q : AnyQueue ρ} {s : Store} {w : ρ} {orders : List (Moment × Order)} {v : Handled}

theorem serveAll_cons (q : AnyQueue ρ) (s : Store) (w : ρ) (m : Moment) (o : Order)
    (rest : List (Moment × Order)) :
    q.serveAll s w ((m, o) :: rest) = (o.serve q m s w).1 ::
      q.serveAll (o.serve q m s w).2.1 (o.serve q m s w).2.2 rest := rfl

/-- What was served was an order at some moment, with some store and some queue. -/
theorem mem_serveAll (h : v ∈ q.serveAll s w orders) :
    ∃ (o : Order) (m : Moment) (t : Store) (u : ρ), v = (o.serve q m t u).1 := by
  induction orders generalizing s w with
  | nil => cases h
  | cons call rest ih =>
    obtain ⟨m, o⟩ := call
    rcases List.mem_cons.1 h with rfl | h
    · exact ⟨o, m, s, w, rfl⟩
    · exact ih h

/-- What was served as a creation became what creations become. -/
theorem creation_of_mem {draft : Draft} {answer : Except JobError (Job × Bool)}
    {asked : List Asked} (h : .created draft answer asked ∈ q.serveAll s w orders) :
    ∃ m t u t' u', Service.Creation q m t u draft (answer, t', u', asked) := by
  obtain ⟨o, m, t, u, hv⟩ := mem_serveAll h
  cases o with
  | create draft' =>
    cases hv
    exact ⟨m, t, u, _, _, Service.creation q m t u draft⟩
  | cancel id => cases hv
  | retry id => cases hv

/-- What was served as a retry became what retries become. -/
theorem retrial_of_mem {id : JobId} {answer : Except JobError Job} {asked : List Asked}
    (h : .retried id answer asked ∈ q.serveAll s w orders) :
    ∃ m t u t' u', Service.Retrial q m t u id (answer, t', u', asked) := by
  obtain ⟨o, m, t, u, hv⟩ := mem_serveAll h
  cases o with
  | create draft => cases hv
  | cancel id' => cases hv
  | retry id' =>
    cases hv
    exact ⟨m, t, u, _, _, Service.retrial q m t u id⟩

theorem created_transient_iff {draft : Draft} {answer : Except JobError (Job × Bool)}
    {asked : List Asked} (h : .created draft answer asked ∈ q.serveAll s w orders)
    (detail : String) :
    answer = .error (.transient detail) ↔ ∃ d j e, .store d ∈ asked ∧ d.made = some (j, false) ∧
      .queue (.enqueue j.id) (.error e) ∈ asked ∧
      detail = "job " ++ j.id.text ++ " stored but not enqueued: " ++ e.message := by
  obtain ⟨m, t, u, t', u', hcreation⟩ := creation_of_mem h
  cases hcreation with
  | incomplete hdraft => simp
  | refused hd hdraft hrefused =>
    have hne := Dealing.toJob_ne_transient hrefused detail
    simp [hne]
  | found hd hdraft hmade => simp
  | @made d j hd hdraft hmade =>
    rw [Service.entered_eq_transient]
    constructor
    · rintro ⟨e, he, hdetail⟩
      exact ⟨d, j, e, by simp, hmade, by simp [he], hdetail⟩
    · rintro ⟨d', j', e, hd', hmade', he, hdetail⟩
      obtain rfl : d' = d := by simpa using hd'
      rw [hmade] at hmade'
      cases hmade'
      refine ⟨e, ?_, hdetail⟩
      simpa [eq_comm] using he

theorem retried_transient_iff {id : JobId} {answer : Except JobError Job} {asked : List Asked}
    (h : .retried id answer asked ∈ q.serveAll s w orders) (detail : String) :
    answer = .error (.transient detail) ↔ ∃ d e, .store d ∈ asked ∧ d.error = none ∧
      .queue (.enqueue id) (.error e) ∈ asked ∧
      detail = "job " ++ id.text ++ " re-queued but not enqueued: " ++ e.message := by
  obtain ⟨m, t, u, t', u', hretrial⟩ := retrial_of_mem h
  cases hretrial with
  | refused hd hrefused =>
    have hne := Dealing.toJob_ne_transient hrefused detail
    simp [hne]
  | @accepted d j v hd haccepted hv =>
    rw [Service.entered_eq_transient]
    constructor
    · rintro ⟨e, he, hdetail⟩
      exact ⟨d, e, by simp, haccepted, by simp [he], hdetail⟩
    · rintro ⟨d', e, -, -, he, hdetail⟩
      refine ⟨e, ?_, hdetail⟩
      simpa [eq_comm] using he

/-- Where the store accepts nothing, nothing is asked of the queue. -/
theorem idle_of_mem (h : v ∈ q.serveAll s w orders) (hrefused : ∀ d ∈ v.dealings, d.error ≠ none)
    (c : QueueCall) (r : c.Reply) : .queue c r ∉ v.asked := by
  obtain ⟨o, m, t, u, rfl⟩ := mem_serveAll h
  cases o with
  | create draft =>
    simp only [Order.serve] at hrefused ⊢
    have hcreation := Service.creation q m t u draft
    generalize (Service.create draft).run (.beside q m) (t, u, []) = result at *
    cases hcreation with
    | incomplete hdraft => exact List.not_mem_nil
    | refused hd hdraft hstore => simp [Handled.asked]
    | found hd hdraft hmade => simp [Handled.asked]
    | @made d j hd hdraft hmade =>
      -- the store made a job, so it refused nothing
      exfalso
      have haccepted : d.error = none := by
        subst hd
        revert hmade
        show StoreCall.made _ (t.perform m (.create draft)).1 = _ →
          refusal (t.perform m (.create draft)).1 = none
        cases (t.perform m (.create draft)).1 with
        | error e => exact fun hmade => by cases hmade
        | ok r => exact fun _ => rfl
      exact hrefused d (by simp [Handled.dealings, Handled.asked]) haccepted
  | cancel id =>
    simp only [Order.serve] at hrefused ⊢
    have hcancellation := Service.cancellation q m t u id
    generalize (Service.cancel id).run (.beside q m) (t, u, []) = result at *
    cases hcancellation with
    | refused hd hstore => simp [Handled.asked]
    | @accepted d j v hd hreply hv =>
      exfalso
      have haccepted : d.error = none := by
        subst hd
        exact congrArg refusal hreply
      exact hrefused d (by simp [Handled.dealings, Handled.asked]) haccepted
  | retry id =>
    simp only [Order.serve] at hrefused ⊢
    have hretrial := Service.retrial q m t u id
    generalize (Service.retry id).run (.beside q m) (t, u, []) = result at *
    cases hretrial with
    | refused hd hstore => simp [Handled.asked]
    | @accepted d j v hd haccepted hv =>
      exact absurd haccepted (hrefused d (by simp [Handled.dealings, Handled.asked]))

end AnyQueue

/-- Whatever the queue does and fails to do, the store goes through the same states. -/
theorem AnyQueue.dealings_serveAll {σ : Type} (q : AnyQueue ρ) (p : AnyQueue σ)
    (orders : List (Moment × Order)) (s : Store) (w : ρ) (v : σ) :
    (q.serveAll s w orders).map (·.dealings) = (p.serveAll s v orders).map (·.dealings) := by
  induction orders generalizing s w v with
  | nil => rfl
  | cons call rest ih =>
    obtain ⟨m, o⟩ := call
    obtain ⟨hq, hqstore⟩ := o.serve_store q m s w
    obtain ⟨hp, hpstore⟩ := o.serve_store p m s v
    rw [serveAll_cons, serveAll_cons, List.map_cons, List.map_cons, hq, hp]
    -- both go on from the same store
    rw [hqstore, hpstore, ih (o.leaves s m) (o.serve q m s w).2.2 (o.serve p m s v).2.2]

/-- Whatever the queue does and fails to do, a cancellation is answered the same. -/
theorem AnyQueue.cancelled_serveAll {σ : Type} (q : AnyQueue ρ) (p : AnyQueue σ)
    (orders : List (Moment × Order)) (s : Store) (w : ρ) (v : σ) (i : Nat) {id : JobId}
    {answer : Except JobError Job} {asked : List Asked}
    (h : (q.serveAll s w orders)[i]? = some (.cancelled id answer asked)) :
    ∃ asked', (p.serveAll s v orders)[i]? = some (.cancelled id answer asked') := by
  induction orders generalizing s w v i with
  | nil => cases h
  | cons call rest ih =>
    obtain ⟨m, o⟩ := call
    cases i with
    | zero =>
      have hfirst : (o.serve q m s w).1 = .cancelled id answer asked := Option.some.inj h
      cases o with
      | create draft => cases hfirst
      | retry id' => cases hfirst
      | cancel id' =>
        rw [Order.serve_cancel] at hfirst
        injection hfirst with hid hanswer _
        subst hid
        refine ⟨((Service.cancel id').run (.beside p m) (s, v, [])).2.2.2, ?_⟩
        rw [serveAll_cons, List.getElem?_cons_zero, Order.serve_cancel, hanswer]
    | succ i =>
      rw [serveAll_cons, List.getElem?_cons_succ, (o.serve_store q m s w).2] at h
      rw [serveAll_cons, List.getElem?_cons_succ, (o.serve_store p m s v).2]
      exact ih _ _ _ i h

/-- Creations, cancellations and retries beside any queue, and beside any queue that never fails,
from any store. -/
theorem AnyQueue.weathered_serveAll {σ : Type} (q : AnyQueue ρ) (steady : SteadyQueue σ)
    (orders : List (Moment × Order)) (s : Store) (w : ρ) (v : σ) :
    Weathered (q.serveAll s w orders) (steady.any.serveAll s v orders) where
  dealings := q.dealings_serveAll steady.any orders s w v
  cancelled i _ _ _ h := q.cancelled_serveAll steady.any orders s w v i h
  created _ _ _ h detail := created_transient_iff h detail
  retried _ _ _ h detail := retried_transient_iff h detail
  reentered id answer asked h d hd haccepted := by
    obtain ⟨m, t, u, t', u', hretrial⟩ := retrial_of_mem h
    cases hretrial with
    | refused hd' hrefused =>
      obtain rfl := by simpa using hd
      rw [hrefused] at haccepted
      cases haccepted
    | accepted hd' _ hv =>
      obtain rfl := by simpa using hd
      exact ⟨_, _, rfl⟩
  idle _ h hrefused c r := idle_of_mem h hrefused c r

end Queue

end Dispatch
