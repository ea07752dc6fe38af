import Dispatch.Proofs.Store.Run

/-!
# The log tells the whole story

The entries about a job lead, by the steps of a job's life, to the status that the job has, and the
starts among them are as many as its attempts: the log could be replayed to the jobs in the store.
`Chronicle` is that invariant, together with what makes the log a log: entries are numbered without
gaps, each names the worker whose doing it tells, and none is ever changed or taken away
(`events_prefix`).

Every turn adds one entry, so all of it is proved for that one entry (`Chronicle.turn`).
-/

namespace Dispatch

/-- The entry without its number. -/
def Event.unnumbered (e : Event) : Event := { e with id := 0 }

namespace Store

variable {s s' : Store} {now : Time}

/-- The entries about a job, oldest first. -/
def eventsOf (s : Store) (id : JobId) : List Event := s.events.filter (·.job = some id)

/-- An entry of a kind that there is, with a worker if it tells what a worker did. -/
def Signed (e : Event) : Prop :=
  ∃ kind : EventKind, e.tag = kind.tag ∧ e.worker.isSome = kind.isWorkers

/-- The log tells of everything that happened. -/
structure Chronicle (s : Store) : Prop where
  numbered : s.events.map (·.id) = countedTo s.events.length
  signed : ∀ e ∈ s.events, Signed e
  leads : ∀ id, Life.Leads (s.eventsOf id) ((s.jobs.get? id).map (·.status))
  starts : ∀ id, ((s.eventsOf id).countP (·.is .started) : Int) =
    ((s.jobs.get? id).map (·.attempt)).getD 0

namespace Chronicle

theorem empty : Store.empty.Chronicle where
  numbered := rfl
  signed := by simp [Store.empty]
  leads _ := .nothing
  starts _ := rfl

section Turn

variable {d : Deed} {after : Job}

/-- The entry of a turn is about the job whose turn it is. -/
theorem eventsOf_turn (t : Turn now s d after s') (id : JobId) :
    s'.eventsOf id = s.eventsOf id ++
      if after.id = id then [s.entry d.kind after.id d.worker d.note now] else [] := by
  unfold eventsOf
  rw [t.events_eq, List.filter_append]
  by_cases hid : after.id = id <;> simp [entry, hid]

theorem turn (t : Turn now s d after s') (c : s.Chronicle) : s'.Chronicle where
  numbered := by
    rw [t.events_eq, List.map_append, c.numbered, List.length_append, List.length_singleton,
      countedTo_succ]
    rfl
  signed e he := by
    rw [t.events_eq] at he
    rcases List.mem_append.1 he with he | he
    · exact c.signed e he
    · rw [List.mem_singleton.1 he]
      exact ⟨d.kind, rfl, d.worker_isSome⟩
  leads id := by
    rw [eventsOf_turn t, t.get?_jobs]
    by_cases hid : after.id = id
    · subst hid
      simp only [if_true]
      exact .next (c.leads after.id) rfl t.step
    · simpa [hid] using c.leads id
  starts id := by
    rw [eventsOf_turn t, t.get?_jobs]
    by_cases hid : after.id = id
    · subst hid
      have hstarted : (s.entry d.kind after.id d.worker d.note now).is .started = true ↔
          d.kind = .started := by
        rw [← EventKind.tag_inj]
        exact decide_eq_true_iff
      have hcounted := t.counted
      rw [← c.starts] at hcounted
      by_cases hkind : d.kind = .started <;> simp_all
    · simpa [hid] using c.starts id

end Turn

theorem lived {past : List Dealing} (h : Lived past s) : s.Chronicle := by
  refine (h.kept empty fun _ change c => ?_).2
  cases change with
  | turn t => exact turn t c
  | report workers => exact ⟨c.numbered, c.signed, c.leads, c.starts⟩

end Chronicle

theorem Turn.events_prefix {d : Deed} {after : Job} (t : Turn now s d after s') :
    s.events <+: s'.events := by
  rw [t.events_eq]
  exact List.prefix_append _ _

/-- No call changes an entry or takes one away. -/
theorem events_prefix (h : s.Orderly) (m : Moment) (c : StoreCall) :
    s.events <+: (s.perform m c).2.events := by
  refine (kept_by_perform (P := fun t => s.events <+: t.events) h m c (fun _ change hold => ?_)
    (List.prefix_refl _)).2
  cases change with
  | turn t => exact hold.trans t.events_prefix
  | report workers => exact hold

/-! ## What readers of the log may rely on -/

/-- The log tells the whole story of the jobs in the store, and will go on telling it. -/
structure Replays (s : Store) : Prop where
  /-- Entries are numbered from one up. -/
  numbered : s.events.map (·.id) = countedTo s.events.length
  /-- No call changes an entry or takes one away. -/
  grows : ∀ m c, s.events <+: (s.perform m c).2.events
  /-- The entries about a job lead to the job's status, and to no other; those about anything else
  are not there. -/
  leads : ∀ id status, Life.Leads (s.eventsOf id) status ↔ status = (s.jobs.get? id).map (·.status)
  /-- The first entry about a job is its creation, and no other entry is. -/
  born : ∀ id j, s.jobs.get? id = some j → ∃ e rest, s.eventsOf id = e :: rest ∧
    e.is .created = true ∧ ∀ x ∈ rest, x.is .created = false
  /-- A job has started as often as the entries about it say. -/
  starts : ∀ id j, s.jobs.get? id = some j →
    ((s.eventsOf id).countP (·.is .started) : Int) = j.attempt
  /-- An entry names a worker if and only if it tells what a worker did. -/
  signed : ∀ e ∈ s.events, Signed e
  /-- A page of the log is the first of the entries about a job. -/
  listed : ∀ id limit, s.listEvents id limit =
    if limit = 0 then .error noLimit else .ok ((s.eventsOf id).take limit)
  /-- Two of the statuses are never reached. -/
  lively : ∀ id j, s.jobs.get? id = some j → Life.Lively j.status

/-- Whatever calls are made on the empty store and at whatever moments, its log replays to it. -/
theorem replays_afterAll (calls : List (Moment × StoreCall)) :
    (empty.afterAll calls).Replays := by
  have hlived := Lived.dealings calls
  have hchronicle := Chronicle.lived hlived
  refine ⟨hchronicle.numbered, events_prefix hlived.orderly, fun id status => ?_, fun id j hj => ?_,
    fun id j hj => ?_, hchronicle.signed, fun _ _ => rfl, hlived.orderly.lively⟩
  · have hleads := hchronicle.leads id
    constructor
    · intro h
      exact h.unique hleads
    · rintro rfl
      exact hleads
  · have hleads := hchronicle.leads id
    rw [hj] at hleads
    exact hleads.created_first
  · have hstarts := hchronicle.starts id
    rwa [hj] at hstarts

/-- A page with room for nothing is refused: it is not an empty page. -/
theorem emptyPage_refused :
    let s := empty.afterAll [(⟨⟨0⟩, .numbered 0 1⟩, .create { tenant := "t1", model := "m" })]
    let id := (FreshIds.numbered 0 1).job
    (s.jobs.get? id).isSome = true ∧ s.listEvents id 0 = .error noLimit ∧
      s.listEvents id 0 ≠ .ok ((s.eventsOf id).take 0) := by
  refine ⟨by decide, rfl, fun h => ?_⟩
  cases h

end Store

end Dispatch
