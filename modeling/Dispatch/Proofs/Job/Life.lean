import Dispatch.Event
import Dispatch.Job.Basic

/-!
# The life of a job as its events tell it

The kinds of event are the letters of an automaton whose states are the statuses of a job, before
its creation the absence of one.  `Step` is its transition relation and `Leads` says that the
entries of a log are accepted in order and end in a status.

Of the seven statuses the automaton reaches five: no event leads to `retryScheduled` or to `dlq`
(`Step.lively`).  A log that leads anywhere starts with the one `created` event that it has
(`Leads.created_first`).
-/

namespace Dispatch

/-- What a worker does, as opposed to an operator, the service or the reconciler. -/
def EventKind.isWorkers : EventKind → Bool
  | .started | .succeeded | .failed => true
  | _ => false

theorem EventKind.tag_inj {k l : EventKind} : k.tag = l.tag ↔ k = l := by
  cases k <;> cases l <;> simp [tag]

namespace Life

/-- A status that jobs do have. -/
def Lively (status : JobStatus) : Prop := status ≠ .retryScheduled ∧ status ≠ .dlq

/-- An event leads from one status to the next. -/
inductive Step : Option JobStatus → EventKind → JobStatus → Prop
  | created : Step none .created .queued
  | started : Step (some .queued) .started .running
  | succeeded : Step (some .running) .succeeded .succeeded
  | failed : Step (some .running) .failed .failed
  | dropped : Step (some .queued) .cancelled .cancelled
  | stopped : Step (some .running) .cancelled .cancelled
  | retriedFailed : Step (some .failed) .retryScheduled .queued
  | retriedCancelled : Step (some .cancelled) .retryScheduled .queued
  | requeued : Step (some .running) .requeued .queued

theorem Step.lively {before : Option JobStatus} {kind : EventKind} {after : JobStatus}
    (h : Step before kind after) : Lively after := by
  cases h <;> exact ⟨by decide, by decide⟩

/-- Only a job that is not there yet is created. -/
theorem Step.created_iff {before : Option JobStatus} {kind : EventKind} {after : JobStatus}
    (h : Step before kind after) : kind = .created ↔ before = none := by
  cases h <;> decide

/-- A status and an event have one next status. -/
theorem Step.unique {before : Option JobStatus} {kind : EventKind} {a b : JobStatus}
    (ha : Step before kind a) (hb : Step before kind b) : a = b := by
  cases ha <;> cases hb <;> rfl

/-- The entries lead from the absence of a job to a status. -/
inductive Leads : List Event → Option JobStatus → Prop
  | nothing : Leads [] none
  | next {past : List Event} {e : Event} {before : Option JobStatus} {kind : EventKind}
      {after : JobStatus} (past_leads : Leads past before) (tagged : e.tag = kind.tag)
      (step : Step before kind after) : Leads (past ++ [e]) (some after)

theorem Leads.eq_nil {log : List Event} (h : Leads log none) : log = [] := by
  cases h
  rfl

/-- Entries lead to one status at most. -/
theorem Leads.unique {log : List Event} {a b : Option JobStatus} (ha : Leads log a)
    (hb : Leads log b) : a = b := by
  induction ha generalizing b with
  | nothing =>
    generalize hlog : ([] : List Event) = log at hb
    cases hb with
    | nothing => rfl
    | next past_leads tagged step => simp at hlog
  | @next past e before kind after past_leads tagged step ih =>
    generalize hlog : past ++ [e] = log at hb
    cases hb with
    | nothing => simp at hlog
    | @next past' e' before' kind' after' past_leads' tagged' step' =>
      -- both readings end with the same entry, whose tag is that of one kind
      obtain ⟨rfl, hlast⟩ := List.append_inj' hlog rfl
      cases List.singleton_inj.1 hlast
      cases ih past_leads'
      cases EventKind.tag_inj.1 (tagged.symm.trans tagged')
      rw [step.unique step']

/-- The log of a job starts with its creation, which happens once. -/
theorem Leads.created_first {log : List Event} {status : JobStatus} (h : Leads log (some status)) :
    ∃ e rest, log = e :: rest ∧ e.is .created = true ∧ ∀ x ∈ rest, x.is .created = false := by
  generalize hgoal : some status = goal at h
  induction h generalizing status with
  | nothing => cases hgoal
  | @next past e before kind after past_leads tagged step ih =>
    have hkind : e.is .created = true ↔ before = none := by
      rw [← step.created_iff, ← EventKind.tag_inj, ← tagged]
      simp [Event.is]
    cases before with
    | none =>
      rw [past_leads.eq_nil]
      exact ⟨e, [], rfl, hkind.2 rfl, by simp⟩
    | some status =>
      obtain ⟨first, rest, rfl, hfirst, hrest⟩ := ih rfl
      refine ⟨first, rest ++ [e], rfl, hfirst, fun x hx => ?_⟩
      rcases List.mem_append.1 hx with hx | hx
      · exact hrest x hx
      · rw [List.mem_singleton.1 hx]
        simpa using mt hkind.1

end Life

end Dispatch
