import Dispatch.Proofs.Floor.Next
import Dispatch.Proofs.Store.History

/-!
# Who has nothing to do with executions

Only lanes start jobs, hand them to providers, commit attempts and report.  The reconciler and its
passes never do, in any state (`Reconciler.harmless`, `Pass.harmless`), and the service does not in
answering any request, whatever the store and the queue tell it (`Request.quiet_script`).  So all
agents but lanes are outsiders, and stay outsiders whatever they do.
-/

namespace Dispatch

namespace StoreCall

/-- The call neither starts a job nor commits an attempt, and it is no report. -/
def isOutside : StoreCall → Bool
  | .start _ _ | .succeed _ _ _ _ | .fail _ _ _ _ _ | .beat _ _ _ _ => false
  | _ => true

theorem commits_of_outside {c : StoreCall} (h : c.isOutside = true) : c.commits = none := by
  cases c <;> first | rfl | cases h

theorem opens_of_outside {c : StoreCall} (h : c.isOutside = true) (r : c.Reply) :
    c.opens r = none := by
  cases c <;> first | rfl | cases h

theorem reporter_of_outside {c : StoreCall} (h : c.isOutside = true) : c.reporter = none := by
  cases c <;> first | rfl | cases h

end StoreCall

/-! ## The reconciler -/

/-- What a machine does next has nothing to do with executions. -/
def Next.Harmless {σ ρ : Type} : Next σ ρ → Prop
  | .store call _ => call.isOutside = true
  | .execute _ _ _ _ => False
  | _ => True

theorem Next.harmless_lift {σ τ ρ π : Type} {wrap : σ → τ} {atEnd : ρ → Next τ π} {n : Next σ ρ}
    (h : n.Harmless) (hend : ∀ r, (atEnd r).Harmless) : (n.lift wrap atEnd).Harmless := by
  cases n with
  | finished r => exact hend r
  | store call k => exact h
  | execute job pace limit k => exact h
  | _ => trivial

theorem Sweep.harmless (s : Sweep) : s.next.Harmless := by
  obtain ⟨filter, added, phase⟩ := s
  cases phase with
  | listing => rfl
  | checking page rest => cases rest <;> trivial
  | adding page rest => cases rest <;> trivial
  | finished result => trivial

theorem Pass.harmless (config : ReconcilerConfig) (now : Time) (p : Pass) :
    (p.next config now).Harmless := by
  obtain ⟨orphans, phase⟩ := p
  cases phase with
  | requeuing => rfl
  | freeing rest => cases rest <;> trivial
  | enqueuing rest => cases rest <;> trivial
  | turning => trivial
  | sweeping s => exact Next.harmless_lift s.harmless fun _ => trivial
  | finished result => trivial

theorem Reconciler.harmless (now : Time) (r : Reconciler) : (r.next now).Harmless := by
  obtain ⟨config, seen, stage⟩ := r
  cases stage with
  | opening =>
    unfold Reconciler.next
    dsimp only
    split <;> trivial
  | passing due p => exact Next.harmless_lift (p.harmless config now) fun _ => trivial
  | _ => trivial

/-! ## Requests to the service -/

/-- A script does nothing that has to do with executions, whatever it is answered. -/
def Script.Quiet {α : Type} : Script α → Prop
  | done _ => True
  | store call k => call.isOutside = true ∧ ∀ r, (k r).Quiet
  | queue _ k => ∀ r, (k r).Quiet

namespace Script

theorem quiet_bind {α β : Type} {s : Script α} {next : α → Script β} (hs : s.Quiet)
    (hnext : ∀ a, (next a).Quiet) : (s.bind next).Quiet := by
  induction s with
  | done a => exact hnext a
  | store call k ih => exact ⟨hs.1, fun r => ih r (hs.2 r)⟩
  | queue call k ih => exact fun r => ih r (hs r)

theorem quiet_map {α β : Type} {s : Script α} (hs : s.Quiet) (f : α → β) : (s.map f).Quiet :=
  quiet_bind hs fun _ => trivial

theorem quiet_askStoreFor {β : Type} {c : StoreCall} {next : c.Value → Script (Except JobError β)}
    (hc : c.isOutside = true) (hnext : ∀ v, (next v).Quiet) : (askStoreFor c next).Quiet := by
  refine ⟨hc, fun r => ?_⟩
  cases r with
  | ok v => exact hnext v
  | error e => trivial

end Script

/-- The service neither starts jobs nor commits attempts. -/
theorem Request.quiet_script (r : Request) : r.script.Quiet := by
  cases r <;> refine Script.quiet_map ?_ _
  case create draft =>
    unfold Service.create
    split
    · trivial
    · apply Script.quiet_askStoreFor rfl
      rintro ⟨job, existed⟩
      dsimp only
      split
      · trivial
      · intro reply
        cases reply <;> trivial
  case get id => exact Script.quiet_askStoreFor rfl fun _ => trivial
  case list filter =>
    unfold Service.list
    split
    · trivial
    · exact Script.quiet_askStoreFor rfl fun _ => trivial
  case cancel id => exact Script.quiet_askStoreFor rfl fun _ _ _ => trivial
  case retry id =>
    apply Script.quiet_askStoreFor rfl
    intro job _ reply
    cases reply <;> trivial
  case events id limit =>
    unfold Service.events
    split
    · trivial
    · exact Script.quiet_askStoreFor rfl fun _ => Script.quiet_askStoreFor rfl fun _ => trivial
  case workers => exact Script.quiet_askStoreFor rfl fun _ => trivial
  case tally => exact Script.quiet_askStoreFor rfl fun _ => trivial
  case overview =>
    exact Script.quiet_askStoreFor rfl fun _ => Script.quiet_askStoreFor rfl fun _ => trivial
  case health => exact ⟨rfl, fun _ _ => trivial⟩

namespace Script

variable {α : Type} {s s' : Script α} {now : Time}

theorem harmless (h : s.Quiet) : s.next.Harmless := by
  cases s with
  | store call k => exact h.1
  | _ => trivial

theorem quiet_of_store {call : StoreCall} {k : call.Reply → Script α} (h : s.Quiet)
    (step : s.next = .store call k) (r : call.Reply) : (k r).Quiet := by
  cases s with
  | store call k =>
    cases step
    exact h.2 r
  | _ => cases step

theorem quiet_of_silent (h : s.Quiet) (step : s.next.Silent now s') : s'.Quiet := by
  cases s with
  | queue call k =>
    cases step with
    | queue _ _ v => exact h (.ok v)
  | _ => cases step

end Script

/-! ## Outsiders -/

namespace Agent

variable {now : Time} {a a' : Agent}

/-- The agent has nothing to do with executions, and never will have. -/
def Outsider : Agent → Prop
  | lane _ => False
  | request rest => rest.Quiet
  | reconciler _ => True
  | pass _ _ => True

theorem Outsider.harmless (h : a.Outsider) (now : Time) : (a.next now).Harmless := by
  cases a with
  | lane l => exact h.elim
  | request rest => exact Next.harmless_lift (Script.harmless h) fun _ => trivial
  | reconciler r => exact Next.harmless_lift (r.harmless now) fun _ => trivial
  | pass config p => exact Next.harmless_lift (p.harmless config now) fun _ => trivial

/-- An outsider's calls to the store are harmless, and it stays an outsider. -/
theorem Outsider.dealt {call : StoreCall} {k : call.Reply → Agent} (h : a.Outsider)
    (step : a.next now = .store call k) (r : call.Reply) :
    call.isOutside = true ∧ (k r).Outsider := by
  have hharmless := h.harmless now
  rw [step] at hharmless
  refine ⟨hharmless, ?_⟩
  cases a with
  | lane l => exact h.elim
  | request rest =>
    rcases Next.lift_eq_store step with ⟨k', hk, rfl⟩ | ⟨_, -, hend⟩
    · exact Script.quiet_of_store h hk r
    · cases hend
  | reconciler r =>
    rcases Next.lift_eq_store step with ⟨k', -, rfl⟩ | ⟨_, -, hend⟩
    · trivial
    · cases hend
  | pass config p =>
    rcases Next.lift_eq_store step with ⟨k', -, rfl⟩ | ⟨_, -, hend⟩
    · trivial
    · cases hend

/-- An outsider hands nothing to a provider. -/
theorem Outsider.not_handed {job : Job} {pace limit : Span} {k : Answer → Agent} (h : a.Outsider)
    (step : a.next now = .execute job pace limit k) : False := by
  have hharmless := h.harmless now
  rwa [step] at hharmless

theorem Outsider.silent (h : a.Outsider) (step : (a.next now).Silent now a') : a'.Outsider := by
  cases a with
  | lane l => exact h.elim
  | request rest =>
    rcases Next.silent_lift step with ⟨rest', hrest, rfl⟩ | ⟨_, -, hend⟩
    · exact Script.quiet_of_silent h hrest
    · cases hend
  | reconciler r =>
    rcases Next.silent_lift step with ⟨r', -, rfl⟩ | ⟨_, -, hend⟩
    · trivial
    · cases hend
  | pass config p =>
    rcases Next.silent_lift step with ⟨p', -, rfl⟩ | ⟨_, -, hend⟩
    · trivial
    · cases hend

end Agent

end Dispatch
