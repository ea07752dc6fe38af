import Dispatch.Proofs.Floor.Basic

/-!
# The next thing, inside and outside

What a machine does next is a call to the store, a job for the provider, or something silent, which
concerns only the machine itself and the queue.  A machine at work inside another one does what the
other one does, until it ends; these lemmas read an outer step back as the inner step that it is.

A poll hands a job over in one phase, and it ends in one (`Poll.next_eq_execute`,
`Poll.next_eq_finished`); so there is one stage in which a lane hands a job over
(`Lane.next_eq_execute`).
-/

namespace Dispatch

/-! ## Machines inside machines -/

/-- At an instant a machine may go on to a state without a call to the store or to the provider,
whatever a queue that does not fail answers.  Alarms are set for the time asked for, and who sleeps
is woken by one of them. -/
inductive Next.Silent {σ ρ : Type} (now : Time) : Next σ ρ → σ → Prop
  | queue (call : QueueCall) (k : call.Reply → σ) (v : call.Value) :
      Silent now (.queue call k) (k (.ok v))
  | dequeue (timeout : Span) (k : DequeueReply → σ) (id : Option JobId) :
      Silent now (.dequeue timeout k) (k (.ok id))
  | arm (due : Time) (k : Alarm → σ) (ticket : Nat) : Silent now (.arm due k) (k ⟨due, ticket⟩)
  | sleep (alarms : List Alarm) (a : σ) (rung : alarms.any (·.isDue now) = true) :
      Silent now (.sleep alarms a) a
  | look (k : Bool → σ) (b : Bool) : Silent now (.look k) (k b)
  | await (alarm : Alarm) (seen : Nat) (k : Option Nat → σ) (news : Option Nat) :
      Silent now (.await alarm seen k) (k news)
  | go (a : σ) : Silent now (.go a) a
  | toss (k : Bool → σ) (b : Bool) : Silent now (.toss k) (k b)

namespace Next

variable {σ τ ρ π : Type} {wrap : σ → τ} {atEnd : ρ → Next τ π} {n : Next σ ρ} {now : Time}

/-- A machine at work inside another one does what the other one does, until it ends. -/
theorem silent_lift {t : τ} (h : (n.lift wrap atEnd).Silent now t) :
    (∃ a, n.Silent now a ∧ t = wrap a) ∨ ∃ r, n = .finished r ∧ (atEnd r).Silent now t := by
  cases n with
  | finished r => exact .inr ⟨r, rfl, h⟩
  | store call k => cases h
  | execute job pace limit k => cases h
  | queue call k =>
    cases h with
    | queue _ _ v => exact .inl ⟨_, .queue call k v, rfl⟩
  | dequeue timeout k =>
    cases h with
    | dequeue _ _ id => exact .inl ⟨_, .dequeue timeout k id, rfl⟩
  | arm due k =>
    cases h with
    | arm _ _ ticket => exact .inl ⟨_, .arm due k ticket, rfl⟩
  | sleep alarms a =>
    cases h with
    | sleep _ _ rung => exact .inl ⟨_, .sleep alarms a rung, rfl⟩
  | look k =>
    cases h with
    | look _ b => exact .inl ⟨_, .look k b, rfl⟩
  | await alarm seen k =>
    cases h with
    | await _ _ _ news => exact .inl ⟨_, .await alarm seen k news, rfl⟩
  | go a =>
    cases h with
    | go _ => exact .inl ⟨_, .go a, rfl⟩
  | toss k =>
    cases h with
    | toss _ b => exact .inl ⟨_, .toss k b, rfl⟩

theorem lift_eq_store {call : StoreCall} {k : call.Reply → τ}
    (h : n.lift wrap atEnd = .store call k) :
    (∃ k', n = .store call k' ∧ k = fun r => wrap (k' r)) ∨
      ∃ r, n = .finished r ∧ atEnd r = .store call k := by
  cases n with
  | store c k' =>
    cases h
    exact .inl ⟨k', rfl, rfl⟩
  | finished r => exact .inr ⟨r, rfl, h⟩
  | _ => cases h

theorem lift_eq_execute {job : Job} {pace limit : Span} {k : Answer → τ}
    (h : n.lift wrap atEnd = .execute job pace limit k) :
    (∃ k', n = .execute job pace limit k' ∧ k = fun a => wrap (k' a)) ∨
      ∃ r, n = .finished r ∧ atEnd r = .execute job pace limit k := by
  cases n with
  | execute job pace limit k' =>
    cases h
    exact .inl ⟨k', rfl, rfl⟩
  | finished r => exact .inr ⟨r, rfl, h⟩
  | _ => cases h

end Next

/-! ## Polls and lanes -/

namespace Poll

variable {config : WorkerConfig} {now : Time} {p : Poll}

theorem next_eq_execute {job : Job} {pace limit : Span} {k : Answer → Poll}
    (h : p.next config now = .execute job pace limit k) :
    p.phase = .handing job ∧ ∀ answer, k answer = { p with phase := .limiting job answer } := by
  obtain ⟨presence, phase⟩ := p
  cases phase with
  | handing job =>
    cases h
    exact ⟨rfl, fun _ => rfl⟩
  | _ => cases h

/-- Where the run goes on although it was roused, the report is due. -/
theorem report_isDue {run : Execution} {report : Alarm} {reportFirst : Bool}
    (rung : run.ends.isDue now = true ∨ report.isDue now = true)
    (goesOn : ¬(run.ends.isDue now && !(reportFirst && report.isDue now)) = true) :
    report.isDue now = true := by
  rcases rung with hends | hreport
  · cases hreport : report.isDue now with
    | true => rfl
    | false => exact (goesOn (by rw [hends, hreport, Bool.and_false]; rfl)).elim
  · exact hreport

theorem next_eq_finished {r : PollResult × Presence} (h : p.next config now = .finished r) :
    p.phase = .finished r.1 := by
  obtain ⟨presence, phase⟩ := p
  cases phase with
  | finished result =>
    cases h
    rfl
  | _ => cases h

end Poll

theorem Lane.next_eq_execute {l : Lane} {now : Time} {job : Job} {pace limit : Span}
    {k : Answer → Lane} (h : l.next now = .execute job pace limit k) :
    l.stage = .polling (.handing job) ∧
      ∀ answer, k answer = { l with stage := .polling (.limiting job answer) } := by
  obtain ⟨config, presence, seen, stage⟩ := l
  cases stage with
  | polling phase =>
    rcases Next.lift_eq_execute h with ⟨k', hk, rfl⟩ | ⟨r, -, hr⟩
    · obtain ⟨hphase, hnext⟩ := Poll.next_eq_execute hk
      obtain rfl : phase = .handing job := hphase
      refine ⟨rfl, fun answer => ?_⟩
      simp only [hnext]
      rfl
    · cases hr
  | _ => cases h

end Dispatch
