import Dispatch.Proofs.Floor.Diary
import Dispatch.Proofs.Floor.Quiet

/-!
# One agent does one thing

`Does` is what an agent does next, with the notes that it leaves, the store after it and the agent
after it; `Floor.act_cases` says that an action on the floor is nothing else.  An agent keeps what
its state says of its deeds (`Does.keeps`).
-/

namespace Dispatch

/-! ## What an agent does -/

/-- A lane's deeds are what its state says; of others there is nothing to say. -/
def Agent.Keeps (i : Nat) (deeds : List Note) : Agent → Prop
  | lane l => l.Keeps i deeds
  | a => a.Outsider

/-- An agent does its next thing: the notes that it leaves, and the store and the agent after it. -/
inductive Does (i : Nat) (now : Time) (s : Store) (a : Agent) : List Note → Store → Agent → Prop
  | dealt {call : StoreCall} {k : call.Reply → Agent} (step : a.next now = .store call k)
      (m : Moment) (timely : m.now = now) :
      Does i now s a [.dealt i ⟨s, m, call⟩] (s.perform m call).2 (k (s.perform m call).1)
  | handed {job : Job} {pace limit : Span} {k : Answer → Agent}
      (step : a.next now = .execute job pace limit k) (answer : Answer) :
      Does i now s a [.handed i job answer] s (k answer)
  | silent {a' : Agent} (step : (a.next now).Silent now a') (going : a.returned = none) :
      Does i now s a [] s a'
  | returned {a' : Agent} {config : WorkerConfig} {result : PollResult}
      (step : (a.next now).Silent now a') (ended : a.returned = some (config, result)) :
      Does i now s a [.polled i config result] s a'

/-- An agent is a lane or an outsider. -/
theorem Agent.Keeps.cases {i : Nat} {deeds : List Note} {a : Agent} (h : a.Keeps i deeds) :
    (∃ l, a = .lane l ∧ l.Keeps i deeds) ∨ a.Outsider := by
  cases a with
  | lane l => exact .inl ⟨l, rfl, h⟩
  | _ => exact .inr h

theorem Agent.Outsider.keeps {a : Agent} (h : a.Outsider) (i : Nat) (deeds : List Note) :
    a.Keeps i deeds := by
  cases a with
  | lane l => exact h.elim
  | _ => exact h

theorem Agent.returned_eq_some {a : Agent} {config : WorkerConfig} {result : PollResult} :
    a.returned = some (config, result) ↔
      ∃ l, a = .lane l ∧ l.config = config ∧ l.stage = .polling (.finished result) := by
  unfold returned
  constructor
  · intro h
    split at h
    · cases h
      exact ⟨_, rfl, rfl, rfl⟩
    · cases h
  · rintro ⟨⟨config, presence, seen, stage⟩, rfl, rfl, rfl⟩
    rfl

/-- A lane whose poll has ended goes on at once. -/
theorem Agent.next_of_returned {a : Agent} {r : WorkerConfig × PollResult}
    (h : a.returned = some r) (now : Time) : ∃ a', a.next now = .go a' := by
  obtain ⟨l, rfl, -, hstage⟩ := Agent.returned_eq_some.1 h
  obtain ⟨config, presence, seen, stage⟩ := l
  obtain rfl := hstage
  exact ⟨_, rfl⟩

namespace Floor

theorem perform_queue_ok (q : LeaseQueue) (now : Time) (call : QueueCall) :
    ∃ v, (q.perform now call).1 = .ok v := by
  cases call <;> exact ⟨_, rfl⟩

/-- What is carried out leaves one note of a call to the store or to the provider, and no note of
anything else. -/
theorem carry_cases {f g : Floor} {i : Nat} {chance : Chance} {n : Next Agent Unit} {a' : Agent}
    (h : f.carry i chance n = some (a', g)) :
    g.agents = f.agents ∧
      ((∃ call k m, n = .store call k ∧ m.now = f.now ∧ a' = k (f.store.perform m call).1 ∧
          g.store = (f.store.perform m call).2 ∧
          g.history = f.history ++ [.dealt i ⟨f.store, m, call⟩]) ∨
        (∃ job pace limit k answer, n = .execute job pace limit k ∧ a' = k answer ∧
          g.store = f.store ∧ g.history = f.history ++ [.handed i job answer]) ∨
        (n.Silent f.now a' ∧ g.store = f.store ∧ g.history = f.history)) := by
  cases n with
  | store call k =>
    obtain ⟨rfl, rfl⟩ := Prod.mk.inj (Option.some.inj h)
    exact ⟨rfl, .inl ⟨call, k, _, rfl, rfl, rfl, rfl, rfl⟩⟩
  | execute job pace limit k =>
    obtain ⟨rfl, rfl⟩ := Prod.mk.inj (Option.some.inj h)
    exact ⟨rfl, .inr (.inl ⟨job, pace, limit, k, _, rfl, rfl, rfl, rfl⟩)⟩
  | queue call k =>
    obtain ⟨rfl, rfl⟩ := Prod.mk.inj (Option.some.inj h)
    -- a queue in memory does not fail
    obtain ⟨v, hv⟩ := perform_queue_ok f.queue f.now call
    refine ⟨rfl, .inr (.inr ⟨?_, rfl, rfl⟩)⟩
    rw [hv]
    exact .queue call k v
  | dequeue timeout k =>
    obtain ⟨rfl, rfl⟩ := Prod.mk.inj (Option.some.inj h)
    exact ⟨rfl, .inr (.inr ⟨.dequeue timeout k _, rfl, rfl⟩)⟩
  | arm due k =>
    obtain ⟨rfl, rfl⟩ := Prod.mk.inj (Option.some.inj h)
    exact ⟨rfl, .inr (.inr ⟨.arm due k _, rfl, rfl⟩)⟩
  | sleep alarms a =>
    simp only [carry] at h
    split at h
    · rename_i rung
      obtain ⟨rfl, rfl⟩ := Prod.mk.inj (Option.some.inj h)
      exact ⟨rfl, .inr (.inr ⟨.sleep alarms a rung, rfl, rfl⟩)⟩
    · cases h
  | look k =>
    obtain ⟨rfl, rfl⟩ := Prod.mk.inj (Option.some.inj h)
    exact ⟨rfl, .inr (.inr ⟨.look k _, rfl, rfl⟩)⟩
  | await alarm seen k =>
    simp only [carry] at h
    split at h
    · obtain ⟨rfl, rfl⟩ := Prod.mk.inj (Option.some.inj h)
      exact ⟨rfl, .inr (.inr ⟨.await alarm seen k _, rfl, rfl⟩)⟩
    · split at h
      · obtain ⟨rfl, rfl⟩ := Prod.mk.inj (Option.some.inj h)
        exact ⟨rfl, .inr (.inr ⟨.await alarm seen k _, rfl, rfl⟩)⟩
      · cases h
  | go a =>
    obtain ⟨rfl, rfl⟩ := Prod.mk.inj (Option.some.inj h)
    exact ⟨rfl, .inr (.inr ⟨.go a, rfl, rfl⟩)⟩
  | toss k =>
    obtain ⟨rfl, rfl⟩ := Prod.mk.inj (Option.some.inj h)
    exact ⟨rfl, .inr (.inr ⟨.toss k _, rfl, rfl⟩)⟩
  | finished result => cases h

/-- What is carried out takes no time. -/
theorem now_carry {f g : Floor} {i : Nat} {chance : Chance} {n : Next Agent Unit} {a' : Agent}
    (h : f.carry i chance n = some (a', g)) : g.now = f.now := by
  cases n with
  | sleep alarms a =>
    simp only [carry] at h
    split at h <;> cases h
    rfl
  | await alarm seen k =>
    simp only [carry] at h
    split at h
    · cases h
      rfl
    · split at h <;> cases h
      rfl
  | finished result => cases h
  | _ =>
    cases h
    rfl

theorem now_act (f : Floor) (i : Nat) (chance : Chance) : (f.act i chance).now = f.now := by
  unfold act
  split
  · rfl
  · split
    · rfl
    · rename_i a' g hcarry
      show g.now = f.now
      exact now_carry hcarry

/-- An action that is carried out is what the agent does next. -/
theorem act_carried {f g : Floor} {i : Nat} {chance : Chance} {a a' : Agent}
    (ha : f.agents[i]? = some a) (h : f.carry i chance (a.next f.now) = some (a', g)) :
    ∃ notes, Does i f.now f.store a notes g.store a' ∧
      f.act i chance = { g with agents := f.agents.set i a', history := f.history ++ notes } := by
  obtain ⟨hagents, hcases⟩ := carry_cases h
  have hact : f.act i chance =
      { g with agents := g.agents.set i a', history := g.history ++ report i a } := by
    simp only [act, ha, h]
  rw [hact, hagents]
  unfold report
  cases hreturned : a.returned with
  | none =>
    rcases hcases with ⟨call, k, m, hn, htime, rfl, hstore, hhistory⟩ |
      ⟨job, pace, limit, k, answer, hn, rfl, hstore, hhistory⟩ | ⟨hsilent, hstore, hhistory⟩
    · rw [hstore, hhistory]
      exact ⟨_, .dealt hn m htime, by simp⟩
    · rw [hstore, hhistory]
      exact ⟨_, .handed hn answer, by simp⟩
    · rw [hstore, hhistory]
      exact ⟨_, .silent hsilent hreturned, rfl⟩
  | some r =>
    -- the lane goes on at once, so the only note is that of its poll
    obtain ⟨b, hgo⟩ := Agent.next_of_returned hreturned f.now
    rw [hgo] at hcases
    rcases hcases with ⟨call, k, m, hn, -⟩ | ⟨job, pace, limit, k, answer, hn, -⟩ |
      ⟨hsilent, hstore, hhistory⟩
    · cases hn
    · cases hn
    · rw [hstore, hhistory]
      exact ⟨_, .returned (hgo ▸ hsilent) hreturned, rfl⟩

/-- An action of an agent is what the agent does next, or nothing. -/
theorem act_cases (f : Floor) (i : Nat) (chance : Chance) :
    f.act i chance = f ∨ ∃ a notes s' a', f.agents[i]? = some a ∧
      Does i f.now f.store a notes s' a' ∧ (f.act i chance).agents = f.agents.set i a' ∧
      (f.act i chance).store = s' ∧ (f.act i chance).history = f.history ++ notes := by
  cases ha : f.agents[i]? with
  | none => exact .inl (by simp only [act, ha])
  | some a =>
    cases hcarry : f.carry i chance (a.next f.now) with
    | none => exact .inl (by simp only [act, ha, hcarry])
    | some r =>
      obtain ⟨notes, does, hact⟩ := act_carried ha hcarry
      exact .inr ⟨a, notes, _, _, rfl, does, by rw [hact], by rw [hact], by rw [hact]⟩

end Floor

/-! ## Deeds -/

namespace Does

variable {i : Nat} {now : Time} {s s' : Store} {a a' : Agent} {notes deeds : List Note}

/-- What an agent keeps of its deeds, it keeps when it does its next thing. -/
theorem keeps (h : Does i now s a notes s' a') (hs : s.Orderly) (hkeeps : a.Keeps i deeds) :
    a'.Keeps i (notes.foldl (noted i) deeds) := by
  rcases hkeeps.cases with ⟨l, rfl, hl⟩ | hout
  · cases h with
    | dealt step m =>
      rcases Next.lift_eq_store step with ⟨k', hk, rfl⟩ | ⟨_, -, hend⟩
      · exact hl.dealt hk hs m
      · cases hend
    | @handed job pace limit k step answer =>
      rcases Next.lift_eq_execute step with ⟨k', hk, rfl⟩ | ⟨_, -, hend⟩
      · simpa [noted, Note.agent, Agent.Keeps] using hl.handed hk answer
      · cases hend
    | silent step going =>
      rcases Next.silent_lift step with ⟨l', hl', rfl⟩ | ⟨_, -, hend⟩
      · apply hl.silent hl'
        intro result hstage
        rw [Agent.returned_eq_some.2 ⟨l, rfl, rfl, hstage⟩] at going
        cases going
      · cases hend
    | returned step ended =>
      obtain ⟨_, hlane, rfl, hstage⟩ := Agent.returned_eq_some.1 ended
      cases hlane
      rcases Next.silent_lift step with ⟨l', hl', rfl⟩ | ⟨_, -, hend⟩
      · simpa [noted, Note.agent, Agent.Keeps] using (hl.returned hstage hl').2
      · cases hend
  -- an outsider stays one, and of its deeds there is nothing to say
  · refine Agent.Outsider.keeps ?_ i _
    cases h with
    | dealt step m => exact (hout.dealt step _).2
    | handed step answer => exact (hout.not_handed step).elim
    | silent step going => exact hout.silent step
    | returned step ended => exact hout.silent step

/-- A poll that returns returns what was done. -/
theorem concluded {config : WorkerConfig} {result : PollResult} {j : Nat}
    (h : Does i now s a [.polled j config result] s' a') (hkeeps : a.Keeps i deeds) :
    j = i ∧ Concluded i config deeds result := by
  cases h with
  | returned step ended =>
    obtain ⟨l, rfl, rfl, hstage⟩ := Agent.returned_eq_some.1 ended
    rcases Next.silent_lift step with ⟨l', hl', -⟩ | ⟨_, -, hend⟩
    · exact ⟨rfl, (Lane.Keeps.returned hkeeps hstage hl').1⟩
    · cases hend

/-- A job that is handed over is one that the lane has started. -/
theorem began {job : Job} {answer : Answer} {j : Nat}
    (h : Does i now s a [.handed j job answer] s' a') (hkeeps : a.Keeps i deeds) :
    j = i ∧ ∃ config d, Began config job d ∧ .dealt i d ∈ deeds := by
  cases h with
  | handed step answer =>
    refine ⟨rfl, ?_⟩
    rcases hkeeps.cases with ⟨l, rfl, hl⟩ | hout
    · rcases Next.lift_eq_execute step with ⟨k', hk, -⟩ | ⟨_, -, hend⟩
      · obtain ⟨d, hbegan, rfl⟩ := hl.began hk
        exact ⟨l.config, d, hbegan, List.mem_singleton_self _⟩
      · cases hend
    · exact (hout.not_handed step).elim

end Does

end Dispatch
