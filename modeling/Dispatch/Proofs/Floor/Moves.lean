import Dispatch.Proofs.Floor.Agent

/-!
# What an action does to the queue

`Does` says what an agent does next as far as the store and the history go.  `Next.Moves` says where
the machine goes from where the store and the queue stand, and what becomes of both.  An action of
an agent is a move of its machine (`Floor.act_moves`), and a move of a machine that has another one
at work inside it is a move of the inner one, until that one ends (`Next.moves_lift`).
-/

namespace Dispatch

variable {σ τ ρ π : Type} {now : Time} {s s' : Store} {q q' : LeaseQueue}

/-- A machine does its next thing with the store and the queue as they are: the store and the queue
after it, and its next state.  What is left to chance may go any way. -/
inductive Next.Moves (now : Time) (s : Store) (q : LeaseQueue) :
    Next σ ρ → Store → LeaseQueue → σ → Prop
  | store (call : StoreCall) (k : call.Reply → σ) (m : Moment) (timely : m.now = now) :
      Moves now s q (.store call k) (s.perform m call).2 q (k (s.perform m call).1)
  | queue (call : QueueCall) (k : call.Reply → σ) :
      Moves now s q (.queue call k) s (q.perform now call).2 (k (q.perform now call).1)
  | dequeue (timeout : Span) (k : DequeueReply → σ) :
      Moves now s q (.dequeue timeout k) s q.pop.2 (k (.ok q.pop.1))
  | execute (job : Job) (pace limit : Span) (k : Answer → σ) (answer : Answer) :
      Moves now s q (.execute job pace limit k) s q (k answer)
  | arm (due : Time) (k : Alarm → σ) (ticket : Nat) :
      Moves now s q (.arm due k) s q (k ⟨due, ticket⟩)
  | sleep (alarms : List Alarm) (a : σ) : Moves now s q (.sleep alarms a) s q a
  | look (k : Bool → σ) (stop : Bool) : Moves now s q (.look k) s q (k stop)
  | await (alarm : Alarm) (seen : Nat) (k : Option Nat → σ) (news : Option Nat) :
      Moves now s q (.await alarm seen k) s q (k news)
  | go (a : σ) : Moves now s q (.go a) s q a
  | toss (k : Bool → σ) (b : Bool) : Moves now s q (.toss k) s q (k b)

theorem Next.moves_store {call : StoreCall} {k : call.Reply → σ} {a : σ}
    (h : (Next.store (ρ := ρ) call k).Moves now s q s' q' a) :
    ∃ m : Moment, m.now = now ∧ s' = (s.perform m call).2 ∧ q' = q ∧
      a = k (s.perform m call).1 := by
  cases h with
  | store _ _ m timely => exact ⟨m, timely, rfl, rfl, rfl⟩

/-- A machine at work inside another one moves as the other one does, until it ends. -/
theorem Next.moves_lift {wrap : σ → τ} {atEnd : ρ → Next τ π} {n : Next σ ρ} {t : τ}
    (h : (n.lift wrap atEnd).Moves now s q s' q' t) :
    (∃ a, n.Moves now s q s' q' a ∧ t = wrap a) ∨
      ∃ r, n = .finished r ∧ (atEnd r).Moves now s q s' q' t := by
  cases n with
  | finished r => exact .inr ⟨r, rfl, h⟩
  | store call k =>
    cases h with
    | store _ _ m timely => exact .inl ⟨_, .store call k m timely, rfl⟩
  | queue call k =>
    cases h with
    | queue _ _ => exact .inl ⟨_, .queue call k, rfl⟩
  | dequeue timeout k =>
    cases h with
    | dequeue _ _ => exact .inl ⟨_, .dequeue timeout k, rfl⟩
  | execute job pace limit k =>
    cases h with
    | execute _ _ _ _ answer => exact .inl ⟨_, .execute job pace limit k answer, rfl⟩
  | arm due k =>
    cases h with
    | arm _ _ ticket => exact .inl ⟨_, .arm due k ticket, rfl⟩
  | sleep alarms a =>
    cases h with
    | sleep _ _ => exact .inl ⟨_, .sleep alarms a, rfl⟩
  | look k =>
    cases h with
    | look _ stop => exact .inl ⟨_, .look k stop, rfl⟩
  | await alarm seen k =>
    cases h with
    | await _ _ _ news => exact .inl ⟨_, .await alarm seen k news, rfl⟩
  | go a =>
    cases h with
    | go _ => exact .inl ⟨_, .go a, rfl⟩
  | toss k =>
    cases h with
    | toss _ b => exact .inl ⟨_, .toss k b, rfl⟩

/-- A lane's move is one of its poll, unless the poll ends. -/
theorem Lane.moves_polling {l l' : Lane} {phase : PollPhase} (stage : l.stage = .polling phase)
    (h : (l.next now).Moves now s q s' q' l') :
    (∃ p, (Poll.next l.config now ⟨l.presence, phase⟩).Moves now s q s' q' p ∧ l' = l.ofPoll p) ∨
      ∃ result, phase = .finished result ∧ s' = s ∧ q' = q ∧ l' = l.afterPoll result := by
  obtain ⟨config, presence, seen, _⟩ := l
  cases stage
  rcases Next.moves_lift h with ⟨p, hp, rfl⟩ | ⟨⟨result, last⟩, hr, hend⟩
  · exact .inl ⟨p, hp, rfl⟩
  · obtain rfl : phase = .finished result := Poll.next_eq_finished hr
    cases hr
    cases hend with
    | go _ => exact .inr ⟨result, rfl, rfl, rfl, rfl⟩

/-- An agent that moves to be a lane was one, and moves as it does. -/
theorem Agent.lane_moves {a : Agent} {l' : Lane}
    (h : (a.next now).Moves now s q s' q' (.lane l')) :
    ∃ l, a = .lane l ∧ (l.next now).Moves now s q s' q' l' := by
  cases a with
  | lane l =>
    rcases Next.moves_lift h with ⟨_, hl, heq⟩ | ⟨_, -, hend⟩
    · cases heq
      exact ⟨l, rfl, hl⟩
    · cases hend
  | reconciler r | pass config p | request rest =>
    rcases Next.moves_lift h with ⟨_, -, heq⟩ | ⟨_, -, hend⟩
    · cases heq
    · cases hend

namespace Floor

variable {f g : Floor} {i : Nat} {chance : Chance}

/-- Of the agents one has changed. -/
theorem agents_set {a' b : Agent} {j : Nat} (agents : g.agents = f.agents.set i a')
    (h : g.agents[j]? = some b) : f.agents[j]? = some b ∧ j ≠ i ∨ j = i ∧ a' = b := by
  rw [agents, List.getElem?_set] at h
  split at h
  · rename_i hij
    split at h
    · exact .inr ⟨hij.symm, Option.some.inj h⟩
    · cases h
  · rename_i hij
    exact .inl ⟨h, Ne.symm hij⟩

/-- Who comes is the last of the agents. -/
theorem agents_welcome {a b : Agent} (h : (f.welcome a).agents[i]? = some b) :
    f.agents[i]? = some b ∨ i = f.agents.length ∧ a = b := by
  rw [welcome, List.getElem?_append] at h
  split at h
  · exact .inl h
  · rw [List.getElem?_singleton] at h
    split at h
    · exact .inr ⟨by omega, Option.some.inj h⟩
    · cases h

theorem carry_moves {n : Next Agent Unit} {a' : Agent}
    (h : f.carry i chance n = some (a', g)) : n.Moves f.now f.store f.queue g.store g.queue a' := by
  cases n with
  | store call k =>
    obtain ⟨rfl, rfl⟩ := Prod.mk.inj (Option.some.inj h)
    exact .store call k _ rfl
  | queue call k =>
    obtain ⟨rfl, rfl⟩ := Prod.mk.inj (Option.some.inj h)
    exact .queue call k
  | dequeue timeout k =>
    obtain ⟨rfl, rfl⟩ := Prod.mk.inj (Option.some.inj h)
    exact .dequeue timeout k
  | execute job pace limit k =>
    obtain ⟨rfl, rfl⟩ := Prod.mk.inj (Option.some.inj h)
    exact .execute job pace limit k _
  | arm due k =>
    obtain ⟨rfl, rfl⟩ := Prod.mk.inj (Option.some.inj h)
    exact .arm due k _
  | sleep alarms a =>
    simp only [carry] at h
    split at h <;> cases h
    exact .sleep alarms _
  | look k =>
    obtain ⟨rfl, rfl⟩ := Prod.mk.inj (Option.some.inj h)
    exact .look k _
  | await alarm seen k =>
    simp only [carry] at h
    split at h
    · cases h
      exact .await alarm seen k _
    · split at h <;> cases h
      exact .await alarm seen k _
  | go a =>
    obtain ⟨rfl, rfl⟩ := Prod.mk.inj (Option.some.inj h)
    exact .go a
  | toss k =>
    obtain ⟨rfl, rfl⟩ := Prod.mk.inj (Option.some.inj h)
    exact .toss k _
  | finished result => cases h

/-- An action of an agent is what the agent does next, and a move of its machine, unless the agent
has to wait or is done. -/
theorem act_moves (f : Floor) (i : Nat) (chance : Chance) :
    (f.act i chance = f ∧ ∀ a, f.agents[i]? = some a →
      f.carry i chance (a.next f.now) = none) ∨
    ∃ a notes a', f.agents[i]? = some a ∧
      Does i f.now f.store a notes (f.act i chance).store a' ∧
      (a.next f.now).Moves f.now f.store f.queue (f.act i chance).store (f.act i chance).queue a' ∧
      (f.act i chance).agents = f.agents.set i a' ∧
      (f.act i chance).history = f.history ++ notes := by
  cases ha : f.agents[i]? with
  | none => exact .inl ⟨by simp only [act, ha], fun a h => by cases h⟩
  | some a =>
    cases hcarry : f.carry i chance (a.next f.now) with
    | none => exact .inl ⟨by simp only [act, ha, hcarry], fun b h => by cases h; exact hcarry⟩
    | some r =>
      obtain ⟨a', g⟩ := r
      obtain ⟨notes, does, hact⟩ := act_carried ha hcarry
      have hmoves := carry_moves hcarry
      rw [hact]
      exact .inr ⟨a, notes, a', rfl, does, hmoves, rfl, rfl⟩

theorem run_append (f : Floor) (schedule rest : List Action) :
    f.run (schedule ++ rest) = (f.run schedule).run rest := List.foldl_append

end Floor

end Dispatch
