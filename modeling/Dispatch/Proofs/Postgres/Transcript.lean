import Dispatch.Postgres.Store

/-!
# The record of an exchange

What an exchange sends depends on what it was told before, so an exchange and a sequence of replies
determine a record: the statements that were sent, each with its reply.  `Runs e t a` says that `t`
is a record of `e` with the result `a`.  Every composition of exchanges cuts its records into those
of its parts, and `transaction_course` says once and for all how a transaction can go.
-/

namespace Dispatch.Postgres

/-! ## Replies -/

namespace Reply

/-- The server did what it was asked. -/
def succeeded : Reply → Bool
  | rows _ | affected _ => true
  | refused _ _ | broken | closed => false

/-- Nothing more can be sent after this. -/
def isLost : Reply → Bool
  | broken | closed => true
  | rows _ | affected _ | refused _ _ => false

/-- The rows that a statement is found to return. -/
def returned : Reply → List Row
  | rows rs => rs
  | _ => []

/-- The number of rows that a statement is found to change. -/
def count : Reply → Nat
  | affected n => n
  | rows rs => rs.length
  | _ => 0

end Reply

/-- A statement that was sent, and what came back for it. -/
abbrev Sending : Type := Statement × Reply

/-- Everything that was sent succeeded. -/
def AllSucceeded (t : List Sending) : Prop := ∀ x ∈ t, x.2.succeeded = true

/-- The connection was lost on the way. -/
def Lost (t : List Sending) : Prop := ∃ x ∈ t, x.2.isLost = true

theorem allSucceeded_append {t u : List Sending} :
    AllSucceeded (t ++ u) ↔ AllSucceeded t ∧ AllSucceeded u := List.forall_mem_append

theorem Lost.append_left {t : List Sending} (h : Lost t) (u : List Sending) : Lost (t ++ u) :=
  h.imp fun _ hx => ⟨List.mem_append_left u hx.1, hx.2⟩

theorem Lost.append_right {u : List Sending} (h : Lost u) (t : List Sending) : Lost (t ++ u) :=
  h.imp fun _ hx => ⟨List.mem_append_right t hx.1, hx.2⟩

namespace Exchange

variable {α β : Type}

/-! ## Records -/

/-- The record and the result of an exchange. -/
inductive Runs : Exchange α → List Sending → α → Prop
  | done (a : α) : Runs (done a) [] a
  | send {s : Statement} {r : Reply} {next : Reply → Exchange α} {t : List Sending} {a : α}
      (rest : Runs (next r) t a) : Runs (send s next) ((s, r) :: t) a

/-- Answer the statements from a sequence of replies, and keep the record. -/
def scripted (replies : Nat → Reply) (s : Statement) (sent : List Sending) :
    Reply × List Sending :=
  let r := replies sent.length
  (r, sent ++ [(s, r)])

/-- Carrying an exchange out adds a record of it to what was sent before. -/
theorem run_scripted (replies : Nat → Reply) (e : Exchange α) (sent : List Sending) :
    ∃ t, (e.run (scripted replies) sent).2 = sent ++ t ∧
      Runs e t (e.run (scripted replies) sent).1 := by
  induction e generalizing sent with
  | done a => exact ⟨[], (List.append_nil sent).symm, .done a⟩
  | send s next ih =>
    obtain ⟨t, hsent, hrest⟩ := ih (replies sent.length) (sent ++ [(s, replies sent.length)])
    exact ⟨(s, replies sent.length) :: t, by simpa [run, scripted] using hsent, .send hrest⟩

/-- Carried out from the beginning, an exchange leaves a record of itself. -/
theorem runs_scripted (replies : Nat → Reply) (e : Exchange α) :
    Runs e (e.run (scripted replies) []).2 (e.run (scripted replies) []).1 := by
  obtain ⟨t, hsent, hruns⟩ := run_scripted replies e []
  rw [hsent, List.nil_append]
  exact hruns

/-! ## Records of compositions -/

@[simp] theorem runs_done {a b : α} {t : List Sending} : Runs (done a) t b ↔ t = [] ∧ b = a := by
  constructor
  · rintro ⟨⟩
    exact ⟨rfl, rfl⟩
  · rintro ⟨rfl, rfl⟩
    exact .done _

theorem runs_send {s : Statement} {next : Reply → Exchange α} {t : List Sending} {a : α} :
    Runs (send s next) t a ↔ ∃ r t', t = (s, r) :: t' ∧ Runs (next r) t' a := by
  constructor
  · rintro ⟨⟩
    exact ⟨_, _, rfl, by assumption⟩
  · rintro ⟨r, t', rfl, rest⟩
    exact .send rest

theorem runs_bind {e : Exchange α} {k : α → Exchange β} {t : List Sending} {b : β} :
    Runs (e.bind k) t b ↔ ∃ t₁ a t₂, t = t₁ ++ t₂ ∧ Runs e t₁ a ∧ Runs (k a) t₂ b := by
  induction e generalizing t with
  | done a =>
    simp only [bind, runs_done]
    constructor
    · intro h
      exact ⟨[], a, t, rfl, ⟨rfl, rfl⟩, h⟩
    · rintro ⟨_, _, t₂, rfl, ⟨rfl, rfl⟩, h⟩
      exact h
  | send s next ih =>
    simp only [bind, runs_send, ih]
    constructor
    · rintro ⟨r, _, rfl, t₁, a, t₂, rfl, h₁, h₂⟩
      exact ⟨(s, r) :: t₁, a, t₂, rfl, ⟨r, t₁, rfl, h₁⟩, h₂⟩
    · rintro ⟨_, a, t₂, rfl, ⟨r, t₁, rfl, h₁⟩, h₂⟩
      exact ⟨r, t₁ ++ t₂, rfl, t₁, a, t₂, rfl, h₁, h₂⟩

theorem runs_map {e : Exchange α} {f : α → β} {t : List Sending} {b : β} :
    Runs (e.map f) t b ↔ ∃ a, Runs e t a ∧ b = f a := by
  simp only [map, runs_bind, runs_done]
  constructor
  · rintro ⟨t₁, a, _, rfl, h, rfl, rfl⟩
    exact ⟨a, by simpa using h, rfl⟩
  · rintro ⟨a, h, rfl⟩
    exact ⟨t, a, [], (List.append_nil t).symm, h, rfl, rfl⟩

/-- One exchange went on where the other ended, or it failed where the other failed. -/
theorem runs_andThen {e : Attempted α} {k : α → Attempted β} {t : List Sending}
    {x : Except Failure β} :
    Runs (andThen e k) t x ↔
      (∃ t₁ a t₂, t = t₁ ++ t₂ ∧ Runs e t₁ (.ok a) ∧ Runs (k a) t₂ x) ∨
        ∃ f, Runs e t (.error f) ∧ x = .error f := by
  simp only [andThen, runs_bind]
  constructor
  · rintro ⟨t₁, a | a, t₂, rfl, h₁, h₂⟩
    · obtain ⟨rfl, rfl⟩ := runs_done.1 h₂
      exact .inr ⟨a, by simpa using h₁, rfl⟩
    · exact .inl ⟨t₁, a, t₂, rfl, h₁, h₂⟩
  · rintro (⟨t₁, a, t₂, rfl, h₁, h₂⟩ | ⟨f, h, rfl⟩)
    · exact ⟨t₁, .ok a, t₂, rfl, h₁, h₂⟩
    · exact ⟨t, .error f, [], (List.append_nil t).symm, h, .done _⟩

theorem runs_andThen_ok {e : Attempted α} {k : α → Attempted β} {t : List Sending} {b : β} :
    Runs (andThen e k) t (.ok b) ↔
      ∃ t₁ a t₂, t = t₁ ++ t₂ ∧ Runs e t₁ (.ok a) ∧ Runs (k a) t₂ (.ok b) := by
  simp [runs_andThen]

/-! ## Composition -/

theorem bind_assoc {γ : Type} (e : Exchange α) (k : α → Exchange β) (l : β → Exchange γ) :
    (e.bind k).bind l = e.bind fun a => (k a).bind l := by
  induction e with
  | done a => rfl
  | send s next ih =>
    simp only [bind]
    exact congrArg (send s) (funext fun r => ih r)

/-- To commit what one exchange and then another make is to commit what the other makes, unless
the first fails. -/
theorem toCommit_andThen (e : Attempted α) (k : α → Attempted β) :
    toCommit (andThen e k) = e.bind fun
      | .ok a => toCommit (k a)
      | .error f => done (.fail f) := by
  simp only [toCommit, map, andThen, bind_assoc]
  congr 1
  funext x
  cases x <;> rfl

/-! ## Records of single statements -/

theorem runs_ask {s : Statement} {t : List Sending} {x : Except Failure Reply} :
    Runs (ask s) t x ↔ ∃ r, t = [(s, r)] ∧ x = understood s r := by
  simp only [ask, runs_send, runs_done]
  constructor
  · rintro ⟨r, _, rfl, rfl, rfl⟩
    exact ⟨r, rfl, rfl⟩
  · rintro ⟨r, rfl, rfl⟩
    exact ⟨r, [], rfl, rfl, rfl⟩

/-- A reply is understood if the statement succeeded, and is a failure otherwise, which is final
if the connection is lost. -/
theorem understood_cases (s : Statement) (r : Reply) :
    (r.succeeded = true ∧ r.isLost = false ∧ understood s r = .ok r) ∨
      ∃ f, r.succeeded = false ∧ understood s r = .error f ∧ f.isFinal = r.isLost := by
  cases r with
  | rows rs => exact .inl ⟨rfl, rfl, rfl⟩
  | affected n => exact .inl ⟨rfl, rfl, rfl⟩
  | refused code message => exact .inr ⟨_, rfl, rfl, rfl⟩
  | broken => exact .inr ⟨_, rfl, rfl, rfl⟩
  | closed => exact .inr ⟨_, rfl, rfl, rfl⟩

/-- A statement whose success is read off its reply: it succeeded, or it failed. -/
theorem runs_understood {s : Statement} {k : Reply → Attempted α} {value : Reply → α}
    (hk : ∀ r, r.succeeded = true → k r = done (.ok (value r))) {t : List Sending}
    {x : Except Failure α} :
    Runs (andThen (ask s) k) t x → ∃ r, t = [(s, r)] ∧
      ((r.succeeded = true ∧ x = .ok (value r)) ∨
        ∃ f, r.succeeded = false ∧ x = .error f ∧ f.isFinal = r.isLost) := by
  rw [runs_andThen]
  rintro (⟨_, a, t₂, rfl, hask, hk'⟩ | ⟨f, hask, rfl⟩)
  · obtain ⟨r, rfl, hr⟩ := runs_ask.1 hask
    rcases understood_cases s r with ⟨hs, -, hu⟩ | ⟨f, -, hu, -⟩
    · cases hr.trans hu
      obtain ⟨rfl, rfl⟩ := runs_done.1 (hk a hs ▸ hk')
      exact ⟨a, rfl, .inl ⟨hs, rfl⟩⟩
    · cases hr.trans hu
  · obtain ⟨r, rfl, hr⟩ := runs_ask.1 hask
    rcases understood_cases s r with ⟨-, -, hu⟩ | ⟨g, hs, hu, hfinal⟩
    · cases hr.trans hu
    · cases hr.trans hu
      exact ⟨r, rfl, .inr ⟨f, hs, rfl, hfinal⟩⟩

theorem runs_query {s : Statement} {t : List Sending} {x : Except Failure (List Row)}
    (h : Runs (query s) t x) : ∃ r, t = [(s, r)] ∧
      ((r.succeeded = true ∧ x = .ok r.returned) ∨
        ∃ f, r.succeeded = false ∧ x = .error f ∧ f.isFinal = r.isLost) := by
  refine runs_understood (fun r hr => ?_) h
  cases r <;> rfl

theorem runs_execute {s : Statement} {t : List Sending} {x : Except Failure Nat}
    (h : Runs (execute s) t x) : ∃ r, t = [(s, r)] ∧
      ((r.succeeded = true ∧ x = .ok r.count) ∨
        ∃ f, r.succeeded = false ∧ x = .error f ∧ f.isFinal = r.isLost) := by
  refine runs_understood (fun r hr => ?_) h
  cases r <;> rfl

/-! ## Transactions -/

theorem runs_toCommit {e : Attempted α} {t : List Sending} {v : Verdict α}
    (h : Runs (toCommit e) t v) :
    (∃ a, Runs e t (.ok a) ∧ v = .commit a) ∨ ∃ f, Runs e t (.error f) ∧ v = .fail f := by
  obtain ⟨f | a, hx, rfl⟩ := runs_map.1 h
  · exact .inr ⟨f, hx, rfl⟩
  · exact .inl ⟨a, hx, rfl⟩

/-- What is sent in leaving a transaction that came to nothing: `ROLLBACK`, unless the connection
is gone. -/
def Left (gone : Bool) (t : List Sending) : Prop :=
  (gone = true ∧ t = []) ∨ (gone = false ∧ ∃ r, t = [(.rollback, r)])

/-- The ways a transaction can go. -/
inductive Course (body : Exchange (Verdict α)) : List Sending → Except Failure α → Prop
  | unbegun {b : Reply} {f : Failure} (no : b.succeeded = false) :
    Course body [(.begin_, b)] (.error f)
  | committed {b r : Reply} {t : List Sending} {a : α} (begun : b.succeeded = true)
      (ran : Runs body t (.commit a)) (yes : r.succeeded = true) :
    Course body ((.begin_, b) :: (t ++ [(.commit, r)])) (.ok a)
  | uncommitted {b r : Reply} {t left : List Sending} {a : α} {f : Failure}
      (begun : b.succeeded = true) (ran : Runs body t (.commit a)) (no : r.succeeded = false)
      (leaving : Left r.isLost left) :
    Course body ((.begin_, b) :: (t ++ (.commit, r) :: left)) (.error f)
  | failed {b : Reply} {t left : List Sending} {f : Failure} (begun : b.succeeded = true)
      (ran : Runs body t (.fail f)) (leaving : Left f.isFinal left) :
    Course body ((.begin_, b) :: (t ++ left)) (.error f)
  | abandoned {b : Reply} {t left : List Sending} {a : α} (begun : b.succeeded = true)
      (ran : Runs body t (.abandon a)) (leaving : Left false left) :
    Course body ((.begin_, b) :: (t ++ left)) (.ok a)

theorem runs_rolledBack {a b : α} {t : List Sending} (h : Runs (rolledBack a) t b) :
    b = a ∧ Left false t := by
  obtain ⟨r, _, rfl, hdone⟩ := runs_send.1 h
  obtain ⟨rfl, rfl⟩ := runs_done.1 hdone
  exact ⟨rfl, .inr ⟨rfl, r, rfl⟩⟩

theorem runs_failed {f : Failure} {t : List Sending} {x : Except Failure α}
    (h : Runs (failed f) t x) : x = .error f ∧ Left f.isFinal t := by
  unfold failed at h
  split at h
  · rename_i final
    obtain ⟨rfl, rfl⟩ := runs_done.1 h
    exact ⟨rfl, .inl ⟨final, rfl⟩⟩
  · rename_i final
    rw [Bool.not_eq_true] at final
    rw [final]
    exact runs_rolledBack h

/-- A transaction goes one of those ways. -/
theorem transaction_course {body : Exchange (Verdict α)} {t : List Sending}
    {x : Except Failure α} (h : Runs (transaction body) t x) : Course body t x := by
  rw [transaction, runs_andThen] at h
  rcases h with ⟨t₀, _, _, rfl, hbegin, hrest⟩ | ⟨f, hbegin, rfl⟩
  · obtain ⟨b, rfl, hb⟩ := runs_ask.1 hbegin
    have begun : b.succeeded = true := by
      rcases understood_cases .begin_ b with ⟨hs, -, -⟩ | ⟨f, -, hu, -⟩
      · exact hs
      · cases hb.trans hu
    obtain ⟨t₁, v, t₂, rfl, ran, hend⟩ := runs_bind.1 hrest
    cases v with
    | fail f =>
      obtain ⟨rfl, leaving⟩ := runs_failed hend
      exact .failed (t := t₁) begun ran leaving
    | abandon a =>
      obtain ⟨rfl, leaving⟩ := runs_rolledBack hend
      exact .abandoned (t := t₁) begun ran leaving
    | commit a =>
      obtain ⟨_, y, t₃, rfl, hcommit, hlast⟩ := runs_bind.1 hend
      obtain ⟨r, rfl, rfl⟩ := runs_ask.1 hcommit
      rcases understood_cases .commit r with ⟨yes, -, hu⟩ | ⟨f, no, hu, hfinal⟩
      · rw [hu] at hlast
        obtain ⟨rfl, rfl⟩ := runs_done.1 hlast
        exact .committed begun ran yes
      · rw [hu] at hlast
        obtain ⟨rfl, leaving⟩ := runs_failed hlast
        exact .uncommitted begun ran no (hfinal ▸ leaving)
  · obtain ⟨b, rfl, hb⟩ := runs_ask.1 hbegin
    rcases understood_cases .begin_ b with ⟨-, -, hu⟩ | ⟨g, no, -, -⟩
    · cases hb.trans hu
    · exact .unbegun no

end Exchange

end Dispatch.Postgres
