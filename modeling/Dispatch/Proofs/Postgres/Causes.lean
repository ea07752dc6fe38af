import Dispatch.Proofs.Postgres.AllOrNothing
import Dispatch.Proofs.Postgres.Decoding

/-!
# Why an exchange failed

An operation that fails says so with one of four kinds of error.  `Classified` says which replies
of the database each kind stands for.

What leads to it is what an exchange has heard so far.  `Explains heard f` says why the failure `f`
came of that: the last statement failed, or a row that was to be read could not be, or the last
statement found nothing where there had to be something.  An explained failure has the right kind
(`Classified.of_explains`).  `Explained heard e post` says of the exchange `e` that whatever it goes
on to hear explains its failure, unless it ends well, and then with `post`.  There is one rule for
each way of composing an exchange, so an operation is explained along its own text.
-/

namespace Dispatch.Postgres

/-! ## What statements need -/

namespace Statement

/-- An insertion of a job without a key, which nothing can be in the way of. -/
def isKeyless : Statement → Bool
  | insertJob draft _ => draft.idempotencyKey.isNone
  | _ => false

/-- A change of one job that is guarded by its state, or a look-up of one job: without a row there
is nothing to be had.  A start is not among them; it is answered with no job. -/
def isDecisive : Statement → Bool
  | succeedJob _ _ | failJob _ _ _ _ | cancelJob _ _ | retryJob _ | selectJob _
  | findByKey _ _ => true
  | _ => false

/-- The number of rows that a statement is found to return, or to change if it returns none. -/
def hits (s : Statement) (r : Reply) : Nat :=
  if s.columns.isEmpty then r.count else r.returned.length

/-- The statement succeeded and hit nothing. -/
def Missed (s : Statement) (r : Reply) : Prop := r.succeeded = true ∧ s.hits r = 0

/-- The rows that are read of those that come back: all where any number is asked for, and the
first where one is. -/
def wanted (s : Statement) (rows : List Row) : List Row :=
  match s with
  | listJobs _ | listWorkers | listEvents _ _ | countJobs | requeueOrphaned _ _ => rows
  | _ => rows.take 1

/-- A row of the result shows what it has to: a row of the table, or a count. -/
def Holds (s : Statement) (row : Row) : Prop :=
  match s with
  | insertJob _ _ | findByKey _ _ | selectJob _ | listJobs _ | startJob _ | cancelJob _ _
  | retryJob _ | requeueOrphaned _ _ => ∃ r : JobRow, row.Shows r.wire
  | selectLatestAttempt _ => ∃ r : AttemptRow, row.Shows r.wire
  | listEvents _ _ => ∃ r : EventRow, row.Shows r.wire
  | listWorkers => ∃ r : WorkerRow, row.Shows r.wire
  | countJobs => ∃ counted, row.Shows (countWire counted)
  | _ => True

/-- Every row that is read can be. -/
def Legible (s : Statement) (r : Reply) : Prop := ∀ row ∈ s.wanted r.returned, s.Holds row

variable {s : Statement} {r : Reply} {row : Row} {rows : List Row}

theorem hits_of_returned (found : r.returned = row :: rows) : s.hits r ≠ 0 := by
  cases r with
  | rows rs =>
    cases found
    simp [hits, Reply.returned, Reply.count]
  | affected n => cases found
  | refused code message => cases found
  | broken => cases found
  | closed => cases found

theorem legible_first (first : ∀ rows, s.wanted rows = rows.take 1)
    (found : r.returned = row :: rows) : s.Legible r ↔ s.Holds row := by
  simp [Legible, found, first]

theorem wanted_nil : s.wanted [] = [] := by
  cases s <;> rfl

/-- A statement that hits nothing brings nothing to read. -/
theorem legible_of_missed (must : (s.isKeyless || s.isDecisive) = true) (missed : s.Missed r) :
    s.Legible r := by
  by_cases returns : s.columns = []
  · -- a statement that only counts is not read at all
    intro row _
    cases s <;> trivial
  · have nothing : r.returned = [] := by
      have hnone := missed.2
      rwa [hits, if_neg (by simpa using returns), List.length_eq_zero_iff] at hnone
    simp [Legible, nothing, wanted_nil]

end Statement

/-! ## What can be read -/

/-- Something is read if and only if there is something that it is read as. -/
theorem isOk_iff {α β : Type} {x : Reading α} {shows : β → Prop} {of : β → α}
    (h : ∀ a, x = .ok a ↔ ∃ b, shows b ∧ a = of b) : (∃ b, shows b) ↔ ∃ a, x = .ok a := by
  constructor
  · rintro ⟨b, hb⟩
    exact ⟨of b, (h _).2 ⟨b, hb, rfl⟩⟩
  · rintro ⟨a, ha⟩
    obtain ⟨b, hb, -⟩ := (h a).1 ha
    exact ⟨b, hb⟩

theorem Row.shows_job (row : Row) :
    (∃ r : JobRow, row.Shows r.wire) ↔ ∃ j, row.job = .ok j :=
  isOk_iff fun _ => row.job_eq_ok

theorem Row.shows_attempt (row : Row) :
    (∃ r : AttemptRow, row.Shows r.wire) ↔ ∃ a, row.attempt = .ok a :=
  isOk_iff fun _ => row.attempt_eq_ok

theorem Row.shows_event (row : Row) :
    (∃ r : EventRow, row.Shows r.wire) ↔ ∃ e, row.event = .ok e :=
  isOk_iff fun _ => row.event_eq_ok

theorem Row.shows_worker (row : Row) :
    (∃ r : WorkerRow, row.Shows r.wire) ↔ ∃ b, row.heartbeat = .ok b :=
  isOk_iff fun _ => row.heartbeat_eq_ok

theorem Row.shows_count (row : Row) :
    (∃ counted, row.Shows (countWire counted)) ↔ ∃ x, row.count = .ok x :=
  isOk_iff fun _ => row.count_eq_ok

/-- What is made of a reading is there if the reading is. -/
theorem map_isOk {α β : Type} {f : α → β} {x : Reading α} :
    (∃ b, x.map f = .ok b) ↔ ∃ a, x = .ok a := by
  cases x <;> simp [Except.map]

/-- A list of rows is read if each of them is. -/
theorem mapM_isOk {α : Type} {read : Row → Reading α} {rows : List Row} :
    (∃ as, rows.mapM read = .ok as) ↔ ∀ row ∈ rows, ∃ a, read row = .ok a := by
  induction rows with
  | nil => simp [pure, Except.pure]
  | cons row rows ih =>
    simp only [List.mapM_cons, Reading.bind_eq_ok, List.forall_mem_cons, ← ih]
    constructor
    · rintro ⟨_, a, ha, as, has, -⟩
      exact ⟨⟨a, ha⟩, as, has⟩
    · rintro ⟨⟨a, ha⟩, as, has⟩
      exact ⟨a :: as, a, ha, as, has, rfl⟩

namespace Reply

/-- The server's code for the reason of a refusal. -/
def code? : Reply → Option String
  | refused code _ => some code
  | _ => none

/-- The statement failed, and not over a uniqueness or a check: it was refused with another code,
or the connection is gone. -/
def FailedOtherwise (r : Reply) : Prop :=
  r.succeeded = false ∧ r.code? ≠ some "23505" ∧ r.code? ≠ some "23514"

end Reply

/-! ## Kinds of errors -/

/-- What is sent without `ROLLBACK`, whose reply nobody waits for. -/
def heard (sent : List Sending) : List Sending := sent.filter fun x => x.1.role ≠ .rollback

/-- The operation sends nothing: the draft is incomplete, or the limit is zero. -/
def Rejected : StoreCall → Prop
  | .create draft => draft.isComplete = false
  | .list filter => filter.limit = 0
  | .listEvents _ limit => limit = 0
  | _ => False

/-- The kind of an operation's error is told by what it sent and heard, and tells it. -/
structure Classified {α : Type} (rejected : Prop) (sent : List Sending)
    (reply : Except StoreError α) : Prop where
  /-- Only the last statement that is heard can have failed. -/
  last : AllSucceeded (heard sent).dropLast
  /-- Input is rejected before anything is sent. -/
  early : rejected → sent = []
  /-- A violated uniqueness, or an insertion without a key that inserted nothing. -/
  conflict : (∃ detail, reply = .error (.conflict detail)) ↔
    ∃ x ∈ heard sent, x.2.code? = some "23505" ∨ x.1.isKeyless = true ∧ x.1.Missed x.2
  /-- A violated check, or input that is not sent on. -/
  validation : (∃ detail, reply = .error (.validation detail)) ↔
    rejected ∨ ∃ x ∈ heard sent, x.2.code? = some "23514"
  /-- A guarded change or a look-up of one job that hit none. -/
  notFound : (∃ detail, reply = .error (.notFound detail)) ↔
    ∃ x ∈ heard sent, x.1.isDecisive = true ∧ x.1.Missed x.2
  /-- Any other failure of a statement, or, if there is none, a row that cannot be read. -/
  storage : (∃ detail, reply = .error (.storage detail)) ↔
    (∃ x ∈ heard sent, x.2.FailedOtherwise) ∨
      AllSucceeded (heard sent) ∧ ∃ x ∈ heard sent, ¬ x.1.Legible x.2

/-! ## Explanations -/

/-- All statements succeeded, and hit something where they had to. -/
structure Steady (past : List Sending) : Prop where
  succeeded : AllSucceeded past
  met : ∀ x ∈ past, (x.1.isKeyless || x.1.isDecisive) = true → x.1.hits x.2 ≠ 0

/-- All rows that are read can be. -/
def AllLegible (past : List Sending) : Prop := ∀ x ∈ past, x.1.Legible x.2

/-- Nothing has failed so far, and no row that is still to be read will fail if `P` holds. -/
structure Standing (P : Prop) (past : List Sending) : Prop where
  steady : Steady past
  legible : AllLegible past ↔ P

/-- Why an exchange failed that heard this. -/
inductive Explains : List Sending → Failure → Prop
  | failed {past : List Sending} {s : Statement} {r : Reply} {f : Failure} (steady : Steady past)
      (no : Exchange.understood s r = .error f) : Explains (past ++ [(s, r)]) f
  | unread {past : List Sending} {fault : RowFault} (steady : Steady past)
      (bad : ¬ AllLegible past) : Explains past (.row fault)
  | keyless {past : List Sending} {s : Statement} {r : Reply} {detail : String}
      (standing : Standing True past) (kind : s.isKeyless = true) (missed : s.Missed r) :
      Explains (past ++ [(s, r)]) (.store (.conflict detail))
  | absent {past : List Sending} {s : Statement} {r : Reply} {detail : String}
      (standing : Standing True past) (kind : s.isDecisive = true) (missed : s.Missed r) :
      Explains (past ++ [(s, r)]) (.store (.notFound detail))

/-! ## What is heard -/

@[simp] theorem heard_nil : heard [] = [] := rfl

@[simp] theorem heard_append (t u : List Sending) : heard (t ++ u) = heard t ++ heard u :=
  List.filter_append t u

theorem heard_sending {s : Statement} (h : s.role ≠ .rollback) (r : Reply) :
    heard [(s, r)] = [(s, r)] := by
  simp [heard, h]

theorem heard_left {gone : Bool} {t : List Sending} (h : Exchange.Left gone t) : heard t = [] := by
  rcases h with ⟨-, rfl⟩ | ⟨-, r, rfl⟩ <;> rfl

namespace Standing

variable {P Q : Prop} {past : List Sending} {s : Statement} {r : Reply}

theorem nil : Standing True [] :=
  ⟨⟨by simp [AllSucceeded], by simp⟩, by simp [AllLegible]⟩

theorem congr (h : Standing P past) (hPQ : P ↔ Q) : Standing Q past :=
  ⟨h.steady, h.legible.trans hPQ⟩

/-- A statement that succeeds and hits what it has to brings rows that are to be read. -/
theorem concat (h : Standing P past) (yes : r.succeeded = true)
    (met : (s.isKeyless || s.isDecisive) = true → s.hits r ≠ 0) :
    Standing (P ∧ s.Legible r) (past ++ [(s, r)]) where
  steady :=
    ⟨allSucceeded_append.2 ⟨h.steady.succeeded, by simpa [AllSucceeded] using yes⟩,
      List.forall_mem_append.2 ⟨h.steady.met, by simpa using met⟩⟩
  legible := by
    simp [AllLegible, or_imp, forall_and, ← h.legible]

theorem allLegible_concat (h : Standing True past) (legible : s.Legible r) :
    AllLegible (past ++ [(s, r)]) :=
  List.forall_mem_append.2 ⟨h.legible.2 trivial, by simpa using legible⟩

/-- A statement that need not hit anything and brings no rows to read changes nothing. -/
theorem plain (h : Standing P past) (yes : r.succeeded = true)
    (free : (s.isKeyless || s.isDecisive) = false) (unread : ∀ row, s.Holds row) :
    Standing P (past ++ [(s, r)]) :=
  (h.concat yes fun must => absurd must (by simp [free])).congr
    (and_iff_left fun row _ => unread row)

/-- Neither does one that brings no rows at all. -/
theorem empty (h : Standing True past) (yes : r.succeeded = true)
    (free : (s.isKeyless || s.isDecisive) = false) (nothing : r.returned = []) :
    Standing True (past ++ [(s, r)]) := by
  refine (h.concat yes fun must => absurd must (by simp [free])).congr ?_
  simp [Statement.Legible, nothing, Statement.wanted_nil]

end Standing

/-! ## Kinds of failures -/

/-- What steady statements do not do, only the next one can have done. -/
theorem exists_concat {Q : Sending → Prop} {past : List Sending} {y : Sending}
    (none : ∀ x ∈ past, ¬ Q x) : (∃ x ∈ past ++ [y], Q x) ↔ Q y := by
  constructor
  · rintro ⟨x, hx, hQ⟩
    rcases List.mem_append.1 hx with hx | hx
    · exact absurd hQ (none x hx)
    · exact List.mem_singleton.1 hx ▸ hQ
  · exact fun hQ => ⟨y, List.mem_append_right _ (List.mem_singleton_self y), hQ⟩

theorem Reply.code?_of_succeeded {r : Reply} (yes : r.succeeded = true) : r.code? = none := by
  cases r <;> first | rfl | cases yes

namespace Steady

variable {past : List Sending} {x : Sending}

theorem code? (h : Steady past) (hx : x ∈ past) : x.2.code? = none :=
  Reply.code?_of_succeeded (h.succeeded x hx)

theorem not_failedOtherwise (h : Steady past) (hx : x ∈ past) : ¬ x.2.FailedOtherwise :=
  fun failed => absurd (h.succeeded x hx) (by simp [failed.1])

theorem not_keyless (h : Steady past) (hx : x ∈ past) :
    ¬(x.1.isKeyless = true ∧ x.1.Missed x.2) :=
  fun ⟨kind, missed⟩ => h.met x hx (by simp [kind]) missed.2

theorem not_absent (h : Steady past) (hx : x ∈ past) :
    ¬(x.1.isDecisive = true ∧ x.1.Missed x.2) :=
  fun ⟨kind, missed⟩ => h.met x hx (by simp [kind]) missed.2

end Steady

/-- The kind of a statement's failure is told by the code it was refused with, if any. -/
theorem toStore_failed {s : Statement} {r : Reply} {f : Failure}
    (no : Exchange.understood s r = .error f) :
    r.succeeded = false ∧
      ((∃ detail, f.toStore = .conflict detail) ↔ r.code? = some "23505") ∧
      ((∃ detail, f.toStore = .validation detail) ↔ r.code? = some "23514") ∧
      (∀ detail, f.toStore ≠ .notFound detail) ∧
      ((∃ detail, f.toStore = .storage detail) ↔ r.FailedOtherwise) := by
  cases r with
  | rows rows => cases no
  | affected n => cases no
  | broken => cases no; simp [Failure.toStore, Reply.code?, Reply.FailedOtherwise, Reply.succeeded]
  | closed => cases no; simp [Failure.toStore, Reply.code?, Reply.FailedOtherwise, Reply.succeeded]
  | refused code message =>
    cases no
    by_cases hconflict : code = "23505"
    · subst hconflict
      simp [Failure.toStore, Reply.code?, Reply.FailedOtherwise, Reply.succeeded]
    · by_cases hvalidation : code = "23514"
      · subst hvalidation
        simp [Failure.toStore, Reply.code?, Reply.FailedOtherwise, Reply.succeeded]
      · simp [Failure.toStore, Reply.code?, Reply.FailedOtherwise, Reply.succeeded, hconflict,
          hvalidation]

namespace Classified

variable {α : Type} {t past : List Sending} {s : Statement} {r : Reply}
  {reply : Except StoreError α}

/-- Where all statements are steady, only a row that cannot be read makes an error. -/
theorem of_steady (steady : Steady (heard t))
    (other : ∀ e, reply = .error e → ∃ detail, e = .storage detail)
    (storage : (∃ detail, reply = .error (.storage detail)) ↔ ¬ AllLegible (heard t)) :
    Classified False t reply where
  last := fun x hx => steady.succeeded x ((List.dropLast_sublist _).subset hx)
  early := nofun
  conflict := by
    refine iff_of_false (fun ⟨detail, h⟩ => nomatch other _ h) fun ⟨x, hx, h⟩ => ?_
    rcases h with h | h
    · cases (steady.code? hx).symm.trans h
    · exact steady.not_keyless hx h
  validation := by
    refine iff_of_false (fun ⟨detail, h⟩ => nomatch other _ h) ?_
    rintro (h | ⟨x, hx, h⟩)
    · exact h
    · cases (steady.code? hx).symm.trans h
  notFound :=
    iff_of_false (fun ⟨detail, h⟩ => nomatch other _ h)
      fun ⟨x, hx, h⟩ => steady.not_absent hx h
  storage := by
    refine storage.trans ⟨fun bad => .inr ⟨steady.succeeded, by simpa [AllLegible] using bad⟩, ?_⟩
    rintro (⟨x, hx, h⟩ | ⟨-, x, hx, h⟩)
    · exact absurd h (steady.not_failedOtherwise hx)
    · exact fun legible => h (legible x hx)

/-- Where all statements but the last are steady, the last one makes the error. -/
theorem of_last (ht : heard t = past ++ [(s, r)]) (steady : Steady past)
    (conflict : (∃ detail, reply = .error (.conflict detail)) ↔
      r.code? = some "23505" ∨ s.isKeyless = true ∧ s.Missed r)
    (validation : (∃ detail, reply = .error (.validation detail)) ↔ r.code? = some "23514")
    (notFound : (∃ detail, reply = .error (.notFound detail)) ↔ s.isDecisive = true ∧ s.Missed r)
    (storage : (∃ detail, reply = .error (.storage detail)) ↔ r.FailedOtherwise)
    (legible : r.succeeded = true → AllLegible (heard t)) : Classified False t reply where
  last := by
    rw [ht, List.dropLast_concat]
    exact steady.succeeded
  early := nofun
  conflict := by
    rw [conflict, ht, exists_concat (Q := fun x => x.2.code? = some "23505" ∨
      x.1.isKeyless = true ∧ x.1.Missed x.2)]
    rintro x hx (h | h)
    · cases (steady.code? hx).symm.trans h
    · exact steady.not_keyless hx h
  validation := by
    rw [validation, ht, false_or, exists_concat (Q := fun x => x.2.code? = some "23514")]
    exact fun x hx h => nomatch (steady.code? hx).symm.trans h
  notFound := by
    rw [notFound, ht, exists_concat (Q := fun x => x.1.isDecisive = true ∧ x.1.Missed x.2)]
    exact fun x hx h => steady.not_absent hx h
  storage := by
    have failed : (∃ x ∈ heard t, x.2.FailedOtherwise) ↔ r.FailedOtherwise := by
      rw [ht, exists_concat (Q := fun x => x.2.FailedOtherwise)]
      exact fun x hx h => steady.not_failedOtherwise hx h
    rw [storage, failed]
    -- no row is to blame: if the last statement succeeded, all that is to be read can be
    refine (or_iff_left fun ⟨yes, x, hx, bad⟩ => bad ?_).symm
    exact legible (yes (s, r) (ht ▸ List.mem_append_right _ (List.mem_singleton_self _))) x hx

/-- An explained failure is reported with the kind that its reason asks for. -/
theorem of_explains {f : Failure} (h : Explains (heard t) f) :
    Classified False t (.error f.toStore : Except StoreError α) := by
  generalize ht : heard t = all at h
  cases h with
  | @failed past s r f steady no =>
    obtain ⟨failed, conflict, validation, notFound, storage⟩ := toStore_failed no
    refine .of_last ht steady ?_ ?_ ?_ ?_ fun yes => absurd yes (by simp [failed])
    · simp [conflict, Statement.Missed, failed]
    · simp [validation]
    · simp [notFound, Statement.Missed, failed]
    · simp [storage]
  | unread steady bad =>
    subst ht
    exact .of_steady steady (fun e he => ⟨_, (Except.error.inj he).symm⟩)
      (iff_of_true ⟨_, rfl⟩ bad)
  | @keyless past s r detail standing kind missed =>
    have other : s.isDecisive = false := by cases s <;> first | rfl | cases kind
    refine .of_last ht standing.steady ?_ ?_ ?_ ?_ fun _ => ht ▸
      standing.allLegible_concat (Statement.legible_of_missed (by simp [kind]) missed)
    · simp [Failure.toStore, kind, missed]
    · simp [Failure.toStore, Reply.code?_of_succeeded missed.1]
    · simp [Failure.toStore, other]
    · simp [Failure.toStore, Reply.FailedOtherwise, missed.1]
  | @absent past s r detail standing kind missed =>
    have other : s.isKeyless = false := by cases s <;> first | rfl | cases kind
    refine .of_last ht standing.steady ?_ ?_ ?_ ?_ fun _ => ht ▸
      standing.allLegible_concat (Statement.legible_of_missed (by simp [kind]) missed)
    · simp [Failure.toStore, other, Reply.code?_of_succeeded missed.1]
    · simp [Failure.toStore, Reply.code?_of_succeeded missed.1]
    · simp [Failure.toStore, kind, missed]
    · simp [Failure.toStore, Reply.FailedOtherwise, missed.1]

end Classified

namespace Exchange

variable {α β : Type} {past : List Sending} {s : Statement} {P : Prop}

/-! ## Rules -/

/-- An exchange that goes on after what was heard ends with `post`, or its failure is explained. -/
def Explained (past : List Sending) (e : Attempted α) (post : List Sending → α → Prop) : Prop :=
  ∀ ⦃t x⦄, Runs e t x →
    (∀ a, x = .ok a → post (past ++ heard t) a) ∧ ∀ f, x = .error f → Explains (past ++ heard t) f

/-- The body of a transaction that goes on after what was heard: all is well before `COMMIT`, and
what is abandoned ends with `post` at once. -/
def Concluded (past : List Sending) (body : Exchange (Verdict α))
    (post : List Sending → α → Prop) : Prop :=
  ∀ ⦃t v⦄, Runs body t v →
    match v with
    | .commit a => Standing True (past ++ heard t) ∧ ∀ past', Standing True past' → post past' a
    | .abandon a => post (past ++ heard t) a
    | .fail f => Explains (past ++ heard t) f

/-- Nothing has failed and nothing is left to read. -/
def Clean (past : List Sending) (_ : α) : Prop := Standing True past

/-- What is heard is longer by a statement that succeeded, and this is what it brought. -/
def Answered (past : List Sending) (s : Statement) (value : Reply → β) (past' : List Sending)
    (b : β) : Prop :=
  ∃ r : Reply, r.succeeded = true ∧ past' = past ++ [(s, r)] ∧ b = value r

namespace Explained

variable {post : List Sending → α → Prop} {mid : List Sending → β → Prop}

theorem done {a : α} (h : post past a) : Explained past (done (.ok a)) post := by
  intro t x run
  obtain ⟨rfl, rfl⟩ := runs_done.1 run
  exact ⟨fun a' ha => by cases ha; simpa using h, nofun⟩

theorem error {f : Failure} (h : Explains past f) :
    Explained past (Exchange.done (.error f)) post := by
  intro t x run
  obtain ⟨rfl, rfl⟩ := runs_done.1 run
  exact ⟨nofun, fun f' hf => by cases hf; simpa using h⟩

/-- One exchange after another. -/
theorem andThen {e : Attempted β} {k : β → Attempted α} (h : Explained past e mid)
    (hk : ∀ past' b, mid past' b → Explained past' (k b) post) :
    Explained past (andThen e k) post := by
  intro t x run
  rcases runs_andThen.1 run with ⟨t₁, b, t₂, rfl, hfirst, hrest⟩ | ⟨f, hfirst, rfl⟩
  · have rest := hk _ b ((h hfirst).1 b rfl) hrest
    rw [heard_append, ← List.append_assoc]
    exact rest
  · exact ⟨nofun, fun f' hf => by cases hf; exact (h hfirst).2 f rfl⟩

/-- A statement that is heard succeeds, or it is the reason of a failure. -/
theorem ask (hs : s.role ≠ .rollback) (standing : Standing P past) :
    Explained past (ask s) (Answered past s id) := by
  intro t x run
  obtain ⟨r, rfl, rfl⟩ := runs_ask.1 run
  rw [heard_sending hs]
  rcases understood_cases s r with ⟨yes, -, hu⟩ | ⟨f, -, hu, -⟩
  · rw [hu]
    exact ⟨fun a ha => by cases ha; exact ⟨r, yes, rfl, rfl⟩, nofun⟩
  · rw [hu]
    exact ⟨nofun, fun f' hf => by cases hf; exact .failed standing.steady hu⟩

/-- A statement whose success is read off its reply. -/
theorem understood {k : Reply → Attempted β} {value : Reply → β} (hs : s.role ≠ .rollback)
    (standing : Standing P past) (hk : ∀ r, k r = Exchange.done (.ok (value r))) :
    Explained past (Exchange.andThen (Exchange.ask s) k) (Answered past s value) := by
  refine .andThen (.ask hs standing) fun past' r answered => ?_
  obtain ⟨r, yes, rfl, rfl⟩ := answered
  show Explained _ (k r) _
  rw [hk r]
  exact .done ⟨r, yes, rfl, rfl⟩

theorem execute (hs : s.role ≠ .rollback) (standing : Standing P past) :
    Explained past (execute s) (Answered past s Reply.count) :=
  .understood hs standing fun r => by cases r <;> rfl

theorem query (hs : s.role ≠ .rollback) (standing : Standing P past) :
    Explained past (query s) (Answered past s Reply.returned) :=
  .understood hs standing fun r => by cases r <;> rfl

/-- Rows that cannot be read are the reason of a failure if they are among those to be read. -/
theorem reading {r : Reading α} (standing : Standing P past) (reads : P → ∃ a, r = .ok a) :
    Explained past (reading r) fun past' a => r = .ok a ∧ Standing P past' := by
  cases r with
  | ok a => exact .done ⟨rfl, standing⟩
  | error fault =>
    refine .error (.unread standing.steady fun legible => ?_)
    obtain ⟨a, ha⟩ := reads (standing.legible.1 legible)
    cases ha

/-- A transaction, if its body is concluded whatever `BEGIN` adds to what was heard. -/
theorem transaction {body : Exchange (Verdict α)} (standing : Standing True past)
    (h : ∀ past', Standing True past' → Concluded past' body post) :
    Explained past (transaction body) post := by
  refine .andThen (.ask (by decide) standing) fun past' r answered => ?_
  obtain ⟨b, yes, rfl, rfl⟩ := answered
  have begun := standing.plain (s := .begin_) yes rfl fun _ => trivial
  intro t x run
  obtain ⟨t₁, v, t₂, rfl, ran, hend⟩ := runs_bind.1 run
  have concluded := h _ begun ran
  rw [heard_append, ← List.append_assoc]
  -- however the transaction is left, nothing more is heard than `COMMIT`
  cases v with
  | fail f =>
    obtain ⟨rfl, leaving⟩ := runs_failed hend
    rw [heard_left leaving, List.append_nil]
    exact ⟨nofun, fun f' hf => by cases hf; exact concluded⟩
  | abandon a =>
    obtain ⟨rfl, leaving⟩ := runs_rolledBack hend
    rw [heard_left leaving, List.append_nil]
    exact ⟨fun a' ha => by cases ha; exact concluded, nofun⟩
  | commit a =>
    obtain ⟨_, y, t₃, rfl, hcommit, hlast⟩ := runs_bind.1 hend
    have committing := Explained.ask (s := .commit) (by decide) concluded.1 hcommit
    rw [heard_append, ← List.append_assoc]
    cases y with
    | ok r =>
      obtain ⟨r', yes', hpast, -⟩ := committing.1 r rfl
      obtain ⟨rfl, rfl⟩ := runs_done.1 hlast
      rw [hpast, heard_nil, List.append_nil]
      exact ⟨fun a' ha => by
        cases ha
        exact concluded.2 _ (concluded.1.plain yes' rfl fun _ => trivial), nofun⟩
    | error f =>
      obtain ⟨rfl, leaving⟩ := runs_failed hlast
      rw [heard_left leaving, List.append_nil]
      exact ⟨nofun, fun f' hf => by cases hf; exact committing.2 f rfl⟩

end Explained

namespace Concluded

variable {post : List Sending → α → Prop}

theorem abandon {a : α} (h : post past a) : Concluded past (done (.abandon a)) post := by
  intro t v run
  obtain ⟨rfl, rfl⟩ := runs_done.1 run
  simpa using h

/-- To commit what an exchange makes. -/
theorem toCommit {e : Attempted α} {mid : List Sending → α → Prop} (h : Explained past e mid)
    (ends : ∀ past' a, mid past' a →
      Standing True past' ∧ ∀ past', Standing True past' → post past' a) :
    Concluded past (toCommit e) post := by
  intro t v run
  rcases runs_toCommit run with ⟨a, ran, rfl⟩ | ⟨f, ran, rfl⟩
  · exact ends _ a ((h ran).1 a rfl)
  · exact (h ran).2 f rfl

theorem toCommit_clean {e : Attempted α} (h : Explained past e Clean) :
    Concluded past (Exchange.toCommit e) Clean :=
  .toCommit h fun _ _ clean => ⟨clean, fun _ clean => clean⟩

/-- A statement first, and then what its rows lead to. -/
theorem query {k : Except Failure (List Row) → Exchange (Verdict α)} (hs : s.role ≠ .rollback)
    (standing : Standing P past) (hk : ∀ f, k (.error f) = done (.fail f))
    (h : ∀ r : Reply, r.succeeded = true → Concluded (past ++ [(s, r)]) (k (.ok r.returned)) post) :
    Concluded past ((query s).bind k) post := by
  intro t v run
  obtain ⟨t₁, y, t₂, rfl, hquery, hrest⟩ := runs_bind.1 run
  have asked := Explained.query hs standing hquery
  rw [heard_append, ← List.append_assoc]
  cases y with
  | ok rows =>
    obtain ⟨r, yes, hpast, rfl⟩ := asked.1 rows rfl
    rw [hpast]
    exact h r yes hrest
  | error f =>
    rw [hk] at hrest
    obtain ⟨rfl, rfl⟩ := runs_done.1 hrest
    rw [heard_nil, List.append_nil]
    exact asked.2 f rfl

end Concluded

end Exchange

end Dispatch.Postgres
