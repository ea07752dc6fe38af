import Dispatch.Proofs.Floor.Stamps

/-!
# What holds on the floor at any time

`Floor.Sound` is what every action keeps, whoever acts and whatever happens besides: the calls of
the history are a life of the store, every lane's state says what it has done since its last poll,
every poll that returned returned what was done, and no stamp has happened twice or is still owed
after it has happened.

The last of these is what keeps executions apart.  Stamps that have happened and stamps that are
owed are counted in one list, the book, and an action only moves stamps about in it, except for a
start, whose three stamps are new because the store has never opened the attempt before.
-/

namespace Dispatch

/-! ## The calls in a history -/

/-- The call that a note is about. -/
def Note.dealing : Note → Option Dealing
  | dealt _ d => some d
  | _ => none

/-- The calls to the store, oldest first. -/
def dealingsOf (history : List Note) : List Dealing := history.filterMap (·.dealing)

/-- The stamps that have happened, oldest first. -/
def stampsOf (history : List Note) : List Stamp := history.filterMap (·.stamp)

section History

variable {i : Nat} {history : List Note} {id : JobId} {n : Int}

theorem Note.stamp_eq_opened {note : Note} :
    note.stamp = some (.opened id n) ↔ ∃ d, note.dealing = some d ∧ d.opens = some (id, n) := by
  cases note with
  | dealt agent d =>
    unfold stamp dealing
    cases hopens : d.opens with
    | none =>
      cases d.call.commits <;> simp [hopens]
    | some key => simp [hopens, Prod.ext_iff]
  | handed agent job answer => simp [stamp, dealing]
  | polled agent config result => simp [stamp, dealing]

/-- An attempt is stamped as opened if a call has opened it. -/
theorem mem_stampsOf_opened :
    .opened id n ∈ stampsOf history ↔ (id, n) ∈ openings (dealingsOf history) := by
  simp only [stampsOf, openings, dealingsOf, List.mem_filterMap, Note.stamp_eq_opened]
  constructor
  · rintro ⟨note, hnote, d, hd, hopens⟩
    exact ⟨d, ⟨note, hnote, hd⟩, hopens⟩
  · rintro ⟨d, ⟨note, hnote, hd⟩, hopens⟩
    exact ⟨note, hnote, d, hd, hopens⟩

theorem deedsOf_append (notes : List Note) :
    deedsOf i (history ++ notes) = notes.foldl (noted i) (deedsOf i history) :=
  List.foldl_append

theorem noted_other {deeds : List Note} {note : Note} (h : note.agent ≠ i) :
    noted i deeds note = deeds := by
  simp [noted, h]

/-- The notes of others do not concern an agent's deeds. -/
theorem deedsOf_others {notes : List Note} (h : ∀ note ∈ notes, note.agent ≠ i) :
    deedsOf i (history ++ notes) = deedsOf i history := by
  rw [deedsOf_append]
  induction notes generalizing history with
  | nil => rfl
  | cons note rest ih =>
    rw [List.foldl_cons, noted_other (h note List.mem_cons_self)]
    exact ih fun x hx => h x (List.mem_cons_of_mem note hx)

theorem noted_sublist (deeds : List Note) (note : Note) :
    (noted i deeds note).Sublist (deeds ++ [note]) := by
  unfold noted
  split
  · split
    · split
      · exact List.sublist_append_left _ _
      · exact List.Sublist.refl _
    · exact List.Sublist.refl _
    · exact List.nil_sublist _
  · exact List.sublist_append_left _ _

/-- An agent's deeds are in the history, in their order. -/
theorem deedsOf_sublist (i : Nat) (history : List Note) :
    (deedsOf i history).Sublist history := by
  induction history using List.reverseRecOn with
  | nil => exact List.nil_sublist _
  | append_singleton history note ih =>
    rw [deedsOf_append]
    exact (noted_sublist _ note).trans (ih.append_right [note])

end History

/-! ## The invariant -/

/-- The attempt that a stamp is about has been opened. -/
def Stamp.opening : Stamp → Stamp
  | opened id n | handed id n | committed id n => .opened id n

/-- The note is what the history before it lets one expect. -/
def Note.Told (past : List Note) : Note → Prop
  | dealt _ _ => True
  | handed i job _ => ∃ config d, Began config job d ∧ .dealt i d ∈ past
  | polled i config result => Concluded i config (deedsOf i past) result

namespace Does

variable {i : Nat} {now : Time} {s s' : Store} {a a' : Agent} {notes history : List Note}

/-- An agent's notes are its own, and it leaves one at most. -/
theorem notes_eq (h : Does i now s a notes s' a') :
    notes = [] ∨ ∃ note, notes = [note] ∧ note.agent = i := by
  cases h with
  | dealt step m => exact .inr ⟨_, rfl, rfl⟩
  | handed step answer => exact .inr ⟨_, rfl, rfl⟩
  | silent step going => exact .inl rfl
  | returned step ended => exact .inr ⟨_, rfl, rfl⟩

theorem agent_eq (h : Does i now s a notes s' a') : ∀ note ∈ notes, note.agent = i := by
  intro note hnote
  rcases h.notes_eq with rfl | ⟨n, rfl, hagent⟩
  · cases hnote
  · rw [List.mem_singleton.1 hnote]
    exact hagent

/-- The store lives on through what an agent does. -/
theorem lived (h : Does i now s a notes s' a') {past : List Dealing} (hlived : Lived past s) :
    Lived (past ++ dealingsOf notes) s' := by
  cases h with
  | @dealt call k step m => exact hlived.deal m call
  | handed step answer => simpa [dealingsOf, Note.dealing] using hlived
  | silent step going => simpa [dealingsOf] using hlived
  | returned step ended => simpa [dealingsOf, Note.dealing] using hlived

/-- What an agent does is what its deeds so far let one expect. -/
theorem told (h : Does i now s a notes s' a') (hkeeps : a.Keeps i (deedsOf i history)) :
    ∀ note ∈ notes, note.Told history := by
  intro note hnote
  rcases h.notes_eq with rfl | ⟨n, rfl, -⟩
  · cases hnote
  · obtain rfl := List.mem_singleton.1 hnote
    cases note with
    | dealt j d => trivial
    | handed j job answer =>
      obtain ⟨rfl, config, d, hbegan, hmem⟩ := h.began hkeeps
      exact ⟨config, d, hbegan, (deedsOf_sublist j history).subset hmem⟩
    | polled j config result =>
      obtain ⟨rfl, hconcluded⟩ := h.concluded hkeeps
      exact hconcluded

end Does

namespace Floor

/-- The stamps that have happened, and those that are owed. -/
def book (f : Floor) : List Stamp := stampsOf f.history ++ f.agents.flatMap (·.owes)

/-- What holds on the floor at any time. -/
structure Sound (f : Floor) : Prop where
  lived : Lived (dealingsOf f.history) f.store
  staffed : ∀ note ∈ f.history, note.agent < f.agents.length
  keeps : ∀ (i : Nat) (a : Agent), f.agents[i]? = some a → a.Keeps i (deedsOf i f.history)
  once : f.book.Nodup
  rooted : ∀ x ∈ f.book, x.opening ∈ stampsOf f.history
  told : ∀ past note later, f.history = past ++ note :: later → note.Told past

namespace Sound

variable {f : Floor}

/-- Only time, the queue and the shutdown channel are different. -/
theorem same {g : Floor} (h : f.Sound) (store : g.store = f.store) (agents : g.agents = f.agents)
    (history : g.history = f.history) : g.Sound where
  lived := by
    rw [history, store]
    exact h.lived
  staffed := by
    rw [history, agents]
    exact h.staffed
  keeps := by
    rw [history, agents]
    exact h.keeps
  once := by
    rw [book, history, agents]
    exact h.once
  rooted := by
    rw [book, history, agents]
    exact h.rooted
  told := by
    rw [history]
    exact h.told

/-- An agent that comes has done nothing yet. -/
theorem welcome (h : f.Sound) {a : Agent} (hkeeps : ∀ i, a.Keeps i []) (howes : a.owes = []) :
    (f.welcome a).Sound where
  lived := h.lived
  staffed note hnote := by
    have := h.staffed note hnote
    simp only [Floor.welcome, List.length_append, List.length_singleton]
    omega
  keeps i b hb := by
    rcases Nat.lt_trichotomy i f.agents.length with hi | rfl | hi
    · refine h.keeps i b ?_
      rwa [Floor.welcome, List.getElem?_append_left hi] at hb
    · have hnone : deedsOf f.agents.length f.history = [] :=
        @deedsOf_others _ [] _ fun note hnote => Nat.ne_of_lt (h.staffed note hnote)
      obtain rfl : a = b := by simpa [Floor.welcome] using hb
      exact hnone ▸ hkeeps _
    · rw [Floor.welcome, List.getElem?_eq_none (by simp; omega)] at hb
      cases hb
  once := by
    have hbook : (f.welcome a).book = f.book := by simp [book, Floor.welcome, howes]
    rw [hbook]
    exact h.once
  rooted := by
    have hbook : (f.welcome a).book = f.book := by simp [book, Floor.welcome, howes]
    rw [hbook]
    exact h.rooted
  told := h.told

/-- The book around one of the agents. -/
theorem book_perm {f g : Floor} {i : Nat} {a a' : Agent} {notes : List Note}
    (ha : f.agents[i]? = some a) (agents : g.agents = f.agents.set i a')
    (history : g.history = f.history ++ notes) :
    ∃ rest, f.book.Perm (a.owes ++ rest) ∧ g.book.Perm (stampsOf notes ++ (a'.owes ++ rest)) := by
  obtain ⟨front, back, hfront, hset⟩ := exists_around ha
  refine ⟨stampsOf f.history ++ (front.flatMap (·.owes) ++ back.flatMap (·.owes)), ?_, ?_⟩
  · rw [book, hfront, List.perm_iff_count]
    intro x
    simp only [List.flatMap_append, List.flatMap_cons, List.count_append]
    omega
  · rw [book, agents, hset, history, List.perm_iff_count]
    intro x
    simp only [stampsOf, List.filterMap_append, List.flatMap_append, List.flatMap_cons,
      List.count_append]
    omega

section Book

variable {notes : List Note} {old new before after rest : List Stamp}

/-- What is turned is counted once if it was, and the start of an attempt brings stamps that are
new if the attempt is. -/
theorem nodup_turned (turned : Turned notes before after) (hbefore : old.Perm (before ++ rest))
    (hafter : new.Perm (stampsOf notes ++ (after ++ rest)))
    (fresh : ∀ id n, stampsOf notes = [.opened id n] → ∀ x ∈ rest, x.opening ≠ .opened id n)
    (once : old.Nodup) : new.Nodup := by
  rw [hafter.nodup_iff]
  rw [hbefore.nodup_iff] at once
  rcases turned with rfl | ⟨id, n, hnotes, rfl, rfl⟩
  -- the stamps are the same ones in another order
  · rwa [List.append_assoc] at once
  · have hnew := fresh id n hnotes
    have hopened : .opened id n ∉ rest := fun hmem => hnew _ hmem rfl
    have hhanded : .handed id n ∉ rest := fun hmem => hnew _ hmem rfl
    have hcommitted : .committed id n ∉ rest := fun hmem => hnew _ hmem rfl
    rw [stampsOf, hnotes]
    simp [hopened, hhanded, hcommitted, show rest.Nodup from once]

/-- What is in the book was in it before, or is about an attempt that was just started. -/
theorem rooted_turned (turned : Turned notes before after) (hbefore : old.Perm (before ++ rest))
    (hafter : new.Perm (stampsOf notes ++ (after ++ rest))) {x : Stamp} (hx : x ∈ new) :
    x ∈ old ∨ x.opening ∈ stampsOf notes := by
  rw [hafter.mem_iff] at hx
  rw [hbefore.mem_iff]
  rcases turned with rfl | ⟨id, n, hnotes, rfl, rfl⟩
  · rw [List.append_assoc]
    exact .inl hx
  · rw [stampsOf, hnotes] at hx ⊢
    simp only [List.mem_append, List.mem_cons, List.not_mem_nil, or_false] at hx
    rcases hx with rfl | (rfl | rfl) | hx
    · exact .inr List.mem_cons_self
    · exact .inr List.mem_cons_self
    · exact .inr List.mem_cons_self
    · exact .inl hx

end Book

/-- Whatever an agent does, its deeds and the book stay in order. -/
theorem act (h : f.Sound) (i : Nat) (chance : Chance) : (f.act i chance).Sound := by
  rcases f.act_cases i chance with hsame | ⟨a, notes, s', a', ha, does, agents, store, history⟩
  · rw [hsame]
    exact h
  have hkeeps := h.keeps i a ha
  have hi : i < f.agents.length := (List.getElem?_eq_some_iff.1 ha).1
  have hlived : Lived (dealingsOf (f.act i chance).history) (f.act i chance).store := by
    rw [history, store, dealingsOf, List.filterMap_append]
    exact does.lived h.lived
  obtain ⟨rest, hbefore, hafter⟩ := book_perm ha agents history
  -- an attempt that starts was never opened, so the book has nothing of it yet
  have hfresh : ∀ id n, stampsOf notes = [.opened id n] → ∀ x ∈ rest, x.opening ≠ .opened id n := by
    intro id n hnew x hx hopening
    have hroot := h.rooted x (hbefore.mem_iff.2 (List.mem_append_right _ hx))
    rw [hopening, mem_stampsOf_opened] at hroot
    have hopened : (id, n) ∈ openings (dealingsOf notes) :=
      mem_stampsOf_opened.1 (hnew ▸ List.mem_singleton_self _)
    have honce := hlived.nodup_openings
    rw [history, dealingsOf, List.filterMap_append, openings, List.filterMap_append] at honce
    exact (List.nodup_append.1 honce).2.2 _ hroot _ hopened rfl
  refine ⟨hlived, ?_, ?_, ?_, ?_, ?_⟩
  · intro note hnote
    rw [history] at hnote
    rw [agents, List.length_set]
    rcases List.mem_append.1 hnote with hold | hnew
    · exact h.staffed note hold
    · rw [does.agent_eq note hnew]
      exact hi
  · intro j b hb
    rw [agents, List.getElem?_set] at hb
    rw [history]
    split at hb
    · rename_i hij
      subst hij
      obtain rfl : a' = b := by simpa [hi] using hb
      rw [deedsOf_append]
      exact does.keeps h.lived.orderly hkeeps
    · rename_i hij
      rw [deedsOf_others fun note hnote => does.agent_eq note hnote ▸ hij]
      exact h.keeps j b hb
  · exact nodup_turned (does.stamps h.lived.orderly hkeeps) hbefore hafter hfresh h.once
  · intro x hx
    rw [history, stampsOf, List.filterMap_append]
    rcases rooted_turned (does.stamps h.lived.orderly hkeeps) hbefore hafter hx with hold | hnew
    · exact List.mem_append_left _ (h.rooted x hold)
    · exact List.mem_append_right _ hnew
  · intro past note later hpast
    rw [history] at hpast
    rcases does.notes_eq with rfl | ⟨last, rfl, -⟩
    · exact h.told past note later (by simpa using hpast)
    · rcases append_cons_eq_snoc.1 hpast.symm with ⟨rfl, rfl, -⟩ | ⟨mid, -, hpast⟩
      · exact does.told hkeeps note List.mem_cons_self
      · exact h.told past note mid hpast

theorem step (h : f.Sound) (action : Action) : (f.step action).Sound := by
  cases action with
  | act i chance => exact h.act i chance
  | wait span => exact h.same rfl rfl rfl
  | hire config => exact h.welcome (fun _ => rfl) rfl
  | maintain config => exact h.welcome (fun _ => trivial) rfl
  | reconcile config => exact h.welcome (fun _ => trivial) rfl
  | ask request => exact h.welcome (fun _ => request.quiet_script) rfl
  | signal stop => exact h.same rfl rfl rfl
  | meddle queue => exact h.same rfl rfl rfl

end Sound

/-- An empty floor. -/
theorem sound_empty (now : Time) : (empty now).Sound where
  lived := .born
  staffed := by simp [empty]
  keeps := by simp [empty]
  once := List.nodup_nil
  rooted := by simp [empty, book, stampsOf]
  told := by simp [empty]

/-- Whatever is on the schedule of an empty floor. -/
theorem sound_run (now : Time) (schedule : List Action) :
    ((empty now).run schedule).Sound := by
  have hstart := sound_empty now
  revert hstart
  generalize empty now = f
  induction schedule generalizing f with
  | nil => exact id
  | cons action rest ih => exact fun h => ih (f.step action) (h.step action)

end Floor

end Dispatch
