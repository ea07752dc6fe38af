import Dispatch.Proofs.Lists
import Dispatch.Proofs.Queue.Hall
import Mathlib.Data.List.Perm.Basic

/-!
# No entry and no bell is missed

Two invariants of a hall.  `Hall.Accounted` says where the entries are: whoever comes to the ready
list and whenever they are interrupted, every entry that was pushed was taken, removed or is still
there, and entries are taken in the order in which they were pushed.  `Hall.Awake` says that nobody
waits in vain: who waits registered before looking at the list and found it empty, so an entry that
is there now was pushed since, and its bell has woken them or is still to be rung.
-/

namespace Dispatch

namespace Hall

/-! ## Entries -/

/-- When a visitor changes, so does what the visitors make up together. -/
theorem count_flatMap_set {visits : List Visit} {i : Nat} {v : Visit}
    (there : visits[i]? = some v) (f : Visit → List JobId) (w : Visit) (id : JobId) :
    ((visits.set i w).flatMap f).count id + (f v).count id =
      (visits.flatMap f).count id + (f w).count id := by
  obtain ⟨front, back, hvisits, hset⟩ := exists_around there
  rw [hset w, hvisits]
  simp only [List.flatMap_append, List.flatMap_cons, List.count_append]
  omega

/-- What somebody does to the entries: some are pushed, taken and removed by it. -/
structure Effect (a next : Hall) (v w : Visit) (ins outs gone : List JobId) : Prop where
  pushed : next.pushed = a.pushed ++ ins
  entered : w.entered = v.entered ++ ins
  taken : next.taken = a.taken ++ outs
  got : w.got = v.got ++ outs
  dropped : w.dropped = v.dropped ++ gone
  visits : next.visits = a.visits
  balance : ∀ id, a.queue.ready.count id + ins.count id =
    outs.count id + gone.count id + next.queue.ready.count id
  order : (outs ++ next.queue.ready.reverse).Sublist (a.queue.ready.reverse ++ ins)

/-- Who neither pushes nor takes nor removes does nothing to the entries. -/
theorem Effect.idle {a next : Hall} {v w : Visit} (pushed : next.pushed = a.pushed)
    (taken : next.taken = a.taken) (queue : next.queue = a.queue) (visits : next.visits = a.visits)
    (entered : w.entered = v.entered) (got : w.got = v.got) (dropped : w.dropped = v.dropped) :
    Effect a next v w [] [] [] := by
  refine ⟨?_, ?_, ?_, ?_, ?_, visits, ?_, ?_⟩
  · rw [pushed, List.append_nil]
  · rw [entered, List.append_nil]
  · rw [taken, List.append_nil]
  · rw [got, List.append_nil]
  · rw [dropped, List.append_nil]
  · intro id
    rw [queue]
    simp
  · rw [queue, List.nil_append, List.append_nil]

/-- Of the entries of a list those of one job are as many as are counted, and the rest is left. -/
theorem count_remove (q : LeaseQueue) (id k : JobId) :
    q.ready.count k =
      (List.replicate (q.remove id).1 id).count k + (q.remove id).2.ready.count k := by
  show _ = (List.replicate (q.ready.count id) id).count k + (q.ready.filter (· ≠ id)).count k
  rw [List.count_replicate]
  by_cases hk : id = k
  · subst hk
    have hgone : (q.ready.filter (· ≠ id)).count id = 0 := by simp [List.count_eq_zero]
    rw [hgone]
    simp
  · rw [List.count_filter (by simpa using Ne.symm hk)]
    simp [hk]

theorem Acts.effect {a next : Hall} {v w : Visit} (acts : Acts a v w next) :
    ∃ ins outs gone, Effect a next v w ins outs gone := by
  cases acts with
  | push id =>
    refine ⟨[id], [], [], rfl, rfl, by simp, rfl, rfl, rfl, fun k => ?_, ?_⟩
    · simp only [LeaseQueue.enqueue, List.count_cons, List.count_nil]
      omega
    · simp [LeaseQueue.enqueue]
  | remove id =>
    refine ⟨[], [], List.replicate (a.queue.remove id).1 id, by simp, rfl, by simp, rfl, rfl, rfl,
      fun k => ?_, ?_⟩
    · have hcount := count_remove a.queue id k
      simp only [List.count_nil]
      omega
    · rw [List.append_nil, List.nil_append]
      exact List.filter_sublist.reverse
  | @take timeout since stage id front looks found =>
    refine ⟨[], [id], [], by simp, rfl, rfl, ?_, rfl, rfl, fun k => ?_, ?_⟩
    · cases looks <;> rfl
    · simp only [found, List.count_append, List.count_nil]
      omega
    · simp [found]
  | leave looks empty late =>
    refine ⟨[], [], [], .idle rfl rfl rfl rfl rfl ?_ rfl⟩
    cases looks <;> rfl
  | rest v => exact ⟨[], [], [], .idle rfl rfl rfl rfl rfl rfl rfl⟩
  | notify id => exact ⟨[], [], [], .idle rfl rfl rfl rfl rfl rfl rfl⟩
  | register timeout since => exact ⟨[], [], [], .idle rfl rfl rfl rfl rfl rfl rfl⟩
  | park patient empty => exact ⟨[], [], [], .idle rfl rfl rfl rfl rfl rfl rfl⟩
  | wake rung => exact ⟨[], [], [], .idle rfl rfl rfl rfl rfl rfl rfl⟩
  | expire due => exact ⟨[], [], [], .idle rfl rfl rfl rfl rfl rfl rfl⟩

/-- Where the entries are that were pushed. -/
structure Accounted (h : Hall) : Prop where
  pushed : ∀ id, h.pushed.count id = (h.visits.flatMap Visit.entered).count id
  taken : ∀ id, h.taken.count id = (h.visits.flatMap Visit.got).count id
  balance : ∀ id, h.pushed.count id =
    h.taken.count id + (h.visits.flatMap Visit.dropped).count id + h.queue.ready.count id
  order : (h.taken ++ h.queue.ready.reverse).Sublist h.pushed

namespace Accounted

variable {a b : Hall}

theorem opened (now : Time) (ttl : Span) : (opened now ttl).Accounted :=
  ⟨fun _ => rfl, fun _ => rfl, fun _ => rfl, List.Sublist.refl []⟩

/-- Somebody who has just come has nothing yet. -/
theorem come (h : a.Accounted) {v : Visit} (comes : Comes a.now v) : (a.welcome v).Accounted := by
  obtain ⟨hentered, hgot, hdropped⟩ : v.entered = [] ∧ v.got = [] ∧ v.dropped = [] := by
    cases comes <;> exact ⟨rfl, rfl, rfl⟩
  refine ⟨fun id => ?_, fun id => ?_, fun id => ?_, h.order⟩
  · simpa [welcome, hentered] using h.pushed id
  · simpa [welcome, hgot] using h.taken id
  · simpa [welcome, hdropped] using h.balance id

/-- Whatever a visitor does, the accounts are kept. -/
theorem act (h : a.Accounted) {i : Nat} {v w : Visit} {next : Hall}
    (there : a.visits[i]? = some v) (acts : Acts a v w next) : (next.put i w).Accounted := by
  obtain ⟨ins, outs, gone, e⟩ := acts.effect
  rw [← e.visits] at there
  refine ⟨fun id => ?_, fun id => ?_, fun id => ?_, ?_⟩
  · have hset := count_flatMap_set there Visit.entered w id
    have hold := h.pushed id
    rw [e.entered, List.count_append, e.visits] at hset
    show next.pushed.count id = ((next.visits.set i w).flatMap Visit.entered).count id
    rw [e.pushed, List.count_append, e.visits]
    omega
  · have hset := count_flatMap_set there Visit.got w id
    have hold := h.taken id
    rw [e.got, List.count_append, e.visits] at hset
    show next.taken.count id = ((next.visits.set i w).flatMap Visit.got).count id
    rw [e.taken, List.count_append, e.visits]
    omega
  · have hset := count_flatMap_set there Visit.dropped w id
    have hold := h.balance id
    have hbalance := e.balance id
    rw [e.dropped, List.count_append, e.visits] at hset
    show next.pushed.count id = next.taken.count id +
      ((next.visits.set i w).flatMap Visit.dropped).count id + next.queue.ready.count id
    rw [e.pushed, e.taken, List.count_append, List.count_append, e.visits]
    omega
  · show (next.taken ++ next.queue.ready.reverse).Sublist next.pushed
    rw [e.pushed, e.taken, List.append_assoc]
    refine (e.order.append_left a.taken).trans ?_
    rw [← List.append_assoc]
    exact h.order.append_right ins

theorem moves (moves : a.Moves b) (h : a.Accounted) : b.Accounted := by
  cases moves with
  | stay => exact h
  | come comes => exact h.come comes
  | act there acts => exact h.act there acts
  | pass span => exact ⟨h.pushed, h.taken, h.balance, h.order⟩

end Accounted

/-! ## Bells -/

/-- Somebody has pushed an entry and not yet rung the bell. -/
def Ringing (h : Hall) : Prop := ∃ id, .enqueue id .notify ∈ h.visits

/-- What is true of everybody: who registered did so when the bell had been rung no more often than
it has been by now; who waits has time, and there is a bell for them if there is an entry; and who
looks for the last time does so when the time is up. -/
def Sensible (h : Hall) : Visit → Prop
  | .dequeue _ _ (.check seen) => seen ≤ h.bells
  | .dequeue timeout _ (.wait seen) => timeout ≠ .zero ∧ seen ≤ h.bells ∧
      (seen < h.bells ∨ h.queue.ready = [] ∨ h.Ringing)
  | .dequeue timeout since .lastCheck => timeout ≠ .zero ∧ since + timeout ≤ h.now
  | _ => True

/-- Everybody is sensible. -/
def Awake (h : Hall) : Prop := ∀ v ∈ h.visits, h.Sensible v

/-- What is true of somebody stays true as long as no entry comes without a bell. -/
theorem Sensible.mono {a b : Hall} {v : Visit} (h : a.Sensible v) (now : a.now ≤ b.now)
    (bells : a.bells ≤ b.bells)
    (heard : a.bells < b.bells ∨ b.Ringing ∨
      ((a.queue.ready = [] → b.queue.ready = []) ∧ (a.Ringing → b.Ringing))) :
    b.Sensible v := by
  unfold Sensible at h ⊢
  split
  · rename_i seen
    exact Nat.le_trans h bells
  · rename_i timeout since seen
    obtain ⟨hpatient, hseen, hbell⟩ := h
    refine ⟨hpatient, Nat.le_trans hseen bells, ?_⟩
    rcases heard with hrung | hringing | ⟨hready, hringing⟩
    · exact .inl (by omega)
    · exact .inr (.inr hringing)
    · rcases hbell with hbell | hbell | hbell
      · exact .inl (by omega)
      · exact .inr (.inl (hready hbell))
      · exact .inr (.inr (hringing hbell))
  · rename_i timeout since
    obtain ⟨hpatient, hdue⟩ := h
    exact ⟨hpatient, Int.le_trans hdue now⟩
  · trivial

/-- Who is there and does not change stays. -/
theorem mem_set_of_ne {visits : List Visit} {i : Nat} {u v w : Visit}
    (there : visits[i]? = some v) (hu : u ∈ visits) (hne : u ≠ v) : u ∈ visits.set i w := by
  obtain ⟨front, back, rfl, hset⟩ := exists_around there
  rw [hset w]
  rcases List.mem_append.1 hu with hu | hu
  · exact List.mem_append_left _ hu
  · rcases List.mem_cons.1 hu with rfl | hu
    · exact absurd rfl hne
    · exact List.mem_append_right _ (List.mem_cons_of_mem w hu)

theorem mem_set_self {visits : List Visit} {i : Nat} {v : Visit} (there : visits[i]? = some v)
    (w : Visit) : w ∈ visits.set i w := by
  obtain ⟨front, back, -, hset⟩ := exists_around there
  rw [hset w]
  exact List.mem_append_right _ List.mem_cons_self

namespace Awake

variable {a b : Hall}

theorem opened (now : Time) (ttl : Span) : (opened now ttl).Awake :=
  fun _ hv => absurd hv List.not_mem_nil

/-- Whatever a visitor does, no entry comes without a bell. -/
theorem heard {i : Nat} {v w : Visit} {next : Hall} (there : a.visits[i]? = some v)
    (acts : Acts a v w next) :
    a.bells < (next.put i w).bells ∨ (next.put i w).Ringing ∨
      ((a.queue.ready = [] → (next.put i w).queue.ready = []) ∧
        (a.Ringing → (next.put i w).Ringing)) := by
  -- who is about to ring the bell still is, unless it is this visitor
  have hstill : next.visits = a.visits → (∀ id, v ≠ .enqueue id .notify) →
      a.Ringing → (next.put i w).Ringing := by
    rintro hvisits hother ⟨id, hid⟩
    refine ⟨id, ?_⟩
    show _ ∈ next.visits.set i w
    rw [hvisits]
    exact mem_set_of_ne there hid (Ne.symm (hother id))
  cases acts with
  | push id => exact .inr (.inl ⟨id, mem_set_self there _⟩)
  | notify id => exact .inl (Nat.lt_succ_self a.bells)
  | remove id =>
    refine .inr (.inr ⟨fun hempty => ?_, hstill rfl fun id => Visit.noConfusion⟩)
    show a.queue.ready.filter _ = []
    rw [hempty]
    rfl
  | take looks found =>
    refine .inr (.inr ⟨fun hempty => ?_, hstill rfl fun id => Visit.noConfusion⟩)
    simp [hempty] at found
  | rest v =>
    have hsame : a.put i v = a := by
      obtain ⟨front, back, hvisits, hset⟩ := exists_around there
      show { a with visits := a.visits.set i v } = a
      rw [hset v, ← hvisits]
    rw [hsame]
    exact .inr (.inr ⟨id, id⟩)
  | register timeout since => exact .inr (.inr ⟨id, hstill rfl fun id => Visit.noConfusion⟩)
  | leave looks empty late => exact .inr (.inr ⟨id, hstill rfl fun id => Visit.noConfusion⟩)
  | park patient empty => exact .inr (.inr ⟨id, hstill rfl fun id => Visit.noConfusion⟩)
  | wake rung => exact .inr (.inr ⟨id, hstill rfl fun id => Visit.noConfusion⟩)
  | expire due => exact .inr (.inr ⟨id, hstill rfl fun id => Visit.noConfusion⟩)

theorem act (h : a.Awake) {i : Nat} {v w : Visit} {next : Hall}
    (there : a.visits[i]? = some v) (acts : Acts a v w next) : (next.put i w).Awake := by
  have hheard := heard there acts
  obtain ⟨hvisits, hnow, hbells⟩ :
      next.visits = a.visits ∧ next.now = a.now ∧ a.bells ≤ next.bells := by
    cases acts <;> simp
  have hv : a.Sensible v := h v (List.mem_of_getElem? there)
  intro u hu
  change u ∈ next.visits.set i w at hu
  rw [hvisits] at hu
  have hmono : ∀ x, a.Sensible x → (next.put i w).Sensible x := fun x hx =>
    hx.mono (Int.le_of_eq (congrArg Time.nanos hnow.symm)) hbells hheard
  rcases List.mem_or_eq_of_mem_set hu with hu | rfl
  · exact hmono u (h u hu)
  · cases acts with
    | rest v => exact hmono _ hv
    | register timeout since => exact Nat.le_refl a.bells
    | park patient empty => exact ⟨patient, hv, .inr (.inl empty)⟩
    | expire due => exact ⟨hv.1, due⟩
    | _ => trivial

theorem moves (moves : a.Moves b) (h : a.Awake) : b.Awake := by
  cases moves with
  | stay => exact h
  | @come v comes =>
    have hringing : a.Ringing → (a.welcome v).Ringing := fun ⟨id, hid⟩ =>
      ⟨id, List.mem_append_left _ hid⟩
    intro u hu
    rcases List.mem_append.1 hu with hu | hu
    · exact (h u hu).mono (Int.le_refl _) (Nat.le_refl _) (.inr (.inr ⟨id, hringing⟩))
    · rw [List.mem_singleton.1 hu]
      cases comes <;> trivial
  | act there acts => exact h.act there acts
  | pass span =>
    intro u hu
    exact (h u hu).mono (a.now.le_add span) (Nat.le_refl _) (.inr (.inr ⟨id, id⟩))

/-- Who comes away with nothing has just found the list empty, with no time to wait or no time
left. -/
theorem returned_none (moves : a.Moves b) (h : a.Awake) {i : Nat} {timeout : Span} {since : Time}
    (before : a.visits[i]? ≠ some (.dequeue timeout since (.returned none)))
    (after : b.visits[i]? = some (.dequeue timeout since (.returned none))) :
    a.queue.ready = [] ∧ b.queue = a.queue ∧ (timeout ≠ .zero → since + timeout ≤ a.now) := by
  cases moves with
  | stay => exact absurd after before
  | pass span => exact absurd after before
  | @come v comes =>
    change (a.visits ++ [v])[i]? = _ at after
    rcases Nat.lt_or_ge i a.visits.length with hi | hi
    · rw [List.getElem?_append_left hi] at after
      exact absurd after before
    · have hmem := List.mem_of_getElem? ((List.getElem?_append_right hi).symm.trans after)
      rw [← List.mem_singleton.1 hmem] at comes
      cases comes
  | @act k v w next there acts =>
    change (next.visits.set k w)[i]? = _ at after
    have hvisits : next.visits = a.visits := by
      cases acts <;> rfl
    rw [hvisits] at after
    by_cases hk : k = i
    · subst hk
      obtain rfl : w = .dequeue timeout since (.returned none) := by
        rw [List.getElem?_set_self' , there] at after
        exact Option.some.inj after
      cases acts with
      | rest v => exact absurd there before
      | leave looks empty late =>
        refine ⟨empty, rfl, fun hpatient => ?_⟩
        have hv := h _ (List.mem_of_getElem? there)
        rcases late with rfl | hzero
        · exact hv.2
        · exact absurd hzero hpatient
    · rw [List.getElem?_set_ne hk] at after
      exact absurd after before

end Awake

end Hall

end Dispatch
