import Dispatch.Proofs.Store.History

/-!
# The row of an attempt, from its opening on

Once a call has opened an attempt, its row is the row of an open attempt until the first call that
ends it, and what that call made of it ever after (`Lived.row`, `Lived.settled`).
-/

namespace Dispatch

theorem StoreCall.verdict_of_ends {c : StoreCall} {r : c.Reply} {id : JobId} {n : Int}
    (h : c.Ends id n r) : ∃ v, c.verdict = some v := by
  cases c <;> first | exact ⟨_, rfl⟩ | exact h.elim

namespace Lived

variable {past rest earlier mid : List Dealing} {d : Dealing} {s t : Store} {id : JobId} {n : Int}

/-- An attempt that was opened is not opened again. -/
theorem opens_ne (h : Lived (past ++ [d]) s) (opened : (id, n) ∈ openings past) :
    d.opens ≠ some (id, n) := by
  intro hopens
  have honce := h.nodup_openings
  rw [openings_snoc, hopens] at honce
  exact (List.nodup_append.1 honce).2.2 _ opened _ (by simp) rfl

/-- The row of an attempt that is not running does not change any more. -/
theorem settled (h : Lived (past ++ rest) s) (hpast : Lived past t)
    (opened : (id, n) ∈ openings past) (ended : ¬ t.Runs id n) :
    ¬ s.Runs id n ∧ s.attempts.get? (id, n) = t.attempts.get? (id, n) := by
  induction rest using List.reverseRecOn generalizing s with
  | nil =>
    rw [List.append_nil] at h
    rw [h.unique hpast]
    exact ⟨ended, rfl⟩
  | append_singleton rest e ih =>
    rw [← List.append_assoc] at h
    obtain ⟨hbefore, rfl⟩ := h.snoc_inv
    obtain ⟨hover, hrow⟩ := ih hbefore
    have heffect := hbefore.effect e.moment e.call
    have hne : e.opens ≠ some (id, n) := h.opens_ne (by
      rw [openings, List.filterMap_append]
      exact List.mem_append_left _ opened)
    refine ⟨fun hruns => ?_, ?_⟩
    · rcases (heffect.runs id n).1 hruns with hopens | ⟨hstill, -⟩
      · exact hne hopens
      · exact hover hstill
    · rw [← hrow]
      exact heffect.kept id n hne fun hended => hover hended.1

/-- The row of an attempt is that of an open attempt while the attempt runs, and what the call that
ended the attempt made of it afterwards. -/
theorem row (h : Lived (earlier ++ d :: rest) s) (opens : d.opens = some (id, n)) :
    (s.Runs id n ∧ s.attempts.get? (id, n) = some (.opened id n d.moment.now)) ∨
      (¬ s.Runs id n ∧ ∃ mid e later v, rest = mid ++ e :: later ∧
        Underway (earlier ++ d :: mid) id n ∧ e.Ends id n ∧ e.call.verdict = some v ∧
        s.attempts.get? (id, n) = some (v.close e.moment.now (.opened id n d.moment.now))) := by
  induction rest using List.reverseRecOn generalizing s with
  | nil =>
    obtain ⟨hbefore, rfl⟩ := h.snoc_inv
    have heffect := hbefore.effect d.moment d.call
    exact .inl ⟨(heffect.runs id n).2 (.inl opens), heffect.entered id n opens⟩
  | append_singleton rest e ih =>
    rw [← List.cons_append, ← List.append_assoc] at h
    obtain ⟨hbefore, rfl⟩ := h.snoc_inv
    have heffect := hbefore.effect e.moment e.call
    have hne : e.opens ≠ some (id, n) :=
      h.opens_ne (List.mem_filterMap.2 ⟨d, by simp, opens⟩)
    rcases ih hbefore with ⟨hruns, hrow⟩ |
      ⟨hover, mid, c, later, v, rfl, hunderway, hends, hv, hrow⟩
    · by_cases hends : e.Ends id n
      · obtain ⟨v, hv⟩ := StoreCall.verdict_of_ends hends
        have hunderway := hbefore.underway_iff.2 hruns
        refine .inr ⟨fun hstill => ?_, rest, e, [], v, rfl, hunderway, hends, hv, ?_⟩
        · rcases (heffect.runs id n).1 hstill with hopens | ⟨-, hnot⟩
          · exact hne hopens
          · exact hnot hends
        · rw [Dealing.after, heffect.closed id n hruns hends v hv, hrow]
          rfl
      · refine .inl ⟨(heffect.runs id n).2 (.inr ⟨hruns, hends⟩), ?_⟩
        rw [← hrow]
        exact heffect.kept id n hne fun hended => hends hended.2
    · refine .inr ⟨fun hstill => ?_, mid, c, later ++ [e], v, by simp, hunderway, hends, hv, ?_⟩
      · rcases (heffect.runs id n).1 hstill with hopens | ⟨hruns, -⟩
        · exact hne hopens
        · exact hover hruns
      · rw [← hrow]
        exact heffect.kept id n hne fun hended => hover hended.1

end Lived

/-! ## Commits -/

namespace Dealing

variable {d : Dealing} {id : JobId} {n : Int}

/-- The call took the running attempt away from its worker, for a reason with a code. -/
def Takes (c : Dealing) (id : JobId) (n : Int) (code : FailureCode) (reason : String) : Prop :=
  c.Ends id n ∧ ((c.call = .cancel id reason ∧ code = .cancelled) ∨
    ((∃ staleAfter, c.call = .requeueOrphaned staleAfter) ∧ code = .workerLost ∧
      reason = Store.workerLostNote))

/-- A commit opens nothing. -/
theorem opens_of_commits {key : JobId × Int} (h : d.call.commits = some key) :
    d.opens = none := by
  obtain ⟨s, m, c⟩ := d
  cases c <;> first | rfl | cases h

/-- A commit that succeeds ends its attempt. -/
theorem ends_of_commits (h : d.call.commits = some (id, n)) (taken : d.error = none) :
    d.Ends id n := by
  obtain ⟨s, m, c⟩ := d
  unfold error at taken
  unfold Ends
  generalize reply _ = reply at taken ⊢
  cases c with
  | succeed | fail =>
    cases h
    cases reply with
    | ok _ => exact ⟨rfl, rfl⟩
    | error e => cases taken
  | _ => cases h

/-- What ends an attempt without committing it takes it away. -/
theorem takes_of_ends {v : Store.Verdict} (h : d.Ends id n)
    (uncommitted : d.call.commits ≠ some (id, n)) (hv : d.call.verdict = some v) :
    ∃ code reason, v = .broken code reason ∧ d.Takes id n code reason := by
  have hends := h
  obtain ⟨s, m, c⟩ := d
  unfold Ends at hends
  generalize reply _ = reply at hends
  cases c with
  | succeed | fail =>
    cases reply with
    | ok _ =>
      obtain ⟨rfl, rfl⟩ := hends
      exact absurd rfl uncommitted
    | error e => exact hends.elim
  | cancel job reason =>
    cases hv
    cases reply with
    | ok after =>
      obtain rfl : job = id := hends
      exact ⟨_, _, rfl, h, .inl ⟨rfl, rfl⟩⟩
    | error e => exact hends.elim
  | requeueOrphaned staleAfter =>
    cases hv
    exact ⟨_, _, rfl, h, .inr ⟨⟨staleAfter, rfl⟩, rfl, rfl⟩⟩
  | _ => cases hv

end Dealing

/-- The attempts that calls were to commit. -/
def commitsOf (past : List Dealing) : List (JobId × Int) := past.filterMap (·.call.commits)

namespace Lived

variable {earlier mid later : List Dealing} {d e : Dealing} {s : Store} {id : JobId} {n : Int}

/-- A commit that is taken stays in the row. -/
theorem row_committed (h : Lived (earlier ++ d :: (mid ++ e :: later)) s)
    (opens : d.opens = some (id, n)) (commits : e.call.commits = some (id, n))
    (taken : e.error = none) {v : Store.Verdict} (hv : e.call.verdict = some v) :
    s.attempts.get? (id, n) = some (v.close e.moment.now (.opened id n d.moment.now)) := by
  rw [← List.cons_append, ← List.append_assoc] at h
  have hbefore := h.before_of_append
  have hruns := (e.commit commits).1.1 taken
  have hends := e.ends_of_commits commits taken
  have heffect := hbefore.effect e.moment e.call
  -- the commit found the row open, since it found the attempt running
  obtain ⟨-, hopen⟩ | ⟨hover, -⟩ := hbefore.row opens
  · have hclosed := heffect.closed id n hruns hends v hv
    have hover : ¬ e.after.Runs id n := by
      intro hstill
      rcases (heffect.runs id n).1 hstill with hopens | ⟨-, hnot⟩
      · rw [show (Dealing.mk e.before e.moment e.call).opens = none from e.opens_of_commits commits]
          at hopens
        cases hopens
      · exact hnot hends
    rw [List.append_cons] at h
    have hafter : Lived (earlier ++ d :: mid ++ [e]) e.after := hbefore.deal e.moment e.call
    have hopened : (id, n) ∈ openings (earlier ++ d :: mid ++ [e]) :=
      List.mem_filterMap.2 ⟨d, by simp, opens⟩
    rw [(h.settled hafter hopened hover).2, Dealing.after, hclosed, hopen]
    rfl
  · exact absurd hruns hover

/-- An attempt whose commit is refused was taken away, if it is committed only once. -/
theorem row_taken (h : Lived (earlier ++ d :: (mid ++ e :: later)) s)
    (once : (commitsOf (earlier ++ d :: (mid ++ e :: later))).Nodup)
    (opens : d.opens = some (id, n)) (commits : e.call.commits = some (id, n))
    (refused : e.error ≠ none) :
    ∃ c ∈ mid, ∃ code reason, c.Takes id n code reason ∧
      s.attempts.get? (id, n) =
        some ((Attempt.opened id n d.moment.now).fail code reason c.moment.now) ∧
      e.before.attempts.get? (id, n) = s.attempts.get? (id, n) := by
  rw [← List.cons_append, ← List.append_assoc] at h once
  have hbefore := h.before_of_append
  -- somebody else ended the attempt before the commit came
  obtain ⟨hruns, -⟩ | ⟨hover, mid, c, later', v, rfl, -, hends, hv, hrow⟩ := hbefore.row opens
  · exact absurd ((e.commit commits).1.2 hruns) refused
  · have huncommitted : c.call.commits ≠ some (id, n) := by
      intro hc
      rw [commitsOf, List.filterMap_append] at once
      refine (List.nodup_append.1 once).2.2 (id, n) ?_ (id, n) ?_ rfl
      · exact List.mem_filterMap.2 ⟨c, by simp, hc⟩
      · exact List.mem_filterMap.2 ⟨e, List.mem_cons_self, commits⟩
    obtain ⟨code, reason, rfl, htakes⟩ := Dealing.takes_of_ends hends huncommitted hv
    have hopened : (id, n) ∈ openings (earlier ++ d :: (mid ++ c :: later')) :=
      List.mem_filterMap.2 ⟨d, by simp, opens⟩
    have hsame := (h.settled hbefore hopened hover).2
    exact ⟨c, by simp, code, reason, htakes, hsame.trans hrow, hsame.symm⟩

end Lived

end Dispatch
