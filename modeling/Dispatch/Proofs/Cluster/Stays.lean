import Dispatch.Cluster.Work
import Dispatch.Proofs.Cluster.Alone

/-!
# What a cluster is like while time passes

Time moves only when nobody can go on, so between two moves the cluster stays as it is.  `watch`
does work to its end, as `carryOut` does (`watch_result`), and notes down every stay.

A machine that is alone in a cluster makes its way by turns: it goes on until it waits for some
alarms, the cluster stays until the first of them goes off, and the machine goes on from there
(`Watched.rests`), until it ends (`Watched.ended`).
-/

namespace Dispatch

/-- How a cluster is from its instant on until a later one. -/
structure Stay where
  cluster : Cluster
  ends : Time

/-- The stays follow each other from an instant to a later one, without a gap. -/
inductive Covers : Time → List Stay → Time → Prop
  | none (t : Time) : Covers t [] t
  | cons (stay : Stay) {stays : List Stay} {stop : Time} (forward : stay.cluster.now < stay.ends)
      (rest : Covers stay.ends stays stop) : Covers stay.cluster.now (stay :: stays) stop

namespace Cluster

variable {α σ ρ : Type}

/-- Do work to its end, and note down the stays on the way. -/
def watch : Nat → Work α → Cluster → Option (List Stay × α × Cluster)
  | 0, _, _ => none
  | rounds + 1, w, c =>
    let (w, c) := w.advance c
    let c := c.wake.drain stride
    match w.result? with
    | some a => some ([], a, c)
    | none =>
      if w.canAdvance c then watch rounds w c
      else
        match earliest? (w.deadlines ++ c.parked.flatMap (·.wait.alarms.map (·.due))) with
        | none => none
        | some due =>
          let ends := if c.now < due then due else c.now
          (watch rounds w (c.moveTo ends)).map fun told => (⟨c, ends⟩ :: told.1, told.2)

/-- Given rounds enough, the work comes to its end after these stays. -/
def Watched (w : Work α) (c : Cluster) (stays : List Stay) (result : α) (last : Cluster) : Prop :=
  ∃ least, ∀ rounds, least ≤ rounds → watch rounds w c = some (stays, result, last)

/-! ## Nobody else is there -/

/-- No member runs or waits. -/
structure Quiet (c : Cluster) : Prop where
  ready : c.ready = []
  parked : c.parked = []

namespace Quiet

variable {c : Cluster}

theorem wake (h : c.Quiet) : c.wake = c := by
  obtain ⟨now, store, queue, alarms, pushes, storeFaults, queueFaults, coins, crews, ready,
    parked⟩ := c
  obtain ⟨rfl, rfl⟩ := h
  rfl

theorem drain (h : c.Quiet) (fuel : Nat) : c.drain fuel = c := by
  cases fuel with
  | zero => rfl
  | succ fuel => rw [Cluster.drain, h.ready]

theorem moveTo (h : c.Quiet) (t : Time) : c.moveTo t = { c with now := t } := by
  obtain ⟨now, store, queue, alarms, pushes, storeFaults, queueFaults, coins, crews, ready,
    parked⟩ := c
  obtain ⟨rfl, rfl⟩ := h
  simp [Cluster.moveTo]

end Quiet

namespace Watched

variable {next : Time → σ → Next σ ρ} {r r' : Running σ} {c c' last : Cluster} {result : ρ}
  {stays : List Stay}

theorem ended (run : r.run next stride c = (.ended result, c')) (quiet : c'.Quiet) :
    Watched (.run next r .done) c [] result c' := by
  refine ⟨1, fun rounds hrounds => ?_⟩
  obtain ⟨rounds, rfl⟩ := Nat.exists_eq_add_of_le' hrounds
  have hadvance : (Work.run next r .done).advance c = (.done result, c') := by
    rw [Work.advance, run]
    rfl
  rw [watch, hadvance]
  dsimp only
  rw [quiet.wake, quiet.drain]
  rfl

theorem rests {alarms : List Alarm} {due : Time}
    (run : r.run next stride c = (.resting (r'.waiting (.alarm alarms)), c')) (quiet : c'.Quiet)
    (silent : ¬ alarms.any (·.isDue c'.now) = true)
    (first : earliest? (alarms.map (·.due)) = some due) (ahead : c'.now < due)
    (later : Watched (.run next (r'.waiting (.alarm alarms)) .done) { c' with now := due } stays
      result last) : Watched (.run next r .done) c (⟨c', due⟩ :: stays) result last := by
  obtain ⟨least, hleast⟩ := later
  refine ⟨least + 1, fun rounds hrounds => ?_⟩
  obtain ⟨rounds, rfl⟩ := Nat.exists_eq_add_of_le' hrounds
  have hadvance : (Work.run next r .done).advance c =
      (.run next (r'.waiting (.alarm alarms)) .done, c') := by
    rw [Work.advance, run]
  have hstuck : (Work.run next (r'.waiting (.alarm alarms)) .done).canAdvance c' = false :=
    Bool.not_eq_true _ ▸ silent
  have hdeadlines : (Work.run next (r'.waiting (.alarm alarms)) .done).deadlines ++
      c'.parked.flatMap (·.wait.alarms.map (·.due)) = alarms.map (·.due) := by
    rw [quiet.parked]
    exact List.append_nil _
  rw [← Nat.add_assoc, watch, hadvance]
  dsimp only
  rw [quiet.wake, quiet.drain]
  dsimp only [Work.result?]
  rw [hstuck, hdeadlines, first]
  simp only [if_pos ahead, quiet.moveTo]
  rw [hleast _ (Nat.le_add_left ..)]
  rfl

end Watched

end Cluster

end Dispatch
