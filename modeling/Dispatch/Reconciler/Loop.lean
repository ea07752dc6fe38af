import Dispatch.Reconciler.Pass

/-!
# The life of the reconciler

The first pass is made at once, the next ones an interval apart, until the process is to stop.
News on the shutdown channel that do not ask to stop neither trigger nor move a pass.
-/

namespace Dispatch

/-- Where the reconciler is. -/
inductive ReconcilerStage where
  | opening
  /-- Setting the alarm for the next pass. -/
  | scheduling (due : Time)
  | waiting (alarm : Alarm)
  /-- News came while waiting. -/
  | noticing (alarm : Alarm)
  /-- The pass is due. -/
  | deciding (due : Time)
  | passing (due : Time) (pass : Pass)
  | gone

/-- A reconciler. -/
structure Reconciler where
  config : ReconcilerConfig
  /-- The last value of the shutdown channel that it has taken notice of. -/
  seen : Nat := 0
  stage : ReconcilerStage := .opening

namespace Reconciler

/-- The reconciler in the given state of a pass. -/
def ofPass (r : Reconciler) (due : Time) (p : Pass) : Reconciler :=
  { r with stage := .passing due p }

/-- What the reconciler does next. -/
def next (now : Time) (r : Reconciler) : Next Reconciler Unit :=
  match r.stage with
  | .opening =>
    if r.config.interval = .zero then .finished ()
    else .go { r with stage := .scheduling now }
  | .scheduling due => .arm due fun alarm => { r with stage := .waiting alarm }
  | .waiting alarm => .await alarm r.seen fun
    | none => { r with stage := .deciding alarm.due }
    | some news => { r with seen := news, stage := .noticing alarm }
  | .noticing alarm => .look fun
    | true => { r with stage := .gone }
    | false => { r with stage := .waiting alarm }
  | .deciding due => .look fun
    | true => { r with stage := .gone }
    | false => { r with stage := .passing due {} }
  | .passing due pass =>
    (pass.next r.config now).lift (r.ofPass due)
      fun _ => .go { r with stage := .scheduling (due + r.config.interval) }
  | .gone => .finished ()

end Reconciler

end Dispatch
