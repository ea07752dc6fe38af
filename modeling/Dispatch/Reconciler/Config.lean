import Dispatch.Time.Span

/-!
# How the reconciler behaves
-/

namespace Dispatch

/-- The settings of the reconciler. -/
structure ReconcilerConfig where
  /-- The time between two passes; zero means no passes at all. -/
  interval : Span := .ofSeconds 15
  /-- How long a worker may be silent before its job counts as orphaned. -/
  staleAfter : Span := .ofSeconds 60
  /-- The page size of the sweep. -/
  batch : Nat := 500
deriving DecidableEq, Repr, Inhabited

end Dispatch
