import Dispatch.Time.Instant

/-!
# Alarms

An alarm goes off at an instant and keeps its place among all alarms that were ever set: those for
one instant go off in the order in which they were set, however long before that was.
-/

namespace Dispatch

/-- An alarm.  Of two alarms the one with the smaller ticket was set first. -/
structure Alarm where
  due : Time
  ticket : Nat
deriving DecidableEq, Repr

namespace Alarm

/-- The alarm has gone off. -/
def isDue (a : Alarm) (now : Time) : Bool := a.due ≤ now

/-- The ticket of the first of some alarms that have gone off. -/
def firstDue? (now : Time) (alarms : List Alarm) : Option Nat :=
  ((alarms.filter (·.isDue now)).map ticket).min?

end Alarm

end Dispatch
