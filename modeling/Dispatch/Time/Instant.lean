import Dispatch.Time.Calendar
import Dispatch.Time.Span

/-!
# Instants

An instant is a number of nanoseconds since the start of 1970, UTC, on a clock on which every day
has 86400 seconds.  Clocks, deadlines and cutoffs are instants.
-/

namespace Dispatch

/-- A point on the time line. -/
structure Time where
  nanos : Int
deriving DecidableEq, Repr, Inhabited

namespace Time

instance : LE Time := ⟨fun a b => a.nanos ≤ b.nanos⟩
instance : LT Time := ⟨fun a b => a.nanos < b.nanos⟩
instance (a b : Time) : Decidable (a ≤ b) := inferInstanceAs (Decidable (a.nanos ≤ b.nanos))
instance (a b : Time) : Decidable (a < b) := inferInstanceAs (Decidable (a.nanos < b.nanos))

/-- The instant a span later. -/
def add (t : Time) (s : Span) : Time := ⟨t.nanos + s.nanos⟩

instance : HAdd Time Span Time := ⟨add⟩

/-- The span from `s` to `t`, zero if `t` is the earlier one. -/
def since (t s : Time) : Span := ⟨(t.nanos - s.nanos).toNat⟩

/-- The first year of the calendar in use. -/
def firstYear : Int := -262143

/-- The last year of the calendar in use. -/
def lastYear : Int := 262142

/-- The start of the first year, before which there is no instant. -/
def earliest : Time := ⟨Calendar.Date.toDays ⟨firstYear, 1, 1⟩ * 86400000000000⟩

/-- The end of the last year, from which on there is no instant. -/
def horizon : Time := ⟨Calendar.Date.toDays ⟨lastYear + 1, 1, 1⟩ * 86400000000000⟩

/-- The instant a span earlier, the earliest one if there is none. -/
def backBy (t : Time) (s : Span) : Time :=
  ⟨max earliest.nanos (t.nanos - s.nanos)⟩

theorem le_antisymm {a b : Time} (h : a ≤ b) (h' : b ≤ a) : a = b :=
  congrArg Time.mk (Int.le_antisymm h h')

theorem le_add (t : Time) (s : Span) : t ≤ t + s := by
  show t.nanos ≤ t.nanos + s.nanos
  omega

theorem since_add (t : Time) (s : Span) : (t + s).since t = s := by
  refine congrArg Span.mk ?_
  show (t.nanos + s.nanos - t.nanos).toNat = s.nanos
  omega

/-- The end of a clock that counts seconds in a signed 64-bit word from the start of 1970 on: the
first instant that it does not have. -/
def clockEnd : Time := ⟨9223372036854775808 * 1000000000⟩

/-- Whole seconds since the start of 1970. -/
def seconds (t : Time) : Int := t.nanos / 1000000000

/-- Nanoseconds since the start of the second. -/
def fraction (t : Time) : Nat := (t.nanos % 1000000000).toNat

/-- Whole seconds since the start of the day. -/
def secondOfDay (t : Time) : Nat := (t.seconds % 86400).toNat

/-- The day. -/
def date (t : Time) : Calendar.Date := .ofDays (t.seconds / 86400)

end Time

end Dispatch
