import Dispatch.Time.Instant

/-!
# Timestamps

Clocks have no leap seconds, but records may state a time inside one: the second that is numbered
sixty and follows the fifty-ninth of its minute.  A timestamp is an instant, or the time that lies
one second later inside the leap second behind it.  Leap seconds come before the next minute in
the order of timestamps, and on instants order and difference are those of the instants
(`ofTime_lt_ofTime`, `since_ofTime`).
-/

namespace Dispatch

/-- An instant, or the time one second later inside a leap second, which only the end of a minute
has. -/
structure Timestamp where
  time : Time
  leap : Bool := false
  endsMinute : leap = true → time.secondOfDay % 60 = 59 := by simp
deriving DecidableEq, Repr

namespace Timestamp

/-- The timestamp of an instant. -/
def ofTime (t : Time) : Timestamp := { time := t }

instance : Coe Time Timestamp := ⟨ofTime⟩

instance : Inhabited Timestamp := ⟨ofTime default⟩

/-- The instant, or the time in the leap second behind it unless its minute goes on. -/
def of? (time : Time) (leap : Bool) : Option Timestamp :=
  if h : leap = true → time.secondOfDay % 60 = 59 then some ⟨time, leap, h⟩ else none

/-- Nanoseconds since the start of the instant's second. -/
def fraction (t : Timestamp) : Nat := t.time.fraction + if t.leap then 1000000000 else 0

/-- Earlier in the order of seconds, with leap seconds in their places. -/
def Before (a b : Timestamp) : Prop :=
  a.time.seconds < b.time.seconds ∨
    (a.time.seconds = b.time.seconds ∧ a.fraction < b.fraction)

instance (a b : Timestamp) : Decidable (a.Before b) := inferInstanceAs (Decidable (_ ∨ _))

instance : LT Timestamp := ⟨Before⟩
instance : LE Timestamp := ⟨fun a b => ¬b.Before a⟩
instance (a b : Timestamp) : Decidable (a < b) := inferInstanceAs (Decidable (a.Before b))
instance (a b : Timestamp) : Decidable (a ≤ b) := inferInstanceAs (Decidable (¬b.Before a))

/-- The leap second from `s` to `t` that their numbers do not show: the one that the timestamp with
the smaller time of day lies in. -/
def hiddenLeap (t s : Timestamp) : Int :=
  if s.leap ∧ s.time.secondOfDay < t.time.secondOfDay then 1
  else if t.leap ∧ t.time.secondOfDay < s.time.secondOfDay then -1
  else 0

/-- The nanoseconds from `s` to `t`, negative if `s` is the later one. -/
def since (t s : Timestamp) : Int :=
  (t.time.seconds - s.time.seconds + t.hiddenLeap s) * 1000000000 + (t.fraction - s.fraction)

/-! ## Order -/

theorem le_refl (t : Timestamp) : t ≤ t := by
  show ¬t.Before t
  simp only [Before]
  omega

theorem le_trans {a b c : Timestamp} (h : a ≤ b) (h' : b ≤ c) : a ≤ c := by
  have hab : ¬b.Before a := h
  have hbc : ¬c.Before b := h'
  show ¬c.Before a
  simp only [Before] at hab hbc ⊢
  omega

theorem lt_of_le_of_lt {a b c : Timestamp} (h : a ≤ b) (h' : b < c) : a < c := by
  have hab : ¬b.Before a := h
  have hbc : b.Before c := h'
  show a.Before c
  simp only [Before] at hab hbc ⊢
  omega

/-! ## Instants -/

theorem fraction_ofTime (t : Time) : (ofTime t).fraction = t.fraction := by
  simp [fraction, ofTime]

theorem ofTime_lt_ofTime {a b : Time} : ofTime a < ofTime b ↔ a < b := by
  show ((ofTime a).Before (ofTime b)) ↔ a.nanos < b.nanos
  simp only [Before, fraction_ofTime, Time.seconds, Time.fraction]
  simp only [ofTime]
  omega

theorem ofTime_le_ofTime {a b : Time} : ofTime a ≤ ofTime b ↔ a ≤ b := by
  have h := @ofTime_lt_ofTime b a
  show ¬(ofTime b < ofTime a) ↔ a.nanos ≤ b.nanos
  rw [h]
  show ¬(b.nanos < a.nanos) ↔ a.nanos ≤ b.nanos
  omega

theorem since_ofTime (t s : Time) : (ofTime t).since (ofTime s) = t.nanos - s.nanos := by
  have h : (ofTime t).hiddenLeap (ofTime s) = 0 := by simp [hiddenLeap, ofTime]
  simp only [since, h, fraction_ofTime, Time.seconds, Time.fraction]
  simp only [ofTime]
  omega

end Timestamp

end Dispatch
