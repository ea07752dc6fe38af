import Dispatch.Queue.Call
import Dispatch.Store.Call

/-!
# Faults

A fault makes the next so many calls of one name fail.  Either the call is not made at all, or it
is made and only its result is lost, which is how a connection breaks before or after the other
side has done its work.
-/

namespace Dispatch

/-- What goes wrong with the next calls of a name. -/
structure Fault (ε : Type) where
  call : String
  error : ε
  times : Nat := 1
  /-- The call is made, and its result is lost. -/
  applied : Bool := false
deriving Repr

/-- The faults of one backend, at most one for a name. -/
abbrev Faults (ε : Type) : Type := List (Fault ε)

namespace Faults

variable {ε : Type}

/-- Plan a fault, in place of the one planned for the same calls. -/
def plan (fs : Faults ε) (f : Fault ε) : Faults ε := f :: fs.filter fun g => g.call ≠ f.call

/-- The fault that hits a call, and the faults that are left. -/
def strike (name : String) : Faults ε → Option (Fault ε) × Faults ε
  | [] => (none, [])
  | f :: rest =>
    if f.call = name ∧ 0 < f.times then (some f, { f with times := f.times - 1 } :: rest)
    else
      let (hit, rest) := strike name rest
      (hit, f :: rest)

end Faults

/-- A call under a fault: not made, or made and its result lost. -/
def Fault.hit {ε α ω : Type} (fault : Option (Fault ε)) (perform : ω → Except ε α × ω) (w : ω) :
    Except ε α × ω :=
  match fault with
  | none => perform w
  | some f => (.error f.error, if f.applied then (perform w).2 else w)

end Dispatch
