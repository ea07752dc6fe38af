import Dispatch.Id
import Dispatch.Text.Quoted
import Dispatch.Time.Timestamp

/-!
# Heartbeats

A worker lane reports what it is doing.  The store keeps the last report of each lane; a lane is
live while its last report is younger than a grace.
-/

namespace Dispatch

/-- What a lane is doing. -/
inductive WorkerState where
  | idle
  | busy
deriving DecidableEq, Repr

namespace WorkerState

/-- Both states. -/
def all : List WorkerState := [idle, busy]

/-- The name of a state. -/
def text : WorkerState → String
  | idle => "idle"
  | busy => "busy"

/-- The state of a name. -/
def ofText? (s : String) : Option WorkerState := all.find? (·.text = s)

/-- The state of a name, or a complaint that quotes it. -/
def parse (s : String) : Except JobError WorkerState :=
  match ofText? s with
  | some state => .ok state
  | none => .error (.validation ("unknown worker state: " ++ Text.quoted s))

theorem ofText?_text (s : WorkerState) : ofText? s.text = some s := by
  cases s <;> decide

end WorkerState

/-- The last report of a lane. -/
structure Heartbeat where
  worker : WorkerId
  seenAt : Timestamp
  state : WorkerState
  running : Option JobId := none
  /-- Lanes of the process the lane belongs to. -/
  concurrency : Int
deriving DecidableEq, Repr

/-- The report is younger than a grace in nanoseconds; a report from the future is younger than any
grace that is not negative enough. -/
def Heartbeat.isLive (h : Heartbeat) (now : Timestamp) (grace : Int) : Bool :=
  now.since h.seenAt < grace

end Dispatch
