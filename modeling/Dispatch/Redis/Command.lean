import Dispatch.Id
import Dispatch.Time.Span
import Dispatch.Number.Shortest

/-!
# Commands

What is ever asked of the server, as data, and the arguments each command is sent as.  The ready
list is one list under one key, pushed at its head and popped at its tail; a lease is a key that
lapses by itself.
-/

namespace Dispatch.Redis

/-- A command with its arguments. -/
inductive Command where
  /-- Put an entry at the head of a list. -/
  | push (key entry : String)
  /-- Take every copy of an entry off a list. -/
  | removeAll (key entry : String)
  /-- Ask where in a list an entry is. -/
  | position (key entry : String)
  /-- Take the entry at the tail of a list. -/
  | pop (key : String)
  /-- Take the entry at the tail of a list, and wait for one if it is empty. -/
  | popWithin (key : String) (timeout : Span)
  /-- Set a key for so many milliseconds, unless it is set. -/
  | claim (key value : String) (millis : Nat)
  | delete (key : String)
  | ping
deriving DecidableEq, Repr

namespace Command

/-- The arguments on the wire. -/
def arguments : Command → List String
  | push key entry => ["LPUSH", key, entry]
  | removeAll key entry => ["LREM", key, "0", entry]
  | position key entry => ["LPOS", key, entry]
  | pop key => ["RPOP", key]
  | popWithin key timeout => ["BRPOP", key, timeout.seconds.text]
  | claim key value millis => ["SET", key, value, "NX", "PX", toString millis]
  | delete key => ["DEL", key]
  | ping => ["PING"]

/-- The name under which failures of a command are reported. -/
def operation : Command → String
  | push _ _ => "LPUSH"
  | removeAll _ _ => "LREM"
  | position _ _ => "LPOS"
  | pop _ => "RPOP"
  | popWithin _ _ => "BRPOP"
  | claim _ _ _ => "SET NX"
  | delete _ => "DEL"
  | ping => "PING"

end Command

end Dispatch.Redis
