import Dispatch.Redis.Command
import Dispatch.Redis.Reply
import Dispatch.Table
import Dispatch.Time.Instant

/-!
# The server, as it is documented

A key holds a list, or a text that lapses; a list without entries has no key, and a key that has
lapsed counts as none.  `Server.answer` says what each command answers and leaves.  A command that
has to wait for an entry is not answered at all: others would have to push one.
-/

namespace Dispatch.Redis

/-- What a key holds. -/
inductive Holding where
  /-- Texts from head to tail. -/
  | list (entries : List String)
  /-- A text, which is there until it lapses. -/
  | text (value : String) (expiresAt : Time)
deriving DecidableEq, Repr

/-- The contents of a server. -/
structure Server where
  keys : Table String Holding := .empty

namespace Server

/-- A server without keys. -/
def empty : Server := {}

/-- What is held is there at an instant: a text from when it is set until just before it lapses. -/
def isThere (now : Time) : Holding → Bool
  | .list _ => true
  | .text _ expiresAt => now < expiresAt

/-- What a key holds at an instant. -/
def get? (s : Server) (now : Time) (key : String) : Option Holding :=
  (s.keys.get? key).filter (isThere now)

/-- The list under a key, which without entries has none. -/
def held : List String → Option Holding
  | [] => none
  | e :: rest => some (.list (e :: rest))

/-- The server with a list under a key. -/
def putList (s : Server) (key : String) (entries : List String) : Server :=
  match held entries with
  | none => { s with keys := s.keys.erase key }
  | some h => { s with keys := s.keys.set key h }

/-- The entries under a key. -/
def entries (s : Server) (key : String) : List String :=
  match s.keys.get? key with
  | some (.list es) => es
  | _ => []

/-- What a command for lists is told about a key that holds a text. -/
def wrongType : Reply :=
  .refused "WRONGTYPE Operation against a key holding the wrong kind of value"

/-- Answer a command for the list under a key, by what it makes of the entries. -/
def onList (s : Server) (now : Time) (key : String) (f : List String → Reply × List String) :
    Reply × Server :=
  match s.get? now key with
  | none => let (r, es) := f []; (r, s.putList key es)
  | some (.list es) => let (r, es) := f es; (r, s.putList key es)
  | some (.text _ _) => (wrongType, s)

/-- The position of an entry. -/
def positionOf (entry : String) (es : List String) : Reply :=
  match es.idxOf? entry with
  | some i => .int i
  | none => .nil

/-- Answer a command at an instant, unless it has to wait. -/
def answer (s : Server) (now : Time) : Command → Option (Reply × Server)
  | .push key entry => some <| s.onList now key fun es => (.int (es.length + 1), entry :: es)
  | .removeAll key entry => some <| s.onList now key fun es =>
      (.int (es.count entry), es.filter (· ≠ entry))
  | .position key entry => some <| s.onList now key fun es => (positionOf entry es, es)
  | .pop key => some <| s.onList now key fun es =>
      (es.getLast?.elim .nil .bulk, es.dropLast)
  | .popWithin key _ =>
    if s.get? now key = none then none
    else some <| s.onList now key fun es =>
      (es.getLast?.elim .nil fun e => .array [.bulk key, .bulk e], es.dropLast)
  | .claim key value millis =>
    if (s.get? now key).isSome then some (.nil, s)
    else some (.status "OK",
      { s with keys := s.keys.set key (.text value (now + Span.ofMillis millis)) })
  | .delete key =>
    some (.int (if (s.get? now key).isSome then 1 else 0), { s with keys := s.keys.erase key })
  | .ping => some (.status "PONG", s)

variable {s : Server} {now : Time} {key : String} {es : List String}
  {f : List String → Reply × List String}

/-- Only the list that is put under a key is found there, and no other key is touched. -/
@[simp]
theorem get?_putList (s : Server) (key other : String) (es : List String) :
    (s.putList key es).keys.get? other = if key = other then held es else s.keys.get? other := by
  cases es <;> simp [putList, held]

/-- A command for a list finds the entries under its key and leaves what it makes of them. -/
theorem onList_of_held (h : s.keys.get? key = held es) :
    s.onList now key f = ((f es).1, s.putList key (f es).2) := by
  cases es with
  | nil => simp [onList, get?, h, held]
  | cons e rest =>
    simp only [onList, get?, h, held]
    rfl

theorem entries_of_held (h : s.keys.get? key = held es) : s.entries key = es := by
  cases es <;> simp [entries, h, held]

end Server

end Dispatch.Redis
