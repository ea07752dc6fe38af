import Dispatch.Json.Access
import Dispatch.Redis.Queue

/-!
# Playing a server back

A playback answers commands from a list of planned replies and keeps what it was sent, in order.
When the list is used up it has nothing to say.
-/

namespace Dispatch.Redis

mutual

/-- A reply that is written as JSON. -/
def Reply.ofJson? : Json → Option Reply
  | .obj [(name, value)] =>
    match name, value with
    | "int", .int i => some (.int i)
    | "bulk", .str s => some (.bulk s)
    | "status", .str s => some (.status s)
    | "error", .str s => some (.refused s)
    | "nil", _ => some .nil
    | "drop", _ => some .broken
    | "array", .arr items => (repliesOfJson? items).map .array
    | _, _ => none
  | _ => none

/-- Replies that are written as JSON. -/
def repliesOfJson? : List Json → Option (List Reply)
  | [] => some []
  | item :: rest => do return (← Reply.ofJson? item) :: (← repliesOfJson? rest)

end

/-- A server that answers from a list. -/
structure Playback where
  /-- The replies that are left. -/
  replies : List Reply := []
  /-- Everything that was sent, oldest first. -/
  sent : List Command := []

namespace Playback

/-- Answer a command. -/
def answer (c : Command) (p : Playback) : Reply × Playback :=
  let sent := p.sent ++ [c]
  match p.replies with
  | [] => (.nil, ⟨[], sent⟩)
  | r :: rest => (r, ⟨rest, sent⟩)

/-- Make a call. -/
def call (q : RedisQueue) (c : QueueCall) (p : Playback) : c.Reply × Playback :=
  let (r, p) := p.answer (q.command c)
  (q.answer c r, p)

/-- Take an entry off the ready list. -/
def dequeue (q : RedisQueue) (timeout : Span) (p : Playback) : DequeueReply × Playback :=
  let (r, p) := p.answer (q.dequeueCommand timeout)
  (q.dequeued timeout r, p)

end Playback

/-- Open a connection; without an address that makes sense there is nothing to talk to. -/
def connect (reachable : Bool) : Except QueueError Unit :=
  if reachable then .ok () else .error (.connection "")

end Dispatch.Redis
