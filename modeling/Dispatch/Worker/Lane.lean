import Dispatch.Worker.Poll

/-!
# The life of a lane

A lane reports, then polls over and over, reporting in between when a report is due, until it sees
that the process is to stop; then it reports that it is idle and ends.  After a poll that ended in
an error it pauses, unless there is news on the shutdown channel that it has not seen.  It looks at
the channel only between polls, so whatever it has begun it finishes.
-/

namespace Dispatch

/-- Where a lane is. -/
inductive LaneStage where
  /-- The first report. -/
  | greeting
  /-- Between polls. -/
  | deciding
  /-- A report is due before the next poll. -/
  | refreshing
  | polling (phase : PollPhase)
  /-- About to pause after an error. -/
  | backingOff
  | paused (alarm : Alarm)
  /-- The last report. -/
  | leaving
  | gone

/-- A lane. -/
structure Lane where
  config : WorkerConfig
  presence : Presence := {}
  /-- The last value of the shutdown channel that the lane has taken notice of. -/
  seen : Nat := 0
  stage : LaneStage := .greeting

namespace Lane

/-- The stage that a state of the current poll puts the lane into. -/
def ofPoll (l : Lane) (p : Poll) : Lane :=
  { l with presence := p.presence, stage := .polling p.phase }

/-- The lane between polls, after one that ended this way. -/
def afterPoll (l : Lane) : PollResult → Lane
  | .ok _ => { l with stage := .deciding }
  | .error _ => { l with stage := .backingOff }

/-- What a lane does next. -/
def next (now : Time) (l : Lane) : Next Lane Unit :=
  match l.stage with
  | .greeting => .store (l.presence.beat l.config) fun r =>
    { l with presence := l.presence.noted now r, stage := .deciding }
  | .deciding => .look fun
    | true => { l with presence := l.presence.rest, stage := .leaving }
    | false =>
      if l.presence.isDue now l.config.heartbeatInterval then { l with stage := .refreshing }
      else { l with stage := .polling .dequeuing }
  | .refreshing => .store (l.presence.beat l.config) fun r =>
    { l with presence := l.presence.noted now r, stage := .polling .dequeuing }
  | .polling phase =>
    (Poll.next l.config now { presence := l.presence, phase }).lift l.ofPoll
      fun (result, presence) => .go ({ l with presence }.afterPoll result)
  | .backingOff => .arm (now + l.config.errorBackoff) fun alarm =>
    { l with stage := .paused alarm }
  | .paused alarm => .await alarm l.seen fun news =>
    { l with seen := news.getD l.seen, stage := .deciding }
  | .leaving => .store (l.presence.beat l.config) fun r =>
    { l with presence := l.presence.noted now r, stage := .gone }
  | .gone => .finished ()

/-- The lanes of a process, at least one. -/
def spawn (config : WorkerConfig) (lanes : Nat) : List Lane :=
  let count := max lanes 1
  (List.range count).map fun i => { config := config.forLane i count }

end Lane

end Dispatch
