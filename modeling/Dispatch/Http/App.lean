import Dispatch.Http.Form
import Dispatch.Http.Route
import Dispatch.Http.View
import Dispatch.Service

/-!
# The HTTP application

A request is read completely before the service is asked anything; then the service's result is
shown or its failure reported.  The application is a script, so it serves over any backend.
-/

namespace Dispatch.Http

/-- What the application needs to know besides the request. -/
structure Surroundings where
  now : Time
  /-- The age at which a worker stops counting as live. -/
  staleAfter : Span
  /-- The identity of an exchange that came without one. -/
  exchange : Uuid

namespace App

/-- Show the result of the service. -/
def showing {α : Type} (respond : α → Response) (s : Script (Except JobError α)) :
    Script Response :=
  s.map fun
    | .ok a => respond a
    | .error e => (Problem.job e).response

/-- Go on with what was read off the request, or say what is wrong with it. -/
def reading {α : Type} (read : Except Problem α) (serve : α → Script Response) : Script Response :=
  match read with
  | .ok a => serve a
  | .error p => .done p.response

/-- The job alone. -/
def jobBody (j : Job) : Json := .obj [("job", j.toJson)]

/-- A created job, or one that was found again. -/
def created : Job × Bool → Response
  | (job, existed) => .json (if existed then 200 else 201)
      (.obj [("job", job.toJson), ("idempotent_replay", .bool existed)])

/-- A list under its name. -/
def listed {α : Type} (name : String) (encode : α → Json) (items : List α) : Response :=
  .json 200 (.obj [(name, .arr (items.map encode))])

/-- Which backends answer. -/
def healthShown (h : Health) : Response :=
  if h.isHealthy then .json 200 (.obj [("status", .str "ok")])
  else .json 503 (.obj [("status", .str "degraded"), ("store", .bool h.store),
    ("queue", .bool h.queue)])

/-- The job that a path segment names. -/
def target (segment : List Char) : Except Problem JobId := do
  jobOf (← segmentOf segment)

/-- The job and the limit of an event listing.  A repeated limit is a mistake of the query, which
comes before a mistaken identity. -/
def eventsOf (segment : List Char) (q : Query) : Except Problem (JobId × Nat) := do
  let text ← segmentOf segment
  if !q.isPlain ["limit"] then throw .repeatedName
  let id ← jobOf text
  let limit ← parseLimit (q.get? "limit")
  return (id, limit)

/-- Serve a request that asks for something. -/
def perform (s : Surroundings) (r : Request) : Action → Script Response
  | .checkHealth => Service.health.map healthShown
  | .createJob => reading (draftOf r) fun draft => showing created (Service.create draft)
  | .listJobs => reading (filterOf (.parse r.target.query)) fun filter =>
    showing (listed "jobs" Job.toJson) (Service.list filter)
  | .showJob segment => reading (target segment) fun id =>
    showing (fun snapshot => .json 200 snapshot.toJson) (Service.get id)
  | .listEvents segment => reading (eventsOf segment (.parse r.target.query)) fun (id, limit) =>
    showing (listed "events" Event.toJson) (Service.events id limit)
  | .cancelJob segment => reading (target segment) fun id =>
    showing (fun job => .json 200 (jobBody job)) (Service.cancel id)
  | .retryJob segment => reading (target segment) fun id =>
    showing (fun job => .json 200 (jobBody job)) (Service.retry id)
  | .listWorkers =>
    showing (fun hs => listed "workers" WorkerView.toJson (workerViews s.staleAfter s.now hs))
      Service.workers
  | .showMetrics =>
    showing (fun (tally, hs) => .json 200 (summary s.now tally (workerViews s.staleAfter s.now hs)))
      Service.overview

/-- What a request asks for. -/
def actionOf (r : Request) : Except Problem Action :=
  match Resource.ofPath? r.target.path with
  | none => .error .unknownPath
  | some resource =>
    match resource.action? r.method with
    | none => .error .unknownMethod
    | some action => .ok action

/-- The identity of an exchange: the one that the client chose, if it can be read. -/
def exchangeOf (s : Surroundings) (r : Request) : String :=
  ((r.readable? "x-request-id").filter fun id => !id.isEmpty).getD s.exchange.text

/-- The response as it is sent: with the identity of the exchange, and without a body if only the
head was asked for. -/
def sent (s : Surroundings) (r : Request) (response : Response) : Response :=
  { response with
    requestId := some (exchangeOf s r)
    body := if r.method = "HEAD" then none else response.body }

/-- Serve a request. -/
def serve (s : Surroundings) (r : Request) : Script Response :=
  (reading (actionOf r) (perform s r)).map (sent s r)

end App

end Dispatch.Http
