import Dispatch.Http.Message
import Dispatch.Http.Query

/-!
# Routes

Which path names what, and what a method does with it.  Paths are compared as they are written; a
job's place in a path is any segment that is not empty, and its text is decoded only when the
method is one that the path knows.
-/

namespace Dispatch.Http

/-- What a path names.  Identities are still percent-encoded. -/
inductive Resource where
  | health
  | jobs
  | job (id : List Char)
  | events (id : List Char)
  | cancellation (id : List Char)
  | retry (id : List Char)
  | workers
  | metrics
deriving DecidableEq, Repr

/-- What a request asks for.  Identities are still percent-encoded. -/
inductive Action where
  | checkHealth
  | createJob
  | listJobs
  | showJob (id : List Char)
  | listEvents (id : List Char)
  | cancelJob (id : List Char)
  | retryJob (id : List Char)
  | listWorkers
  | showMetrics
deriving DecidableEq, Repr

namespace Resource

/-- The resource at a place below the jobs. -/
def ofJobSegments? : List String → List Char → Option Resource
  | _, [] => none
  | [], id => some (job id)
  | ["events"], id => some (events id)
  | ["cancel"], id => some (cancellation id)
  | _, _ => none

/-- The resource that a path names. -/
def ofPath? (path : List Char) : Option Resource :=
  match (Query.splitChars (· = '/') path).map String.ofList with
  | ["", "healthz"] => some health
  | ["", "v1", "jobs"] => some jobs
  | "" :: "v1" :: "jobs" :: id :: rest => ofJobSegments? rest id.toList
  | ["", "v1", "admin", "jobs", id, "retry"] => if id.isEmpty then none else some (retry id.toList)
  | ["", "v1", "workers"] => some workers
  | ["", "v1", "metrics", "summary"] => some metrics
  | _ => none

/-- What a method does with a resource.  `HEAD` asks for what `GET` shows. -/
def action? (r : Resource) (method : String) : Option Action :=
  match r, (if method = "HEAD" then "GET" else method) with
  | health, "GET" => some .checkHealth
  | jobs, "POST" => some .createJob
  | jobs, "GET" => some .listJobs
  | job id, "GET" => some (.showJob id)
  | events id, "GET" => some (.listEvents id)
  | cancellation id, "POST" => some (.cancelJob id)
  | retry id, "POST" => some (.retryJob id)
  | workers, "GET" => some .listWorkers
  | metrics, "GET" => some .showMetrics
  | _, _ => none

end Resource

end Dispatch.Http
