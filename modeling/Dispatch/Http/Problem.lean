import Dispatch.Error
import Dispatch.Http.Message
import Dispatch.Job.Draft

/-!
# Why a request is not served

Every refusal is a value with one response.  Mistakes in the request itself are told from mistakes
about jobs, and what went wrong behind the service is reported with its bare detail.
-/

namespace Dispatch.Http

/-- Why a request is not served. -/
inductive Problem where
  | unknownPath
  | unknownMethod
  /-- The identity in the path is not UTF-8. -/
  | unreadablePath
  /-- A known name comes twice in the query. -/
  | repeatedName
  /-- The body is not announced as JSON, or is none of the expected shape. -/
  | invalidBody
  | invalidLimit
  | unknownStatus (name : String)
  /-- No tenant, or no model. -/
  | incompleteDraft
  | job (cause : JobError)
deriving DecidableEq, Repr

namespace Problem

/-- The response to a failure of the service. -/
def jobResponse : JobError → Response
  | .notFound _ => .error 404 "not_found" "Job not found"
  | .validation detail => .error 400 "validation_error" detail
  | .conflict detail => .error 500 "internal_error" detail
  | .transient detail => .error 500 "internal_error" detail
  | .provider detail => .error 500 "internal_error" detail

/-- The response that says what is wrong. -/
def response : Problem → Response
  | unknownPath => { status := 404 }
  | unknownMethod => { status := 405 }
  | unreadablePath => .plain 400
  | repeatedName => .plain 400
  | invalidBody => .error 400 "invalid_json" "Request body must be valid JSON"
  | invalidLimit => .error 400 "validation_error" "limit must be a positive integer"
  | unknownStatus name => .error 400 "validation_error" ("unknown status: " ++ name)
  | incompleteDraft => .error 400 "validation_error" Draft.requiredMessage
  | job cause => jobResponse cause

end Problem

end Dispatch.Http
