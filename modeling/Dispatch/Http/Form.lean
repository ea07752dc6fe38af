import Dispatch.Http.MediaType
import Dispatch.Http.Problem
import Dispatch.Http.Query
import Dispatch.Job.Filter
import Dispatch.Json.Entity
import Dispatch.Number.Numeral

/-!
# What requests carry

The body of a submission, the criteria of a listing, and the identity in a path, read into the
types that the service takes.
-/

namespace Dispatch.Http

/-! ## Submissions -/

/-- A submission.  Every field may be left out. -/
def submissionDecoder : Decoder Draft := fun room doc => do
  let f ← Decoder.fields? Draft.fieldNames room doc
  return {
    tenant := ← f.defaulted "tenant_id" Decoder.str ""
    priority := ← f.defaulted "priority" Decoder.int32 0
    model := ← f.defaulted "model" Decoder.str ""
    payload := ← f.defaulted "payload" Decoder.json .null
    idempotencyKey := ← f.optional "idempotency_key" Decoder.str
    maxAttempts := ← f.defaulted "max_attempts" Decoder.int32 0 }

/-- The draft that a submission and the key beside it make: blanks around tenant and model are
dropped, and a key that is not blank takes the place of the submission's own. -/
def submitted (submission : Draft) (key : Option String) : Draft :=
  { submission with
    tenant := Text.trim submission.tenant
    model := Text.trim submission.model
    idempotencyKey := (key.filter fun k => !Text.allBlank k).or submission.idempotencyKey }

/-- The request announces a body in JSON. -/
def announcesJson (r : Request) : Bool :=
  match (r.readable? "content-type").bind MediaType.parse? with
  | some media => media.isJson
  | none => false

/-- No more bytes than these are taken for a body: two megabytes. -/
def maxBody : Nat := 2097152

/-- The submission in the body of a request.  What follows the first JSON value is not looked
at. -/
def submissionOf? (r : Request) : Option Draft :=
  if announcesJson r && r.body.length ≤ maxBody then
    (Doc.readFirstBytes? r.body).bind fun (doc, _) => submissionDecoder.run doc
  else none

/-- The draft that a request submits. -/
def draftOf (r : Request) : Except Problem Draft :=
  match submissionOf? r with
  | none => .error .invalidBody
  | some submission =>
    let draft := submitted submission (r.readable? "idempotency-key")
    if draft.tenant.isEmpty ∨ draft.model.isEmpty then .error .incompleteDraft else .ok draft

/-! ## Listings -/

/-- The length of a page that asks for none. -/
def defaultLimit : Nat := 100

/-- Read a limit; a missing or blank one means the default. -/
def parseLimit (raw : Option String) : Except Problem Nat :=
  match raw.map Text.trim |>.filter (!·.isEmpty) with
  | none => .ok defaultLimit
  | some s =>
    match Numeral.read Numeral.maxWord s.toList with
    | .ok 0 => .error .invalidLimit
    | .ok n => .ok n
    | .error _ => .error .invalidLimit

/-- The criteria of a listing as they are written. -/
structure Criteria where
  status : Option String := none
  tenant : Option String := none
  model : Option String := none
  limit : Option String := none

/-- A criterion without the blanks around it, if anything is left of it. -/
def criterion? (raw : Option String) : Option String :=
  (raw.map Text.trim).filter fun s => !s.isEmpty

/-- Read a status; a missing or blank one is no criterion. -/
def parseStatus (raw : Option String) : Except Problem (Option JobStatus) :=
  match criterion? raw with
  | none => .ok none
  | some name =>
    match JobStatus.ofText? name with
    | some status => .ok (some status)
    | none => .error (.unknownStatus name)

/-- The filter that the criteria make; the limit is looked at first. -/
def Criteria.filter (c : Criteria) : Except Problem Filter := do
  let limit ← parseLimit c.limit
  let status ← parseStatus c.status
  return { status, tenant := criterion? c.tenant, model := criterion? c.model, limit }

/-- The filter of a query. -/
def filterOf (q : Query) : Except Problem Filter :=
  if q.isPlain ["status", "tenant", "model", "limit"] then
    ({ status := q.get? "status", tenant := q.get? "tenant", model := q.get? "model"
       limit := q.get? "limit" } : Criteria).filter
  else .error .repeatedName

/-! ## Identities -/

/-- The text of a path segment. -/
def segmentOf (raw : List Char) : Except Problem String :=
  match Text.ofBytes? (Text.percentDecode (Text.bytes (String.ofList raw))) with
  | some s => .ok s
  | none => .error .unreadablePath

/-- The job that a text names; one that names none names no job there is. -/
def jobOf (text : String) : Except Problem JobId :=
  match JobId.ofText? text with
  | some id => .ok id
  | none => .error (.job (.notFound "JobId"))

end Dispatch.Http
