import Dispatch.Error
import Dispatch.Json.Basic
import Dispatch.Text.Blank

/-!
# Drafts

A draft is a job as it is submitted.  Tenant and model must not be blank; everything else has a
default, which `normalized` fills in.
-/

namespace Dispatch

/-- A job as submitted. -/
structure Draft where
  tenant : String
  priority : Int := 0
  model : String
  payload : Json := .null
  idempotencyKey : Option String := none
  maxAttempts : Int := 0
deriving DecidableEq, Repr

namespace Draft

/-- The priority of a draft that asks for none. -/
def defaultPriority : Int := 3

/-- The attempts granted to a draft that asks for none. -/
def defaultMaxAttempts : Int := 3

/-- A payload that says nothing: `null` or the empty string. -/
def isEmptyPayload : Json → Bool
  | .null => true
  | .str s => s.isEmpty
  | _ => false

/-- Fill in the defaults.  Numbers that are not positive count as missing, and so does an empty
key; a payload that says nothing becomes the empty object. -/
def normalized (d : Draft) : Draft :=
  { d with
    priority := if d.priority ≤ 0 then defaultPriority else d.priority
    maxAttempts := if d.maxAttempts ≤ 0 then defaultMaxAttempts else d.maxAttempts
    payload := if isEmptyPayload d.payload then Json.empty else d.payload
    idempotencyKey := d.idempotencyKey.filter fun key => !key.isEmpty }

/-- The key under which the tenant wants to find the job again. -/
def claim (d : Draft) : Option (String × String) := d.idempotencyKey.map fun k => (d.tenant, k)

/-- What a draft without a tenant or a model is told. -/
def requiredMessage : String := "tenant_id and model are required"

/-- Tenant and model are not blank. -/
def isComplete (d : Draft) : Bool :=
  !Text.allBlank d.tenant && !Text.allBlank d.model

/-- Refuse a draft without a tenant or a model. -/
def validate (d : Draft) : Except JobError Unit :=
  if d.isComplete then .ok () else .error (.validation requiredMessage)

end Draft

end Dispatch
