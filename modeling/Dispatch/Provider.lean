import Dispatch.Attempt

/-!
# Providers

A provider executes a job: after some time it answers with what the completion used, or with a
failure.  A failure says which code is recorded for it and how it reads.
-/

namespace Dispatch

/-- How an execution fails. -/
inductive ProviderError where
  /-- No answer within the given time. -/
  | timeout (limit : Span)
  /-- An answer that says what went wrong. -/
  | failed (reason : String)
deriving DecidableEq, Repr

namespace ProviderError

/-- The code recorded for a failure. -/
def code : ProviderError → FailureCode
  | timeout _ => .providerTimeout
  | failed _ => .providerError

/-- The wording. -/
def message : ProviderError → String
  | timeout limit => "provider did not answer within " ++ limit.text
  | failed reason => "provider failed: " ++ reason

end ProviderError

/-- What a provider does when it is handed a job: it answers after a delay. -/
structure Answer where
  delay : Span := .zero
  result : Except ProviderError Usage := .ok {}

/-- Thirty years: so long waits at most who wants to wait for longer than the clock goes. -/
def Span.farFuture : Span := .ofSeconds 946080000

/-- The answer as it is heard by somebody who wants to wait for longer than the clock goes. -/
def Answer.cut (a : Answer) (limit : Span) : Answer :=
  if a.delay ≤ .farFuture then a else { delay := .farFuture, result := .error (.timeout limit) }

/-- The result of an execution that is given a limit.  An answer at the very limit counts. -/
def Answer.within (a : Answer) (limit : Span) : Except ProviderError Usage :=
  if a.delay ≤ limit then a.result else .error (.timeout limit)

/-- The time an execution with a limit takes. -/
def Answer.duration (a : Answer) (limit : Span) : Span :=
  if a.delay ≤ limit then a.delay else limit

end Dispatch
