import Dispatch.Id
import Dispatch.Job.Status
import Dispatch.Json.Basic
import Dispatch.Time.Timestamp

/-!
# Attempts

An attempt is one execution of a job, named by the job and the attempt's number.  It is opened
when the job starts and closed once; a closed attempt does not change any more.
-/

namespace Dispatch

/-- What a provider charges for a completion. -/
structure Usage where
  tokens : Int := 0
  cost : Double := .zero
  providerMeta : Json := Json.empty
deriving DecidableEq, Repr

/-- One execution of a job. -/
structure Attempt where
  job : JobId
  /-- Counted from one.  Rows and messages have a word of 32 bits with a sign for it, which is
  enough as long as the job is started fewer than 2147483647 times. -/
  number : Int
  startedAt : Timestamp
  finishedAt : Option Timestamp := none
  success : Option Bool := none
  errorCode : Option FailureCode := none
  errorMessage : Option String := none
  tokens : Int := 0
  cost : Double := .zero
  providerMeta : Json := Json.empty
deriving DecidableEq, Repr

namespace Attempt

/-- A fresh attempt. -/
def opened (job : JobId) (number : Int) (startedAt : Timestamp) : Attempt :=
  { job, number, startedAt }

/-- The attempt has not ended. -/
def isOpen (a : Attempt) : Bool := a.finishedAt.isNone

/-- Close an open attempt with what its completion used. -/
def succeed (a : Attempt) (usage : Usage) (now : Timestamp) : Attempt :=
  if a.isOpen then
    { a with
      finishedAt := some now, success := some true, errorCode := none, errorMessage := none
      tokens := usage.tokens, cost := usage.cost, providerMeta := usage.providerMeta }
  else a

/-- Close an open attempt with what went wrong. -/
def fail (a : Attempt) (code : FailureCode) (message : String) (now : Timestamp) : Attempt :=
  if a.isOpen then
    { a with
      finishedAt := some now, success := some false, errorCode := some code
      errorMessage := some message }
  else a

theorem succeed_of_closed {a : Attempt} (h : a.isOpen = false) (u : Usage) (now : Timestamp) :
    a.succeed u now = a := by
  simp [succeed, h]

theorem fail_of_closed {a : Attempt} (h : a.isOpen = false) (c : FailureCode) (m : String)
    (now : Timestamp) : a.fail c m now = a := by
  simp [fail, h]

@[simp]
theorem isOpen_opened (job : JobId) (number : Int) (t : Timestamp) :
    (opened job number t).isOpen = true := rfl

section Close

variable (a : Attempt) (u : Usage) (c : FailureCode) (m : String) (now : Timestamp)

@[simp]
theorem isOpen_succeed : (a.succeed u now).isOpen = false := by
  unfold succeed
  split
  · rfl
  · simp_all

@[simp]
theorem isOpen_fail : (a.fail c m now).isOpen = false := by
  unfold fail
  split
  · rfl
  · simp_all

@[simp]
theorem succeed_job : (a.succeed u now).job = a.job := by
  unfold succeed
  split <;> rfl

@[simp]
theorem succeed_number : (a.succeed u now).number = a.number := by
  unfold succeed
  split <;> rfl

@[simp]
theorem fail_job : (a.fail c m now).job = a.job := by
  unfold fail
  split <;> rfl

@[simp]
theorem fail_number : (a.fail c m now).number = a.number := by
  unfold fail
  split <;> rfl

end Close

end Attempt

end Dispatch
