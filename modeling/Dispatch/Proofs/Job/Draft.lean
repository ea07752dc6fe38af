import Dispatch.Job.Basic

/-!
# Drafts with their defaults filled in

A normalized draft is one that has nothing left to fill in: its numbers are positive, its payload
says something, and its key, if there is one, is not empty.  So filling in the defaults again
changes nothing (`normalized_normalized`), and it does not matter in how many places it is done
before a job is made of the draft (`Job.queued_normalized`).
-/

namespace Dispatch

namespace Draft

variable {d : Draft}

/-! ## Completeness -/

theorem validate_of_complete (h : d.isComplete = true) : d.validate = .ok () := by
  rw [validate, if_pos h]

theorem validate_of_incomplete (h : d.isComplete = false) :
    d.validate = .error (.validation requiredMessage) := by
  rw [validate, h]
  rfl

theorem complete_of_validate (h : d.validate = .ok ()) : d.isComplete = true := by
  cases hcomplete : d.isComplete with
  | true => rfl
  | false =>
    rw [validate_of_incomplete hcomplete] at h
    cases h

/-- Defaults do not stand in for a tenant or a model. -/
@[simp]
theorem isComplete_normalized (d : Draft) : d.normalized.isComplete = d.isComplete := rfl

@[simp]
theorem validate_normalized (d : Draft) : d.normalized.validate = d.validate := rfl

/-! ## Defaults -/

/-- A normalized draft has the numbers that the table of jobs asks for. -/
theorem normalized_checked (d : Draft) :
    ¬(d.normalized.priority ≤ 0 ∨ d.normalized.maxAttempts ≤ 0) := by
  have hpriority : 0 < d.normalized.priority := by
    simp only [normalized, defaultPriority]
    split <;> omega
  have hattempts : 0 < d.normalized.maxAttempts := by
    simp only [normalized, defaultMaxAttempts]
    split <;> omega
  omega

/-- A normalized draft has a payload that says something. -/
theorem isEmptyPayload_normalized (d : Draft) : isEmptyPayload d.normalized.payload = false := by
  by_cases h : isEmptyPayload d.payload = true
  · simp only [normalized, h, if_true]
    rfl
  · simp [normalized, h]

/-- A normalized draft has no empty key. -/
theorem key_normalized (d : Draft) : d.normalized.idempotencyKey ≠ some "" := by
  simp [normalized, Option.filter_eq_some_iff]

/-- A draft claims the key that it names for its tenant, unless the key is empty. -/
theorem claim_normalized_eq_some {tenant key : String} :
    d.normalized.claim = some (tenant, key) ↔
      d.tenant = tenant ∧ d.idempotencyKey = some key ∧ key ≠ "" := by
  simp only [normalized, claim, Option.map_eq_some_iff, Option.filter_eq_some_iff, Prod.mk.injEq]
  constructor
  · rintro ⟨k, ⟨hkey, hempty⟩, rfl, rfl⟩
    exact ⟨rfl, hkey, by simpa using hempty⟩
  · rintro ⟨rfl, hkey, hempty⟩
    exact ⟨key, ⟨hkey, by simpa using hempty⟩, rfl, rfl⟩

/-- There is nothing left to fill in. -/
theorem normalized_normalized (d : Draft) : d.normalized.normalized = d.normalized := by
  obtain ⟨hpriority, hattempts⟩ := not_or.1 d.normalized_checked
  have hpayload : ¬isEmptyPayload d.normalized.payload = true := by
    rw [d.isEmptyPayload_normalized]
    exact Bool.false_ne_true
  rw [normalized, if_neg hpriority, if_neg hattempts, if_neg hpayload]
  simp [normalized, Option.filter_filter]

end Draft

/-- The job that a draft asks for is the one that the normalized draft asks for. -/
theorem Job.queued_normalized (d : Draft) (ids : FreshIds) (now : Time) :
    Job.queued d.normalized ids now = Job.queued d ids now := by
  rw [Job.queued, d.normalized_normalized]
  rfl

end Dispatch
