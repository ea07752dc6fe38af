import Dispatch.Proofs.Http.Liveness
import Dispatch.Proofs.Settings.Load

/-!
# Missing one report

Settings are accepted if the grace is at least two intervals between reports, so that a worker may
miss one of them.  A lane that is at work waits a millisecond at least between two reports, however
short the interval is, but the grace is compared with the interval.  The two differ only where the
interval is zero, as a span that was read is a whole number of milliseconds.  The view of a worker
has a limit of its own: a hundred years stand for a grace that is beyond the longest one, which may
be less than two intervals.  Under all other settings that are accepted a report may be missed
(`Settings.sparesLate_iff`).
-/

namespace Dispatch

/-- A report that is later than the cutoff keeps the job that it names with its worker. -/
theorem Store.not_mem_requeueOrphaned {s : Store} (use : s.InUse) {worker : WorkerId}
    {h : Heartbeat} (row : s.workers.get? worker = some h) {id : JobId} (runs : h.running = some id)
    {staleAfter : Span} {now : Time} (young : (staleCutoff now staleAfter : Timestamp) < h.seenAt) :
    id ∉ (s.requeueOrphaned staleAfter now).1.map (·.id) := by
  rw [(use.reclaims staleAfter now).selected]
  rintro ⟨j, rfl, abandoned⟩
  exact abandoned.unvouched worker h row runs young

namespace Settings

variable {lookup : Lookup} {settings : Settings}

/-- Whatever has happened to a store, a report of an age below two periods between reports is live,
and the job that it names is not among the orphans that the reconciler asks for. -/
def SparesLate (settings : Settings) : Prop :=
  ∀ (calls : List (Moment × StoreCall)) (now : Time) (worker : WorkerId) (h : Heartbeat),
    (Store.empty.afterAll calls).workers.get? worker = some h →
    (Time.earliest : Timestamp) < h.seenAt → now < Time.horizon →
    (now : Timestamp).since h.seenAt < 2 * settings.workerConfig.heartbeatPeriod.nanos →
      h.isLive now (Http.graceOf settings.staleAfter) = true ∧
      ∀ id, h.running = some id → id ∉ ((Store.empty.afterAll calls).requeueOrphaned
        settings.reconcilerConfig.staleAfter now).1.map (·.id)

/-- Two periods fit into the grace unless there is no interval and hardly any grace. -/
theorem twice_period_le_iff (h : load lookup = .ok settings) :
    2 * settings.workerConfig.heartbeatPeriod.nanos ≤ settings.staleAfter.nanos ↔
      ¬(settings.heartbeatInterval = .zero ∧ settings.staleAfter < .ofMillis 2) := by
  have htwice : 2 * settings.heartbeatInterval.nanos ≤ settings.staleAfter.nanos :=
    twice_le_staleAfter h
  have hinterval : settings.heartbeatInterval.nanos % 1000000 = 0 :=
    (((checks_load lookup).ok_iff settings).1 h).2.heartbeatInterval.writable
      writable_defaults.1 |>.1
  have hzero : settings.heartbeatInterval = .zero ↔ settings.heartbeatInterval.nanos = 0 := by
    obtain ⟨interval⟩ := settings.heartbeatInterval
    exact Span.mk.injEq interval 0 ▸ Iff.rfl
  have hshort : settings.staleAfter < .ofMillis 2 ↔ settings.staleAfter.nanos < 2000000 := Iff.rfl
  -- an interval of less than a millisecond is none
  show 2 * max settings.heartbeatInterval.nanos 1000000 ≤ _ ↔ _
  rw [hzero, hshort]
  omega

/-- A report as old as the grace is not live. -/
theorem not_sparesLate
    (hlong : Http.graceOf settings.staleAfter < 2 * settings.workerConfig.heartbeatPeriod.nanos)
    (hnow : Http.graceOf settings.staleAfter < Time.horizon.nanos) : ¬settings.SparesLate := by
  intro hspares
  have hlive := hspares [(⟨⟨0⟩, .numbered 0 0⟩, .beat ⟨"w"⟩ .idle none 1)]
    ⟨Http.graceOf settings.staleAfter⟩ ⟨"w"⟩ _ rfl (by decide) hnow
  have hage : ((⟨Http.graceOf settings.staleAfter⟩ : Time) : Timestamp).since (⟨0⟩ : Time) =
      Http.graceOf settings.staleAfter := by
    rw [Timestamp.since_ofTime]
    exact Int.sub_zero _
  have hyoung := (hlive (hage.symm ▸ hlong)).1
  rw [Heartbeat.isLive, decide_eq_true_eq, hage] at hyoung
  exact lt_irrefl _ hyoung

/-- Under settings that are accepted one report may be missed, unless there is no interval between
reports and a grace of less than two milliseconds, or the grace is beyond the longest one and the
interval is longer than fifty years. -/
theorem sparesLate_iff (h : load lookup = .ok settings) :
    settings.SparesLate ↔
      ¬(settings.heartbeatInterval = .zero ∧ settings.staleAfter < .ofMillis 2) ∧
      (settings.staleAfter ≤ Http.longestGrace ∨
        settings.heartbeatInterval ≤ .ofSeconds (18250 * 86400)) := by
  have hlongest : settings.staleAfter ≤ Http.longestGrace ↔
      settings.staleAfter.nanos ≤ 9223372036854775807 * 1000000 := Iff.rfl
  have hfifty : settings.heartbeatInterval ≤ .ofSeconds (18250 * 86400) ↔
      settings.heartbeatInterval.nanos ≤ 18250 * 86400 * 1000000000 := Iff.rfl
  have hperiod : settings.workerConfig.heartbeatPeriod.nanos =
      max settings.heartbeatInterval.nanos 1000000 := rfl
  have hhorizon : (36500 * 86400 * 1000000000 : ℤ) < Time.horizon.nanos := by decide
  constructor
  · intro hspares
    constructor
    · rintro ⟨hnone, hshort⟩
      have hzero : settings.heartbeatInterval.nanos = 0 := congrArg Span.nanos hnone
      have htwo : settings.staleAfter.nanos < 2000000 := hshort
      have hgrace : Http.graceOf settings.staleAfter = settings.staleAfter.nanos :=
        if_pos (hlongest.2 (by omega))
      exact not_sparesLate (by omega) (by omega) hspares
    · by_contra hlimit
      rw [not_or, hfifty] at hlimit
      have hgrace : Http.graceOf settings.staleAfter = 36500 * 86400 * 1000000000 :=
        if_neg hlimit.1
      exact not_sparesLate (by omega) (by omega) hspares
  · rintro ⟨hsome, hlimit⟩ calls now worker row hrow hstarted _ hyoung
    have hgrace := (twice_period_le_iff h).2 hsome
    obtain ⟨seen, stamp⟩ := Store.Stamped.afterAll .empty (fun worker h hrow => by cases hrow)
      calls worker row hrow
    rw [stamp, Timestamp.ofTime_lt_ofTime] at hstarted
    rw [stamp, Timestamp.since_ofTime] at hyoung
    have hage : now.nanos - seen.nanos < settings.staleAfter.nanos := by omega
    constructor
    · have hhundred : settings.staleAfter ≤ Http.longestGrace ∨
          now.nanos - seen.nanos < 36500 * 86400 * 1000000000 :=
        hlimit.imp_right fun hoften => by
          rw [hfifty] at hoften
          omega
      exact (Heartbeat.isLive_iff stamp).2 ((Http.lt_graceOf_iff hhundred).2 hage)
    · intro id runs
      apply Store.not_mem_requeueOrphaned (.afterAll calls) hrow runs
      rw [stamp, Timestamp.ofTime_lt_ofTime]
      exact (Store.staleCutoff_lt_iff hstarted).2 hage

/-- Lanes that report every two and a half seconds may miss a report with a grace of twenty. -/
theorem sparesLate_threeLanes :
    ∃ settings, load threeLanes = .ok settings ∧ settings.concurrency = 3 ∧ settings.SparesLate :=
  ⟨_, load_threeLanes, rfl, (sparesLate_iff load_threeLanes).2 (by decide)⟩

/-- Reports without an interval and a grace of a millisecond: a lane that reported a millisecond ago
is not live, and its job is sent back although the next report is just due. -/
theorem not_sparesLate_one_millisecond :
    let lookup : Lookup := fun name =>
      if name = "HEARTBEAT_INTERVAL" then some "0"
      else if name = "WORKER_STALE_AFTER" then some "1ms" else none
    let job := (FreshIds.numbered 0 1).job
    let start : Moment := ⟨⟨0⟩, .numbered 0 1⟩
    let s := Store.empty.afterAll [(start, .create { tenant := "acme", model := "small" }),
      (start, .start job ⟨"w"⟩), (start, .beat ⟨"w"⟩ .busy (some job) 1)]
    let now : Time := ⟨1000000⟩
    ∃ settings h, load lookup = .ok settings ∧ s.workers.get? ⟨"w"⟩ = some h ∧
      h.running = some job ∧
      (now : Timestamp).since h.seenAt < 2 * settings.workerConfig.heartbeatPeriod.nanos ∧
      h.isLive now (Http.graceOf settings.staleAfter) = false ∧
      job ∈ (s.requeueOrphaned settings.reconcilerConfig.staleAfter now).1.map (·.id) := by
  intro lookup job start s now
  refine ⟨_, _, rfl, rfl, rfl, ?_, ?_, ?_⟩
  · decide +kernel
  · decide +kernel
  · decide +kernel

end Settings

end Dispatch
