import Dispatch.Proofs.Cluster.Stays
import Dispatch.Proofs.Floor.Next
import Dispatch.Proofs.Queue.Leases
import Dispatch.Proofs.Queue.Lossless
import Dispatch.Proofs.Store.Run
import Dispatch.Proofs.Worker.Conclusion

/-!
# A poll from start to end

A poll that nobody steps into, in the time of the cluster.  What it does at once is told in
stretches: it takes a job (`Poll.takes`) and hands it to the provider (`Poll.hands`); while it waits
it reports whenever a report is due (`Poll.ticks`); when the answer has come or the limit is reached
it commits and cleans up (`Poll.concludes`).  Where the answer and a report are due at once either
may come first, so there may be one more report at the end (`Poll.watched_due`).

At every rest the last report was made when the rest began, and the alarm for the next one is set a
period ahead.  That is all the induction over the reports needs (`Poll.watched`): it is on the time
that is left to the provider, which every report shortens by a period.

A poll looks ahead on the clock three times: to the end of the time for an entry, to the end of the
lease, and to the first report and the limit.  Where the clock does not go so far the poll breaks
off, and `Poll.Hindered` says what it leaves.
-/

namespace Dispatch

namespace Running

variable {σ ρ : Type} {next : Time → σ → Next σ ρ} {r : Running σ} {c : Cluster} {state state' : σ}
  {timeout : Span} {k : DequeueReply → σ}

end Running

namespace Poll

variable {config : WorkerConfig} {before c : Cluster} {j : Job} {presence : Presence}
  {r : Running Poll} {run : Execution} {report : Alarm} {seen start : Time}

/-- The oldest entry names a job that waits and that nobody holds, nobody else is at work, and
nothing goes wrong with any call. -/
structure Awaits (before : Cluster) (j : Job) : Prop where
  clean : before.Clean
  quiet : before.Quiet
  first : before.queue.ready.getLast? = some j.id
  free : before.queue.liveLease? j.id before.now = none
  stored : before.store.jobs.get? j.id = some j
  waiting : j.status = .queued

/-- A lane has started the job and holds it, and has touched nothing else. -/
structure Holds (config : WorkerConfig) (before : Cluster) (j : Job) (c : Cluster) : Prop where
  clean : c.Clean
  quiet : c.Quiet
  lease : c.queue.leases.get? j.id = some ⟨config.worker, before.now + before.queue.ttl⟩
  jobs : c.store.jobs = before.store.jobs.set j.id (j.begun before.now)
  attempts : c.store.attempts = before.store.attempts.set (j.id, j.attempt + 1)
    (.opened j.id (j.attempt + 1) before.now)
  otherReports : ∀ other, other ≠ config.worker →
    c.store.workers.get? other = before.store.workers.get? other
  ready : c.queue.ready = before.queue.ready.dropLast
  otherLeases : ∀ other, other ≠ j.id →
    c.queue.leases.get? other = before.queue.leases.get? other

/-- The lane that holds the job last reported at an instant that it runs the job. -/
structure Attends (config : WorkerConfig) (before : Cluster) (j : Job) (seen : Time)
    (c : Cluster) : Prop extends Holds config before j c where
  report : c.store.workers.get? config.worker =
    some ⟨config.worker, seen, .busy, some j.id, config.concurrency⟩

/-- Time, alarms, chance and crews do not matter. -/
theorem Attends.aside (h : Attends config before j seen c) (now : Time) (alarms : Nat)
    (coins : List Bool) (crews : List Crew) :
    Attends config before j seen { c with now, alarms, coins, crews } where
  clean := ⟨⟨h.clean.store, h.clean.queue⟩, h.clean.usable⟩
  quiet := ⟨h.quiet.ready, h.quiet.parked⟩
  lease := h.lease
  jobs := h.jobs
  attempts := h.attempts
  otherReports := h.otherReports
  ready := h.ready
  otherLeases := h.otherLeases
  report := h.report

/-- The lane reports that it runs the job. -/
theorem Holds.reported (h : Holds config before j c) :
    Attends config before j c.now { c with
      store := c.store.beat config.worker .busy (some j.id) config.concurrency c.now } where
  clean := ⟨⟨h.clean.store, h.clean.queue⟩, h.clean.usable⟩
  quiet := ⟨h.quiet.ready, h.quiet.parked⟩
  lease := h.lease
  jobs := h.jobs
  attempts := h.attempts
  otherReports other hother :=
    (Table.get?_set ..).trans ((if_neg (Ne.symm hother)).trans (h.otherReports other hother))
  ready := h.ready
  otherLeases := h.otherLeases
  report := (Table.get?_set ..).trans (if_pos rfl)

/-! ## The start -/

theorem Awaits.clean_pop (awaits : Awaits before j) : before.pop.2.Clean :=
  ⟨⟨awaits.clean.store, awaits.clean.queue⟩, awaits.clean.usable⟩

/-- The clock goes on for a poll as for whoever began it. -/
structure SameClock (before c : Cluster) : Prop where
  now : c.now = before.now
  hasTimeFor : ∀ pace limit, c.hasTimeFor pace limit = before.hasTimeFor pace limit
  heard : ∀ n limit, c.heard n limit = before.heard n limit

/-- Then it leases the job and starts it. -/
theorem starts (config : WorkerConfig) (awaits : Awaits before j) (r : Running Poll)
    (presence : Presence)
    (lasting : before.queue.reaches (before.now + before.queue.ttl) = true) :
    ∃ c, (r.moved ⟨presence, .leasing j.id⟩).LeadsIn (next config) 2 before.pop.2
        (r.moved ⟨presence.work j.id, .announcing (j.begun before.now)⟩) c ∧
      Holds config before j c ∧ SameClock before c := by
  have hclean := awaits.clean_pop
  obtain ⟨-, quiet, -, free, stored, waiting⟩ := awaits
  obtain ⟨t, hstart, hstarted⟩ := Store.start_waiting stored waiting config.worker before.now
  let lease : Lease := ⟨config.worker, before.now + before.queue.ttl⟩
  let leased : Cluster := { before.pop.2 with
    queue := { before.pop.2.queue with leases := before.queue.leases.set j.id lease } }
  let begun : Cluster := { leased with store := t }
  have hlasts : before.pop.2.queue.breaksOff before.now (.acquire j.id config.worker) = false := by
    show ((before.queue.liveLease? j.id before.now).isNone &&
      !before.queue.reaches (before.now + before.queue.ttl)) = false
    rw [lasting, Bool.not_true, Bool.and_false]
  have hgranted : before.pop.2.performed (.acquire j.id config.worker) = (.ok true, leased) := by
    have hfree : ¬ (before.pop.2.queue.liveLease? j.id before.now).isSome = true := by
      show ¬ (before.queue.liveLease? j.id before.now).isSome = true
      rw [free]
      decide
    unfold Cluster.performed
    rw [show before.pop.2.queue.perform before.pop.2.now _ = _ from
      LeaseQueue.perform_free hfree _]
    rfl
  have hlease : (r.moved ⟨presence, .leasing j.id⟩).LeadsIn (next config) 1 before.pop.2
      (r.moved ⟨presence, .starting j.id⟩) leased :=
    Running.leadsIn_queue hclean rfl hlasts hgranted rfl
  have hstarts : leased.storeDirectly (.start j.id config.worker) =
      (.ok (some (j.begun before.now)), begun) := by
    unfold Cluster.storeDirectly
    simp only [Store.perform]
    rw [show leased.store.start j.id config.worker leased.now = _ from hstart]
  have hbegin : (r.moved ⟨presence, .starting j.id⟩).LeadsIn (next config) 1 leased
      (r.moved ⟨presence.work j.id, .announcing (j.begun before.now)⟩) begun :=
    Running.leadsIn_store ⟨⟨hclean.store, hclean.queue⟩, hclean.usable⟩ rfl hstarts rfl
  refine ⟨begun, hlease.trans hbegin, ⟨⟨⟨hclean.store, hclean.queue⟩, hclean.usable⟩,
    ⟨quiet.ready, quiet.parked⟩, (Table.get?_set ..).trans (if_pos rfl), hstarted.jobs,
    hstarted.attempts, fun other _ => ?_, rfl, fun other hother => ?_⟩,
    ⟨rfl, fun _ _ => rfl, fun _ _ => rfl⟩⟩
  · exact congrArg (Table.get? · other) hstarted.workers
  · exact (Table.get?_set ..).trans (if_neg (Ne.symm hother))

/-- A poll that waits for the provider. -/
def atWork (j : Job) (start seen : Time) (run : Execution) (report : Alarm) : Poll :=
  ⟨⟨.busy, some j.id, some seen⟩, .executing (j.begun start) run report⟩

/-- Then it hands the job to the provider, and waits. -/
theorem hands (attends : Attends config before j c.now c) (r : Running Poll)
    (timely : c.hasTimeFor config.heartbeatPeriod config.providerTimeout = true) :
    ∃ c' run report,
      (r.moved ⟨⟨.busy, some j.id, some c.now⟩, .handing (j.begun before.now)⟩).LeadsIn
        (next config) 3 c (r.moved (atWork j before.now c'.now run report)) c' ∧
      Attends config before j c'.now c' ∧ c'.now = c.now ∧
      run.answer = c.heard r.crew config.providerTimeout ∧
      run.ends.due = c'.now + run.answer.duration config.providerTimeout ∧
      report.due = c'.now + config.heartbeatPeriod := by
  let presence : Presence := ⟨.busy, some j.id, some c.now⟩
  let handed := c.updateCrew r.crew (·.hand (j.begun before.now))
  let answer := c.heard r.crew config.providerTimeout
  have hhand : (r.moved ⟨presence, .handing (j.begun before.now)⟩).LeadsIn (next config) 1 c
      (r.moved ⟨presence, .limiting (j.begun before.now) answer⟩) handed :=
    Running.leadsIn_execute rfl timely rfl
  have hlimit : (r.moved ⟨presence, .limiting (j.begun before.now) answer⟩).LeadsIn
      (next config) 1 handed
      (r.moved ⟨presence, .scheduling (j.begun before.now)
        ⟨answer, ⟨c.now + answer.duration config.providerTimeout, handed.alarms⟩⟩
        (c.now + config.heartbeatPeriod)⟩)
      { handed with alarms := handed.alarms + 1 } :=
    Running.leadsIn_arm rfl rfl
  exact ⟨_, _, _, hhand.trans (hlimit.trans (Running.leadsIn_arm rfl rfl)),
    attends.aside _ _ _ _, rfl, rfl, rfl, rfl⟩

/-! ## The wait -/

/-- When its alarm for the next report has gone off, the lane reports and goes back to waiting,
unless the provider's time is up and it turns to that first. -/
theorem ticks (attends : Attends config before j seen c) (r : Running Poll) (wait : Wait)
    (ringing : report.due = c.now) (goesOn : (run.ends.isDue c.now && !c.toss.1) = false) :
    ∃ c' report', ((r.moved (atWork j before.now seen run report)).waiting wait).LeadsIn
        (next config) 4 c (r.moved (atWork j before.now c.now run report')) c' ∧
      Attends config before j c.now c' ∧ c'.now = c.now ∧
      report'.due = c.now + config.heartbeatPeriod := by
  let presence : Presence := ⟨.busy, some j.id, some seen⟩
  have htossed : Attends config before j seen c.toss.2 :=
    attends.aside c.now c.alarms c.coins.tail c.crews
  let told : Cluster := { c.toss.2 with
    store := c.store.beat config.worker .busy (some j.id) config.concurrency c.now }
  have hdue : report.isDue c.now = true := decide_eq_true (ringing ▸ Int.le_refl _)
  have hwake : ((r.moved (atWork j before.now seen run report)).waiting wait).LeadsIn
      (next config) 1 c (r.moved ⟨presence, .rousing (j.begun before.now) run report⟩) c :=
    Running.leadsIn_sleep rfl (by simp [hdue]) wait
  have hrouse : (r.moved ⟨presence, .rousing (j.begun before.now) run report⟩).LeadsIn
      (next config) 1 c (r.moved ⟨presence, .beating (j.begun before.now) run report.due⟩)
      c.toss.2 :=
    Running.leadsIn_toss rfl (if_neg (by rw [hdue, Bool.and_true, goesOn]; decide))
  have hreport : (r.moved ⟨presence, .beating (j.begun before.now) run report.due⟩).LeadsIn
      (next config) 1 c.toss.2
      (r.moved ⟨⟨.busy, some j.id, some c.now⟩, .scheduling (j.begun before.now) run
        (report.due + config.heartbeatPeriod)⟩) told :=
    Running.leadsIn_store htossed.clean rfl rfl rfl
  exact ⟨_, _, hwake.trans (hrouse.trans (hreport.trans (Running.leadsIn_arm rfl rfl))),
    htossed.reported.aside _ _ _ _, rfl, by rw [ringing]⟩

/-! ## The end -/

/-- A lane that had a job is idle, an entry is consumed and the lease is given back, and nothing
else has changed than the job and its next attempt. -/
structure Cleared (config : WorkerConfig) (before : Cluster) (j : Job) (last : Cluster) : Prop where
  report : last.store.workers.get? config.worker =
    some ⟨config.worker, last.now, .idle, none, config.concurrency⟩
  ready : last.queue.ready = before.queue.ready.dropLast
  lease : last.queue.leases.get? j.id = none
  otherJobs : ∀ other, other ≠ j.id →
    last.store.jobs.get? other = before.store.jobs.get? other
  otherAttempts : ∀ key, key ≠ (j.id, j.attempt + 1) →
    last.store.attempts.get? key = before.store.attempts.get? key
  otherReports : ∀ other, other ≠ config.worker →
    last.store.workers.get? other = before.store.workers.get? other
  otherLeases : ∀ other, other ≠ j.id →
    last.queue.leases.get? other = before.queue.leases.get? other

/-- A lane has seen a job through: besides, the job and its next attempt have ended with a
result. -/
structure SeenThrough (config : WorkerConfig) (before : Cluster) (j : Job)
    (result : Except ProviderError Usage) (last : Cluster) : Prop
    extends Cleared config before j last where
  job : last.store.jobs.get? j.id = some (j.concluded before.now last.now result)
  attempt : last.store.attempts.get? (j.id, j.attempt + 1) =
    some (.concluded j.id (j.attempt + 1) before.now last.now result)

/-- The lane that holds a job has seen it through when the commit is taken, the lease is given back
and the last report is made. -/
theorem Attends.seenThrough (attends : Attends config before j seen c) {s : Store}
    {result : Except ProviderError Usage}
    (jobs : s.jobs = c.store.jobs.set j.id (j.concluded before.now c.now result))
    (attempts : s.attempts = c.store.attempts.set (j.id, j.attempt + 1)
      (.concluded j.id (j.attempt + 1) before.now c.now result))
    (workers : s.workers = c.store.workers) :
    SeenThrough config before j result { c with
      store := s.beat config.worker .idle none config.concurrency c.now
      queue := c.queue.release j.id } := by
  rw [attends.jobs] at jobs
  rw [attends.attempts] at attempts
  refine ⟨⟨?_, attends.ready, ?_, fun other hother => ?_, fun key hkey => ?_,
    fun other hother => ?_, fun other hother => ?_⟩, ?_, ?_⟩
  · exact (Table.get?_set ..).trans (if_pos rfl)
  · exact (Table.get?_erase ..).trans (if_pos rfl)
  · exact (congrArg (Table.get? · other) jobs).trans (by simp [Ne.symm hother])
  · exact (congrArg (Table.get? · key) attempts).trans (by simp [Ne.symm hkey])
  · refine (Table.get?_set ..).trans ((if_neg (Ne.symm hother)).trans ?_)
    exact (congrArg (Table.get? · other) workers).trans (attends.otherReports other hother)
  · refine (Table.get?_erase ..).trans ((if_neg (Ne.symm hother)).trans ?_)
    exact attends.otherLeases other hother
  · exact (congrArg (Table.get? · j.id) jobs).trans ((Table.get?_set ..).trans (if_pos rfl))
  · exact (congrArg (Table.get? · _) attempts).trans ((Table.get?_set ..).trans (if_pos rfl))

/-- When the answer has come or the limit is reached, the poll commits the result and cleans up at
once, unless it turns to a report first. -/
theorem concludes (attends : Attends config before j seen c) (r : Running Poll) (wait : Wait)
    (due : run.ends.isDue c.now = true) (turns : (c.toss.1 && report.isDue c.now) = false) :
    ∃ last, ((r.moved (atWork j before.now seen run report)).waiting wait).StopsIn (next config) 6 c
        (.ended (.ok (committed (j.begun before.now) (run.answer.within config.providerTimeout)),
          ⟨.idle, none, some c.now⟩)) last ∧
      last.now = c.now ∧ last.Quiet ∧
      SeenThrough config before j (run.answer.within config.providerTimeout) last := by
  let presence : Presence := ⟨.busy, some j.id, some seen⟩
  let job := j.begun before.now
  let result := run.answer.within config.providerTimeout
  let m : Moment := ⟨c.now, c.fresh⟩
  have htossed : Attends config before j seen c.toss.2 :=
    attends.aside c.now c.alarms c.coins.tail c.crews
  have hrow : c.store.jobs.get? j.id = some (j.begun before.now) := by rw [attends.jobs]; simp
  have hopened : c.store.attempts.get? (j.id, j.attempt + 1) =
      some (.opened j.id (j.attempt + 1) before.now) := by rw [attends.attempts]; simp
  obtain ⟨htaken, hjobs, hattempts, hworkers⟩ :=
    Store.perform_commitCall hrow hopened config.worker result m
  let settled : Cluster := { c.toss.2 with
    store := (c.store.perform m (commitCall config.worker job result)).2 }
  have hclean : settled.Clean := ⟨⟨attends.clean.store, attends.clean.queue⟩, attends.clean.usable⟩
  have hwake : ((r.moved (atWork j before.now seen run report)).waiting wait).LeadsIn
      (next config) 1 c (r.moved ⟨presence, .rousing job run report⟩) c :=
    Running.leadsIn_sleep rfl (by simp [due]) wait
  have hrouse : (r.moved ⟨presence, .rousing job run report⟩).LeadsIn (next config) 1 c
      (r.moved ⟨presence, .committing job result 1⟩) c.toss.2 :=
    Running.leadsIn_toss rfl (if_pos (by rw [due, turns]; rfl))
  have hcommit : (r.moved ⟨presence, .committing job result 1⟩).LeadsIn (next config) 1 c.toss.2
      (r.moved ⟨presence, .releasing j.id (committed job result)⟩) settled :=
    Running.leadsIn_store htossed.clean rfl rfl
      (congrArg (fun reply => (⟨presence, afterCommit config job result 1 reply⟩ : Poll)) htaken)
  have hrelease : (r.moved ⟨presence, .releasing j.id (committed job result)⟩).LeadsIn
      (next config) 1 settled (r.moved ⟨presence.rest, .retiring (committed job result)⟩)
      { settled with queue := c.queue.release j.id } :=
    Running.leadsIn_queue hclean rfl rfl rfl rfl
  have hretire : (r.moved ⟨presence.rest, .retiring (committed job result)⟩).LeadsIn
      (next config) 1 { settled with queue := c.queue.release j.id }
      (r.moved ⟨⟨.idle, none, some c.now⟩, .finished (.ok (committed job result))⟩) _ :=
    Running.leadsIn_store ⟨⟨hclean.store, hclean.queue⟩, hclean.usable⟩ rfl rfl rfl
  exact ⟨_, hwake.stops (hrouse.stops (hcommit.stops (hrelease.stops (hretire.stops
    (Running.stopsIn_finished rfl))))), rfl, ⟨attends.quiet.ready, attends.quiet.parked⟩,
    htossed.seenThrough hjobs hattempts hworkers⟩

/-! ## The whole poll -/

/-- The cluster stays as it is while the lane attends to the job, and no longer than the lane's
reports allow. -/
structure Attended (config : WorkerConfig) (before : Cluster) (j : Job) (stay : Stay) : Prop where
  attends : Attends config before j stay.cluster.now stay.cluster
  soon : stay.ends ≤ stay.cluster.now + config.heartbeatPeriod

theorem heartbeatPeriod_pos (config : WorkerConfig) : 0 < config.heartbeatPeriod.nanos :=
  Nat.lt_of_lt_of_le (by decide) (Nat.le_max_right ..)

theorem lt_add_heartbeat (config : WorkerConfig) (t : Time) : t < t + config.heartbeatPeriod := by
  have hpos := heartbeatPeriod_pos config
  show t.nanos < t.nanos + (config.heartbeatPeriod.nanos : Int)
  omega

/-- A poll that comes by the end of its wait when that is due ends at once, with one more report if
that is due as well and comes first. -/
theorem watched_due {n : Nat} {r₀ : Running Poll} {c₀ : Cluster} (wait : Wait)
    (leads : r₀.LeadsIn (next config) n c₀
      ((r.moved (atWork j before.now seen run report)).waiting wait) c)
    (few : n ≤ 7) (attends : Attends config before j seen c)
    (due : run.ends.isDue c.now = true) (timely : c.now ≤ report.due) :
    ∃ last, Cluster.Watched (.run (next config) r₀ .done) c₀ []
        (.ok (committed (j.begun before.now) (run.answer.within config.providerTimeout)),
          ⟨.idle, none, some c.now⟩) last ∧
      last.now = c.now ∧
      SeenThrough config before j (run.answer.within config.providerTimeout) last := by
  cases hturns : (c.toss.1 && report.isDue c.now) with
  | false =>
    obtain ⟨last, hstops, hnow, hquiet, seenThrough⟩ := concludes attends r wait due hturns
    refine ⟨last, .ended ((leads.stops hstops).run_stride ?_) hquiet, hnow, seenThrough⟩
    exact Nat.le_trans (Nat.add_le_add_left few 6) (by decide)
  | true =>
    -- after this report no other one is due
    obtain ⟨htoss, hreport⟩ := Bool.and_eq_true_iff.1 hturns
    have hringing : report.due = c.now := Time.le_antisymm (of_decide_eq_true hreport) timely
    obtain ⟨c', report', hticks, hattends, hnow, hnext⟩ :=
      ticks attends r wait hringing (by rw [htoss, Bool.not_true, Bool.and_false])
    have hlater : report'.isDue c'.now = false := by
      rw [Alarm.isDue, hnext, hnow]
      exact decide_eq_false (Int.not_le.2 (lt_add_heartbeat config c.now))
    obtain ⟨last, hstops, hlast, hquiet, seenThrough⟩ :=
      concludes hattends r .nothing (hnow ▸ due) (by rw [hlater, Bool.and_false])
    rw [hnow] at hstops hlast
    refine ⟨last, .ended (((leads.trans hticks).stops hstops).run_stride ?_) hquiet, hlast,
      seenThrough⟩
    exact Nat.le_trans (Nat.add_le_add_left (Nat.add_le_add_left few 4) 6) (by decide)

/-- A poll that comes to its wait rests there until a report or the end is due. -/
theorem watched_rests {n : Nat} {r₀ : Running Poll} {c₀ last : Cluster} {stays : List Stay}
    {result : PollResult × Presence} {due : Time}
    (leads : r₀.LeadsIn (next config) n c₀ (r.moved (atWork j before.now c.now run report)) c)
    (few : n ≤ 7) (attends : Attends config before j c.now c) (pending : c.now < run.ends.due)
    (upcoming : report.due = c.now + config.heartbeatPeriod)
    (first : (if report.due < run.ends.due then report.due else run.ends.due) = due)
    (later : Cluster.Watched (.run (next config)
        ((r.moved (atWork j before.now c.now run report)).waiting (.alarm [run.ends, report]))
        .done)
      { c with now := due } stays result last) :
    Cluster.Watched (.run (next config) r₀ .done) c₀ (⟨c, due⟩ :: stays) result last ∧
      c.now < due ∧ Attended config before j ⟨c, due⟩ := by
  have hnext : c.now < report.due := upcoming ▸ lt_add_heartbeat config c.now
  have hsilent : ¬ [run.ends, report].any (·.isDue c.now) = true := by
    have hends : ¬ run.ends.due ≤ c.now := Int.not_le.2 pending
    have hreport : ¬ report.due ≤ c.now := Int.not_le.2 hnext
    simp [Alarm.isDue, hends, hreport]
  have hbounds : c.now < due ∧ due ≤ report.due := by
    rw [← first]
    split
    · exact ⟨hnext, Int.le_refl _⟩
    · exact ⟨pending, Int.not_lt.1 ‹_›⟩
  have hrests := leads.run_stride rfl hsilent
    (Nat.le_trans (Nat.add_le_add_left few 1) (by decide))
  exact ⟨.rests hrests attends.quiet hsilent (congrArg some first) hbounds.1 later, hbounds.1,
    attends, upcoming ▸ hbounds.2⟩

/-- A poll that has come to wait for the provider is watched to its end. -/
theorem watched {n : Nat} {r₀ : Running Poll} {c₀ : Cluster}
    (leads : r₀.LeadsIn (next config) n c₀ (r.moved (atWork j before.now c.now run report)) c)
    (few : n ≤ 7) (attends : Attends config before j c.now c) (early : c.now ≤ run.ends.due)
    (upcoming : report.due = c.now + config.heartbeatPeriod) :
    ∃ stays last, Cluster.Watched (.run (next config) r₀ .done) c₀ stays
        (.ok (committed (j.begun before.now) (run.answer.within config.providerTimeout)),
          ⟨.idle, none, some run.ends.due⟩) last ∧
      last.now = run.ends.due ∧ Covers c.now stays run.ends.due ∧
      (∀ stay ∈ stays, Attended config before j stay) ∧
      SeenThrough config before j (run.answer.within config.providerTimeout) last := by
  -- on the time that is left to the provider
  induction hleft : (run.ends.due.nanos - c.now.nanos).toNat using Nat.strongRecOn
    generalizing n r₀ c₀ c report with
  | ind left ih =>
    by_cases hdue : run.ends.isDue c.now = true
    · obtain ⟨last, hwatched, hnow, through⟩ := watched_due .nothing leads few attends hdue
        (upcoming ▸ Time.le_add ..)
      have hstop : c.now = run.ends.due := Time.le_antisymm early (of_decide_eq_true hdue)
      rw [hstop] at hwatched hnow ⊢
      exact ⟨[], last, hwatched, hnow, .none _, by simp, through⟩
    have hpending : c.now < run.ends.due := Int.not_le.1 fun h => hdue (decide_eq_true h)
    by_cases hsoon : report.due < run.ends.due
    · -- the report comes first, and the wait goes on after it
      have hstill : run.ends.isDue report.due = false := decide_eq_false (Int.not_le.2 hsoon)
      obtain ⟨c', report', hticks, hattends, hnow, hupcoming⟩ :=
        ticks (attends.aside report.due c.alarms c.coins c.crews) r (.alarm [run.ends, report]) rfl
          (by rw [hstill, Bool.false_and])
      dsimp only at hticks hattends hnow hupcoming
      rw [← hnow] at hupcoming
      have hless : (run.ends.due.nanos - c'.now.nanos).toNat < left := by
        have hpos := heartbeatPeriod_pos config
        have hdue' : report.due.nanos = c.now.nanos + config.heartbeatPeriod.nanos :=
          congrArg Time.nanos upcoming
        have hroom : report.due.nanos < run.ends.due.nanos := hsoon
        rw [hnow, ← hleft]
        omega
      obtain ⟨stays, last, hwatched, hlast, hcovers, hall, through⟩ :=
        ih _ hless (by rw [hnow]; exact hticks) (by decide) (by rw [hnow]; exact hattends)
          (by rw [hnow]; exact Int.le_of_lt hsoon) hupcoming rfl
      rw [hnow] at hcovers
      obtain ⟨hrests, hforward, hattended⟩ :=
        watched_rests leads few attends hpending upcoming (if_pos hsoon) hwatched
      exact ⟨_, last, hrests, hlast, .cons ⟨c, report.due⟩ hforward hcovers,
        List.forall_mem_cons.2 ⟨hattended, hall⟩, through⟩
    · obtain ⟨last, hwatched, hnow, through⟩ := watched_due (n := 0)
        (.alarm [run.ends, report]) (fun _ => rfl) (Nat.zero_le 7)
        (attends.aside run.ends.due c.alarms c.coins c.crews) (decide_eq_true (Int.le_refl _))
        (Int.not_lt.1 hsoon)
      obtain ⟨hrests, hforward, hattended⟩ :=
        watched_rests leads few attends hpending upcoming (if_neg hsoon) hwatched
      exact ⟨_, last, hrests, hnow, .cons ⟨c, run.ends.due⟩ hforward (.none _),
        List.forall_mem_cons.2 ⟨hattended, by simp⟩, through⟩

/-- A poll tells a result of the next attempt of a job: by its outcome, in the row of the job and in
the row of the attempt. -/
structure Tells (outcome : PollOutcome) (s : Store) (j : Job) (start stop : Time)
    (result : Except ProviderError Usage) : Prop where
  outcome : outcome = committed j result
  job : s.jobs.get? j.id = some (j.concluded start stop result)
  attempt : s.attempts.get? (j.id, j.attempt + 1) =
    some (.concluded j.id (j.attempt + 1) start stop result)

/-- What has come of a poll that nobody stepped into. -/
structure Served (config : WorkerConfig) (before : Cluster) (j : Job) (answer : Answer)
    (stop : Time) (stays : List Stay) (outcome : PollOutcome) (after : Cluster) : Prop
    extends Cleared config before j after where
  now : after.now = stop
  succeeded : ∀ usage, Tells outcome after.store j before.now stop (.ok usage) ↔
    answer.delay ≤ config.providerTimeout ∧ answer.result = .ok usage
  failed : ∀ reason, Tells outcome after.store j before.now stop (.error (.failed reason)) ↔
    answer.delay ≤ config.providerTimeout ∧ answer.result = .error (.failed reason)
  timedOut : (∃ limit, Tells outcome after.store j before.now stop (.error (.timeout limit))) ↔
    config.providerTimeout < answer.delay ∨ ∃ limit, answer.result = .error (.timeout limit)
  /-- There is nothing else than these stays between the start and the end. -/
  pending : Covers before.now stays stop
  /-- All the while the lane reports that it runs the job, and no report gets too old. -/
  reports : ∀ stay ∈ stays, ∃ seen : Time,
    stay.cluster.store.workers.get? config.worker =
      some ⟨config.worker, seen, .busy, some j.id, config.concurrency⟩ ∧
    stay.ends ≤ seen + config.heartbeatPeriod

/-- A poll tells what the provider's answer came to under the limit, and nothing else. -/
theorem SeenThrough.tells_iff {result said : Except ProviderError Usage} {last : Cluster}
    (through : SeenThrough config before j result last)
    (apart : Attempt.concluded j.id (j.attempt + 1) before.now last.now result =
      .concluded j.id (j.attempt + 1) before.now last.now said ↔ result = said) :
    Tells (committed j result) last.store j before.now last.now said ↔ result = said := by
  refine ⟨fun h => apart.1 (Option.some.inj (through.attempt.symm.trans h.attempt)), ?_⟩
  rintro rfl
  exact ⟨rfl, through.job, through.attempt⟩

theorem SeenThrough.served {answer : Answer} {stays : List Stay} {last : Cluster}
    (through : SeenThrough config before j (answer.within config.providerTimeout) last)
    (covers : Covers before.now stays last.now)
    (attended : ∀ stay ∈ stays, Attended config before j stay) :
    Served config before j answer last.now stays
      (committed j (answer.within config.providerTimeout)) last where
  toCleared := through.toCleared
  now := rfl
  succeeded usage :=
    (through.tells_iff Attempt.concluded_eq_ok).trans Answer.within_eq_ok
  failed reason :=
    (through.tells_iff Attempt.concluded_eq_failed).trans Answer.within_eq_failed
  timedOut := by
    rw [← Answer.within_eq_timeout]
    constructor
    · rintro ⟨limit, tells⟩
      exact Attempt.concluded_eq_timeout
        (Option.some.inj (through.attempt.symm.trans tells.attempt))
    · rintro ⟨limit, hresult⟩
      exact ⟨limit, congrArg _ hresult, hresult ▸ through.job, hresult ▸ through.attempt⟩
  pending := covers
  reports stay hstay := by
    obtain ⟨attends, soon⟩ := attended stay hstay
    exact ⟨stay.cluster.now, attends.report, soon⟩

end Poll

end Dispatch
