import Dispatch.Deployment
import Dispatch.Proofs.Settings.Load
import Dispatch.Worker.Lane

/-!
# Settings in machine words

Settings count lanes in a word of 64 bits and spans in words of seconds, but a report has 32 bits
with a sign for the number of lanes, and a lease is asked for in milliseconds, of which a word of
seconds has a thousand times too many.  Neither is checked when the settings are read, so both
counts arrive as they are set just where they fit (`Settings.keepsCounts_iff`), and beyond that they
wrap around.
-/

namespace Dispatch

namespace Settings

variable {lookup : Lookup} {settings : Settings}

/-! ## What is set -/

theorem one_le_concurrency (h : load lookup = .ok settings) : 1 ≤ settings.concurrency := by
  have hset := (((checks_load lookup).ok_iff settings).1 h).2.concurrency
  unfold StandsFor at hset
  cases hvalue : value? lookup "WORKER_CONCURRENCY" with
  | none =>
    rw [hvalue] at hset
    exact hset ▸ le_refl 1
  | some raw =>
    rw [hvalue] at hset
    exact hset.2.1

/-- A lease lasts for whole milliseconds, one at least. -/
theorem exists_leaseTtl_eq (h : load lookup = .ok settings) :
    ∃ millis, 0 < millis ∧ settings.leaseTtl = .ofMillis millis := by
  obtain ⟨hmet, hdescribes⟩ := ((checks_load lookup).ok_iff settings).1 h
  simp only [requirements, List.forall_mem_cons] at hmet
  obtain ⟨-, -, -, hpositive, -⟩ := hmet
  have hwhole : settings.leaseTtl.nanos % 1000000 = 0 :=
    (hdescribes.leaseTtl.writable (by decide)).1
  have hne : settings.leaseTtl.nanos ≠ 0 := by
    intro hzero
    have hlease : settings.leaseTtl = .zero := congrArg Span.mk hzero
    exact hpositive (hlease ▸ hdescribes.leaseTtl)
  refine ⟨settings.leaseTtl.nanos / 1000000, by omega, ?_⟩
  show settings.leaseTtl = ⟨settings.leaseTtl.nanos / 1000000 * 1000000⟩
  rw [Nat.div_mul_cancel (Nat.dvd_of_mod_eq_zero hwhole)]

/-! ## What arrives -/

/-- The lanes know how many of them there are, and report it. -/
structure TellsLanes (settings : Settings) : Prop where
  shared : settings.workerConfig.concurrency = settings.concurrency
  own : ∀ lane < settings.concurrency,
    (settings.workerConfig.forLane lane settings.concurrency).concurrency = settings.concurrency
  reported : ∀ lane < settings.concurrency, ∀ presence : Presence,
    ∃ worker state running count, 1 ≤ count ∧
      presence.beat (settings.workerConfig.forLane lane settings.concurrency) =
        .beat worker state running count

/-- The server is asked for leases that last as long as they are set to, which is some time. -/
def KeepsLeases (settings : Settings) : Prop :=
  ∀ (database : Postgres.Playback) (server : Redis.Playback) (id : JobId) (worker : WorkerId),
    ∃ millis, 0 < millis ∧ Span.ofMillis millis = settings.leaseTtl ∧
      (Deployment.ofSettings settings database server).queue.command (.acquire id worker) =
        .claim id.leaseKey worker.text millis

end Settings

/-- The lanes of a worker are counted in 32 bits with a sign. -/
theorem WorkerConfig.concurrency_forLane (c : WorkerConfig) (lane lanes : ℕ) :
    (c.forLane lane lanes).concurrency = narrow lanes := by
  simp only [forLane]

/-- A count keeps its value in 32 bits with a sign if it has 31 bits. -/
theorem WorkerConfig.narrow_eq_iff (n : ℕ) : narrow n = n ↔ n ≤ 2147483647 := by
  unfold narrow
  constructor
  · intro h
    have hlt : (n : ℤ).bmod 4294967296 < (4294967296 + 1) / 2 := Int.bmod_lt (by decide)
    omega
  · intro h
    exact Int.bmod_eq_of_le (by omega) (by omega)

/-- Milliseconds, one at least, are asked for as they are if they fit into a word. -/
theorem RedisQueue.leaseMillis_eq_iff (key : String) {millis : ℕ} (hpos : 0 < millis) :
    ({ readyKey := key, ttl := .ofMillis millis } : RedisQueue).leaseMillis = millis ↔
      millis ≤ Numeral.maxWord := by
  have hwhole : (Span.ofMillis millis).nanos / 1000000 = millis := by
    unfold Span.ofMillis
    exact Nat.mul_div_cancel millis (by decide)
  unfold leaseMillis Numeral.maxWord
  rw [hwhole, max_eq_left hpos]
  omega

namespace Settings

variable {lookup : Lookup} {settings : Settings}

theorem concurrency_workerConfig (settings : Settings) :
    settings.workerConfig.concurrency = WorkerConfig.narrow settings.concurrency := by
  simp only [workerConfig]

theorem tellsLanes_iff (h : load lookup = .ok settings) :
    settings.TellsLanes ↔ settings.concurrency ≤ 2147483647 := by
  rw [← WorkerConfig.narrow_eq_iff]
  constructor
  · intro htells
    rw [← concurrency_workerConfig]
    exact htells.shared
  · intro hfits
    have hown : ∀ lane, (settings.workerConfig.forLane lane settings.concurrency).concurrency =
        settings.concurrency := by
      intro lane
      rw [WorkerConfig.concurrency_forLane, hfits]
    have hshared := (concurrency_workerConfig settings).trans hfits
    refine ⟨hshared, fun lane _ => hown lane, fun lane _ presence => ⟨_, _, _, _, ?_, rfl⟩⟩
    rw [hown]
    exact_mod_cast one_le_concurrency h

theorem keepsLeases_iff (h : load lookup = .ok settings) :
    settings.KeepsLeases ↔ settings.leaseTtl ≤ .ofMillis Numeral.maxWord := by
  obtain ⟨millis, hpos, hlease⟩ := exists_leaseTtl_eq h
  have hbound : settings.leaseTtl ≤ .ofMillis Numeral.maxWord ↔ millis ≤ Numeral.maxWord := by
    rw [hlease]
    exact Nat.mul_le_mul_right_iff (by decide)
  rw [hbound, ← RedisQueue.leaseMillis_eq_iff settings.readyKey hpos, ← hlease]
  constructor
  · intro hkeeps
    obtain ⟨asked, -, hasked, hcommand⟩ := hkeeps {} {} ⟨.nil⟩ ⟨"w"⟩
    have hsame : asked = millis :=
      Nat.eq_of_mul_eq_mul_right (by decide) (congrArg Span.nanos (hasked.trans hlease))
    rw [← hsame]
    exact (Redis.Command.claim.inj hcommand).2.2
  · intro hfits database server id worker
    refine ⟨millis, hpos, hlease.symm, ?_⟩
    conv_rhs => rw [← hfits]
    rfl

/-- Under settings that are accepted the lanes tell how many they are just if their number has 31
bits, and leases last as long as they are set to just if a word counts their milliseconds. -/
theorem keepsCounts_iff (h : load lookup = .ok settings) :
    (settings.TellsLanes ↔ settings.concurrency ≤ 2147483647) ∧
      (settings.KeepsLeases ↔ settings.leaseTtl ≤ .ofMillis Numeral.maxWord) :=
  ⟨tellsLanes_iff h, keepsLeases_iff h⟩

/-- Three lanes tell that they are three, and ask for leases of 45 seconds. -/
theorem keepsCounts_threeLanes :
    ∃ settings, load threeLanes = .ok settings ∧ settings.concurrency = 3 ∧
      settings.leaseTtl = .ofSeconds 45 ∧ settings.TellsLanes ∧ settings.KeepsLeases := by
  obtain ⟨hlanes, hleases⟩ := keepsCounts_iff load_threeLanes
  exact ⟨_, load_threeLanes, rfl, rfl, hlanes.2 (by decide), hleases.2 (by decide)⟩

/-- Settings that are accepted under which lanes report a negative number of lanes, and the server
is asked for a lease of no time at all. -/
theorem not_keepsCounts_great :
    let lookup : Lookup := fun name =>
      if name = "WORKER_CONCURRENCY" then some "2147483648"
      else if name = "JOB_LEASE_TTL" then some "2305843009213693952s" else none
    ∃ settings, load lookup = .ok settings ∧ settings.concurrency = 2147483648 ∧
      settings.workerConfig.concurrency = -2147483648 ∧
      (∀ lane, (settings.workerConfig.forLane lane settings.concurrency).concurrency =
        -2147483648) ∧
      ∀ database server id worker,
        (Deployment.ofSettings settings database server).queue.command (.acquire id worker) =
          .claim id.leaseKey worker.text 0 := by
  intro lookup
  have hnarrow : WorkerConfig.narrow 2147483648 = -2147483648 := by decide
  have hmillis : ({ ttl := .ofSeconds 2305843009213693952 } : RedisQueue).leaseMillis = 0 := by
    decide
  refine ⟨{ concurrency := 2147483648, leaseTtl := .ofSeconds 2305843009213693952 }, rfl, rfl, ?_,
    fun lane => ?_, fun database server id worker => ?_⟩
  · rw [concurrency_workerConfig]
    exact hnarrow
  · rw [WorkerConfig.concurrency_forLane]
    exact hnarrow
  · exact congrArg (Redis.Command.claim id.leaseKey worker.text) hmillis

end Settings

end Dispatch
