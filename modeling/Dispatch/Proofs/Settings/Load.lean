import Dispatch.Proofs.Text.Case
import Dispatch.Proofs.Time.Span
import Dispatch.Settings

/-!
# Which settings are accepted

What is asked of the variables is a list of requirements in the order in which they are looked at
(`Settings.requirements`), each about the values of variables alone and not about how they are read.
Loading checks them (`Checks`): it gives the settings that the variables describe if all of them are
met, and otherwise an error about the variable of the first that is not (`Settings.load_exact`).

A reading that goes on after another asks for what the first asks for and then for its own
(`Checks.bind`), so `Settings.load` is put together along its text from one lemma for each kind of
variable.
-/

namespace Dispatch

/-! ## Checks -/

/-- What is asked of a variable. -/
structure Requirement where
  variable_ : String
  met : Prop

/-- A reading that asks for requirements: it ends with a value that it `gives` if they are met, and
otherwise with an error about the first that is not. -/
structure Checks {α : Type} (reading : Except SettingError α) (asks : List Requirement)
    (gives : α → Prop) : Prop where
  ok_iff : ∀ a, reading = .ok a ↔ (∀ r ∈ asks, r.met) ∧ gives a
  first : ∀ e, reading = .error e → ∃ before r after, asks = before ++ r :: after ∧
    r.variable_ = e.variable_ ∧ ¬r.met ∧ ∀ q ∈ before, q.met

namespace Checks

variable {α β : Type} {reading : Except SettingError α} {asks more : List Requirement}
  {gives : α → Prop}

theorem pure (a : α) : Checks (Pure.pure a) [] (a = ·) where
  ok_iff b := by
    constructor
    · intro h
      cases h
      exact ⟨by simp, rfl⟩
    · rintro ⟨-, rfl⟩
      rfl
  first e h := by cases h

theorem bind {next : α → Except SettingError β} {ends : α → β → Prop}
    (hreading : Checks reading asks gives) (hnext : ∀ a, gives a → Checks (next a) more (ends a)) :
    Checks (reading >>= next) (asks ++ more) fun b => ∃ a, gives a ∧ ends a b := by
  constructor
  · intro b
    rw [List.forall_mem_append]
    constructor
    · intro h
      cases hread : reading with
      | error e =>
        rw [hread] at h
        cases h
      | ok a =>
        rw [hread] at h
        obtain ⟨hasks, ha⟩ := (hreading.ok_iff a).1 hread
        obtain ⟨hmore, hb⟩ := ((hnext a ha).ok_iff b).1 h
        exact ⟨⟨hasks, hmore⟩, a, ha, hb⟩
    · rintro ⟨⟨hasks, hmore⟩, a, ha, hb⟩
      rw [(hreading.ok_iff a).2 ⟨hasks, ha⟩]
      exact ((hnext a ha).ok_iff b).2 ⟨hmore, hb⟩
  · intro e h
    cases hread : reading with
    | error e' =>
      -- the first reading has stopped, so nothing that comes after it was looked at
      rw [hread] at h
      cases h
      obtain ⟨before, r, after, rfl, hname, hunmet, hbefore⟩ := hreading.first e hread
      exact ⟨before, r, after ++ more, by simp, hname, hunmet, hbefore⟩
    | ok a =>
      rw [hread] at h
      obtain ⟨hasks, ha⟩ := (hreading.ok_iff a).1 hread
      obtain ⟨before, r, after, rfl, hname, hunmet, hbefore⟩ := (hnext a ha).first e h
      refine ⟨asks ++ before, r, after, by simp, hname, hunmet, ?_⟩
      exact List.forall_mem_append.2 ⟨hasks, hbefore⟩

/-- One requirement, checked before the rest. -/
theorem ensure {met fails : Prop} [Decidable fails] {e : SettingError}
    {failure : Except SettingError α} (hfails : fails ↔ ¬met) (hfailure : failure = .error e)
    (hreading : Checks reading asks gives) :
    Checks (if fails then failure else reading) (⟨e.variable_, met⟩ :: asks) gives := by
  by_cases hmet : met
  · rw [if_neg (fun h => hfails.1 h hmet)]
    constructor
    · intro a
      rw [List.forall_mem_cons, and_iff_right hmet]
      exact hreading.ok_iff a
    · intro e h
      obtain ⟨before, r, after, rfl, hname, hunmet, hbefore⟩ := hreading.first e h
      exact ⟨_ :: before, r, after, rfl, hname, hunmet, List.forall_mem_cons.2 ⟨hmet, hbefore⟩⟩
  · rw [if_pos (hfails.2 hmet), hfailure]
    constructor
    · intro a
      rw [List.forall_mem_cons]
      constructor
      · intro h
        cases h
      · rintro ⟨⟨h, -⟩, -⟩
        cases hmet h
    · intro e' h
      cases h
      exact ⟨[], _, asks, rfl, rfl, hmet, by simp⟩

/-- Requirements that are all met are enough. -/
theorem exists_ok (hreading : Checks reading asks gives) (hmet : ∀ r ∈ asks, r.met) :
    ∃ a, reading = .ok a := by
  cases hread : reading with
  | ok a => exact ⟨a, rfl⟩
  | error e =>
    obtain ⟨before, r, after, rfl, -, hunmet, -⟩ := hreading.first e hread
    cases hunmet (hmet r (by simp))

theorem gives_congr {gives' : α → Prop} (hreading : Checks reading asks gives)
    (h : ∀ a, gives a ↔ gives' a) : Checks reading asks gives' where
  ok_iff a := by rw [hreading.ok_iff, h]
  first := hreading.first

end Checks

namespace Settings

variable {lookup : Lookup} {name : String} {α : Type}

/-! ## What variables stand for -/

/-- A text is the number of lanes: a numeral with a plus sign or without, between blanks. -/
def IsLaneCount (raw : String) (n : ℕ) : Prop :=
  Numeral.DenotesSigned (Text.trimChars raw.toList) n ∧ 1 ≤ n ∧ n ≤ Numeral.maxWord

/-- The words for a truth value. -/
def words : Bool → List String
  | true => ["1", "true", "yes", "on"]
  | false => ["0", "false", "no", "off"]

/-- A text is a truth value: one of its words in any case, between blanks. -/
def IsTruth (raw : String) (b : Bool) : Prop :=
  ∃ word ∈ words b, Text.Spells word.toList (Text.trimChars raw.toList)

/-- A text is a span. -/
def IsSpan (raw : String) (s : Span) : Prop :=
  Span.parse raw = .ok s

/-- A variable that is set has a value of the kind that is read. -/
def Readable (lookup : Lookup) (name : String) (reads : String → α → Prop) : Prop :=
  ∀ raw, value? lookup name = some raw → ∃ a, reads raw a

/-- A variable that is set stands for what its value is read as, and one that is not stands for the
default. -/
def StandsFor (lookup : Lookup) (name : String) (default : α) (reads : String → α → Prop)
    (a : α) : Prop :=
  match value? lookup name with
  | none => a = default
  | some raw => reads raw a

/-- The defaults. -/
def defaults : Settings := {}

/-- What is asked of the variables, in the order in which they are looked at. -/
def requirements (lookup : Lookup) : List Requirement :=
  [⟨"WORKER_CONCURRENCY", Readable lookup "WORKER_CONCURRENCY" IsLaneCount⟩,
    ⟨"USE_PERSISTENT_STORES", Readable lookup "USE_PERSISTENT_STORES" IsTruth⟩,
    ⟨"JOB_LEASE_TTL", Readable lookup "JOB_LEASE_TTL" IsSpan⟩,
    ⟨"JOB_LEASE_TTL", ¬StandsFor lookup "JOB_LEASE_TTL" defaults.leaseTtl IsSpan .zero⟩,
    ⟨"DEQUEUE_TIMEOUT", Readable lookup "DEQUEUE_TIMEOUT" IsSpan⟩,
    ⟨"DEQUEUE_TIMEOUT", ¬StandsFor lookup "DEQUEUE_TIMEOUT" defaults.dequeueTimeout IsSpan .zero⟩,
    ⟨"HEARTBEAT_INTERVAL", Readable lookup "HEARTBEAT_INTERVAL" IsSpan⟩,
    ⟨"WORKER_STALE_AFTER", Readable lookup "WORKER_STALE_AFTER" IsSpan⟩,
    ⟨"WORKER_STALE_AFTER", ∀ heartbeat staleAfter,
      StandsFor lookup "HEARTBEAT_INTERVAL" defaults.heartbeatInterval IsSpan heartbeat →
      StandsFor lookup "WORKER_STALE_AFTER" defaults.staleAfter IsSpan staleAfter →
        2 * heartbeat.nanos ≤ staleAfter.nanos⟩,
    ⟨"PROVIDER_TIMEOUT", Readable lookup "PROVIDER_TIMEOUT" IsSpan⟩,
    ⟨"RECONCILE_INTERVAL", Readable lookup "RECONCILE_INTERVAL" IsSpan⟩]

/-- Every setting is what its variable stands for. -/
structure Describes (lookup : Lookup) (s : Settings) : Prop where
  httpAddress : StandsFor lookup "HTTP_ADDR" defaults.httpAddress
    (fun raw a => a = normalizeAddress raw) s.httpAddress
  databaseUrl : StandsFor lookup "DATABASE_URL" defaults.databaseUrl
    (fun raw a => a = raw) s.databaseUrl
  redisUrl : StandsFor lookup "REDIS_URL" defaults.redisUrl (fun raw a => a = raw) s.redisUrl
  readyKey : StandsFor lookup "REDIS_READY_QUEUE_KEY" defaults.readyKey
    (fun raw a => a = raw) s.readyKey
  worker : StandsFor lookup "WORKER_ID" defaults.worker (fun raw a => a = ⟨raw⟩) s.worker
  concurrency : StandsFor lookup "WORKER_CONCURRENCY" defaults.concurrency IsLaneCount s.concurrency
  usePersistentStores : StandsFor lookup "USE_PERSISTENT_STORES" defaults.usePersistentStores
    IsTruth s.usePersistentStores
  leaseTtl : StandsFor lookup "JOB_LEASE_TTL" defaults.leaseTtl IsSpan s.leaseTtl
  dequeueTimeout : StandsFor lookup "DEQUEUE_TIMEOUT" defaults.dequeueTimeout IsSpan
    s.dequeueTimeout
  heartbeatInterval : StandsFor lookup "HEARTBEAT_INTERVAL" defaults.heartbeatInterval IsSpan
    s.heartbeatInterval
  staleAfter : StandsFor lookup "WORKER_STALE_AFTER" defaults.staleAfter IsSpan s.staleAfter
  providerTimeout : StandsFor lookup "PROVIDER_TIMEOUT" defaults.providerTimeout IsSpan
    s.providerTimeout
  reconcileInterval : StandsFor lookup "RECONCILE_INTERVAL" defaults.reconcileInterval IsSpan
    s.reconcileInterval

/-- The variables that are looked at. -/
def names : List String :=
  ["HTTP_ADDR", "DATABASE_URL", "REDIS_URL", "REDIS_READY_QUEUE_KEY", "WORKER_ID",
    "WORKER_CONCURRENCY", "USE_PERSISTENT_STORES", "JOB_LEASE_TTL", "DEQUEUE_TIMEOUT",
    "HEARTBEAT_INTERVAL", "WORKER_STALE_AFTER", "PROVIDER_TIMEOUT", "RECONCILE_INTERVAL"]

/-! ## One variable -/

theorem lowercase_eq_iff {word raw : String}
    (hword : ∀ w ∈ word.toList, w.isUpper = false) :
    lowercase (Text.trim raw) = word ↔ Text.Spells word.toList (Text.trimChars raw.toList) := by
  rw [← Text.map_toLower_eq_iff hword, lowercase, Text.trim, String.toList_ofList,
    ← String.toList_inj, String.toList_ofList]

/-- The words are in lower case. -/
theorem lower_words (b : Bool) : ∀ word ∈ words b, ∀ w ∈ word.toList, w.isUpper = false := by
  have hall : ((words b).all fun word => word.toList.all fun w => !w.isUpper) = true := by
    cases b <;> decide
  simpa using hall

theorem lowercase_mem_words {raw : String} {b : Bool} :
    lowercase (Text.trim raw) ∈ words b ↔ IsTruth raw b := by
  constructor
  · intro hmem
    exact ⟨_, hmem, (lowercase_eq_iff (lower_words b _ hmem)).1 rfl⟩
  · rintro ⟨word, hmem, hspells⟩
    rw [(lowercase_eq_iff (lower_words b word hmem)).2 hspells]
    exact hmem

theorem readBool?_eq_some_iff {raw : String} {b : Bool} :
    readBool? raw = some b ↔ IsTruth raw b := by
  have hdisjoint : ∀ word ∈ words true, word ∉ words false := by decide
  simp only [← lowercase_mem_words, readBool?]
  change (if lowercase (Text.trim raw) ∈ words true then some true
    else if lowercase (Text.trim raw) ∈ words false then some false else none) = some b ↔ _
  split_ifs with htrue hfalse
  · cases b with
    | true => simp [htrue]
    | false => simp [hdisjoint _ htrue]
  · cases b with
    | true => simp [htrue]
    | false => simp [hfalse]
  · cases b with
    | true => simp [htrue]
    | false => simp [hfalse]

/-- Reading a value that accepts what is asked for and complains about the variable otherwise. -/
theorem checks_value {reads : String → α → Prop} {read : String → Except SettingError α}
    (default : α) (hread : ∀ raw a, read raw = .ok a ↔ reads raw a)
    (hname : ∀ raw e, read raw = .error e → e.variable_ = name) :
    Checks (match value? lookup name with
      | none => .ok default
      | some raw => read raw)
      [⟨name, Readable lookup name reads⟩] (StandsFor lookup name default reads) := by
  unfold Readable StandsFor
  cases value? lookup name with
  | none =>
    constructor
    · intro a
      simp [eq_comm]
    · intro e h
      cases h
  | some raw =>
    constructor
    · intro a
      simp only [List.forall_mem_singleton, Option.some.injEq, forall_eq', hread]
      exact ⟨fun ha => ⟨⟨a, ha⟩, ha⟩, And.right⟩
    · intro e he
      refine ⟨[], _, [], rfl, (hname raw e he).symm, ?_, by simp⟩
      intro hreadable
      obtain ⟨a, ha⟩ := hreadable raw rfl
      have hok : read raw = .ok a := (hread raw a).2 ha
      cases hok.symm.trans he

theorem checks_spanOr (lookup : Lookup) (name : String) (default : Span) :
    Checks (spanOr lookup name default) [⟨name, Readable lookup name IsSpan⟩]
      (StandsFor lookup name default IsSpan) := by
  refine checks_value default (fun raw s => ?_) (fun raw e h => ?_)
  · unfold IsSpan
    cases Span.parse raw with
    | ok s' => simp
    | error cause => simp
  · split at h
    · cases h
    · cases h
      rfl

theorem StandsFor.unique {default s t : Span} (hs : StandsFor lookup name default IsSpan s)
    (ht : StandsFor lookup name default IsSpan t) : s = t := by
  unfold StandsFor IsSpan at hs ht
  cases hvalue : value? lookup name with
  | none =>
    rw [hvalue] at hs ht
    exact hs.trans ht.symm
  | some raw =>
    rw [hvalue] at hs ht
    exact Except.ok.inj (hs.symm.trans ht)

theorem checks_positiveSpanOr (lookup : Lookup) (name : String) (default : Span) :
    Checks (positiveSpanOr lookup name default)
      [⟨name, Readable lookup name IsSpan⟩, ⟨name, ¬StandsFor lookup name default IsSpan .zero⟩]
      (StandsFor lookup name default IsSpan) := by
  have hpositive : ∀ s, StandsFor lookup name default IsSpan s →
      Checks (if s = .zero then .error ⟨name, "0", .notPositive⟩ else Pure.pure s)
        [⟨name, ¬StandsFor lookup name default IsSpan .zero⟩] (s = ·) := by
    intro s hs
    refine .ensure ?_ rfl (.pure s)
    -- a variable stands for one span, so this one is zero if the variable may stand for zero
    rw [not_not]
    constructor
    · rintro rfl
      exact hs
    · exact hs.unique
  refine ((checks_spanOr lookup name default).bind hpositive).gives_congr fun s => ?_
  simp

theorem checks_readConcurrency (lookup : Lookup) (default : ℕ) :
    Checks (readConcurrency lookup default)
      [⟨"WORKER_CONCURRENCY", Readable lookup "WORKER_CONCURRENCY" IsLaneCount⟩]
      (StandsFor lookup "WORKER_CONCURRENCY" default IsLaneCount) := by
  refine checks_value default (fun raw n => ?_) (fun raw e h => ?_)
  · unfold IsLaneCount
    rw [← and_assoc, and_right_comm, ← Numeral.read_eq_ok_iff]
    cases Numeral.read Numeral.maxWord (Text.trimChars raw.toList) with
    | error cause => simp
    | ok m =>
      simp only [Except.ok.injEq]
      split_ifs with hzero
      · constructor
        · intro h
          cases h
        · rintro ⟨rfl, hpos⟩
          omega
      · rw [Except.ok.injEq]
        omega
  · split at h
    · cases h
      rfl
    · split_ifs at h
      cases h
      rfl

theorem checks_readPersistence (lookup : Lookup) (default : Bool) :
    Checks (readPersistence lookup default)
      [⟨"USE_PERSISTENT_STORES", Readable lookup "USE_PERSISTENT_STORES" IsTruth⟩]
      (StandsFor lookup "USE_PERSISTENT_STORES" default IsTruth) := by
  refine checks_value default (fun raw b => ?_) (fun raw e h => ?_)
  · rw [← readBool?_eq_some_iff]
    cases readBool? raw with
    | none => simp
    | some b' => simp
  · split at h
    · cases h
    · cases h
      rfl

/-- A variable whose value is taken as it is, or after a change. -/
theorem standsFor_getD {β : Type} (lookup : Lookup) (name : String) (default : β) (f : String → β)
    (a : β) : StandsFor lookup name default (fun raw b => b = f raw) a ↔
      a = ((value? lookup name).map f).getD default := by
  unfold StandsFor
  cases value? lookup name <;> exact Iff.rfl

theorem standsFor_raw (lookup : Lookup) (name default a : String) :
    StandsFor lookup name default (fun raw b => b = raw) a ↔
      a = (value? lookup name).getD default := by
  unfold StandsFor
  cases value? lookup name <;> exact Iff.rfl

/-- A span that a variable stands for can be written if the default can. -/
theorem StandsFor.writable {default s : Span} (h : StandsFor lookup name default IsSpan s)
    (hdefault : default.Writable) : s.Writable := by
  unfold StandsFor IsSpan at h
  cases hvalue : value? lookup name with
  | none =>
    rw [hvalue] at h
    exact h ▸ hdefault
  | some raw =>
    rw [hvalue] at h
    exact Span.writable_parse h

/-! ## All variables -/

theorem writable_defaults : defaults.heartbeatInterval.Writable ∧ defaults.staleAfter.Writable ∧
    defaults.dequeueTimeout.Writable := by
  decide

/-- The grace that two variables stand for is short just where it is short of twice the other. -/
theorem lt_times_iff_not_enough {heartbeat staleAfter : Span}
    (hheartbeat : StandsFor lookup "HEARTBEAT_INTERVAL" defaults.heartbeatInterval IsSpan heartbeat)
    (hstale : StandsFor lookup "WORKER_STALE_AFTER" defaults.staleAfter IsSpan staleAfter) :
    staleAfter < heartbeat.times 2 ↔ ¬∀ heartbeat staleAfter,
      StandsFor lookup "HEARTBEAT_INTERVAL" defaults.heartbeatInterval IsSpan heartbeat →
      StandsFor lookup "WORKER_STALE_AFTER" defaults.staleAfter IsSpan staleAfter →
        2 * heartbeat.nanos ≤ staleAfter.nanos := by
  rw [(hstale.writable writable_defaults.2.1).lt_times_iff, ← not_le, not_iff_not]
  constructor
  · intro hle heartbeat' staleAfter' hheartbeat' hstale'
    rw [hheartbeat'.unique hheartbeat, hstale'.unique hstale]
    exact hle
  · intro h
    exact h heartbeat staleAfter hheartbeat hstale

theorem checks_load (lookup : Lookup) :
    Checks (load lookup) (requirements lookup) (Describes lookup) := by
  have hload : Checks (load lookup) (requirements lookup) _ :=
    (checks_readConcurrency lookup _).bind fun concurrency _ =>
    (checks_readPersistence lookup _).bind fun persistent _ =>
    (checks_positiveSpanOr lookup "JOB_LEASE_TTL" _).bind fun leaseTtl _ =>
    (checks_positiveSpanOr lookup "DEQUEUE_TIMEOUT" _).bind fun dequeueTimeout _ =>
    (checks_spanOr lookup "HEARTBEAT_INTERVAL" _).bind fun heartbeat hheartbeat =>
    (checks_spanOr lookup "WORKER_STALE_AFTER" _).bind fun staleAfter hstale =>
    .ensure (lt_times_iff_not_enough hheartbeat hstale) rfl <|
    (checks_spanOr lookup "PROVIDER_TIMEOUT" _).bind fun providerTimeout _ =>
    (checks_spanOr lookup "RECONCILE_INTERVAL" _).bind fun reconcileInterval _ => .pure _
  refine hload.gives_congr fun s => ?_
  constructor
  · rintro ⟨concurrency, hconcurrency, persistent, hpersistent, leaseTtl, hlease, dequeueTimeout,
      hdequeue, heartbeat, hheartbeat, staleAfter, hstale, providerTimeout, hprovider,
      reconcileInterval, hreconcile, rfl⟩
    exact ⟨(standsFor_getD lookup _ _ normalizeAddress _).2 rfl, (standsFor_raw lookup _ _ _).2 rfl,
      (standsFor_raw lookup _ _ _).2 rfl, (standsFor_raw lookup _ _ _).2 rfl,
      (standsFor_getD lookup _ _ WorkerId.mk _).2 rfl, hconcurrency, hpersistent, hlease, hdequeue,
      hheartbeat, hstale, hprovider, hreconcile⟩
  · intro h
    refine ⟨_, h.concurrency, _, h.usePersistentStores, _, h.leaseTtl, _, h.dequeueTimeout, _,
      h.heartbeatInterval, _, h.staleAfter, _, h.providerTimeout, _, h.reconcileInterval, ?_⟩
    have haddress := (standsFor_getD lookup _ _ normalizeAddress _).1 h.httpAddress
    have hworker := (standsFor_getD lookup _ _ WorkerId.mk _).1 h.worker
    have hdatabase := (standsFor_raw lookup _ _ _).1 h.databaseUrl
    have hredis := (standsFor_raw lookup _ _ _).1 h.redisUrl
    have hkey := (standsFor_raw lookup _ _ _).1 h.readyKey
    cases s
    dsimp only at haddress hworker hdatabase hredis hkey
    subst haddress hworker hdatabase hredis hkey
    rfl

/-- The grace that settings give is at least two intervals between reports. -/
theorem twice_le_staleAfter {settings : Settings} (h : load lookup = .ok settings) :
    2 * settings.workerConfig.heartbeatInterval.nanos ≤
      settings.reconcilerConfig.staleAfter.nanos := by
  obtain ⟨hmet, hdescribes⟩ := ((checks_load lookup).ok_iff settings).1 h
  simp only [requirements, List.forall_mem_cons] at hmet
  obtain ⟨-, -, -, -, -, -, -, -, htwice, -⟩ := hmet
  exact htwice _ _ hdescribes.heartbeatInterval hdescribes.staleAfter

/-- A dequeue waits for a millisecond at least. -/
theorem milli_le_dequeueTimeout {settings : Settings} (h : load lookup = .ok settings) :
    Span.ofMillis 1 ≤ settings.dequeueTimeout := by
  obtain ⟨hmet, hdescribes⟩ := ((checks_load lookup).ok_iff settings).1 h
  simp only [requirements, List.forall_mem_cons] at hmet
  obtain ⟨-, -, -, -, -, hpositive, -⟩ := hmet
  have hwhole := (hdescribes.dequeueTimeout.writable writable_defaults.2.2).1
  have hne : settings.dequeueTimeout.nanos ≠ 0 := by
    intro hzero
    have hdequeue : settings.dequeueTimeout = .zero := congrArg Span.mk hzero
    exact hpositive (hdequeue ▸ hdescribes.dequeueTimeout)
  show 1000000 ≤ settings.dequeueTimeout.nanos
  omega

/-- Loading depends on nothing but the variables that it looks at, of which the blank ones count as
missing.  It gives settings just if everything that is asked of the variables is met, and these are
the ones that the variables describe; otherwise the error is about the variable of the first
requirement that is not met. -/
theorem load_exact (lookup : Lookup) :
    (∀ other : Lookup, (∀ name ∈ names, value? other name = value? lookup name) →
      load other = load lookup) ∧
    ((∃ s, load lookup = .ok s) ↔ ∀ r ∈ requirements lookup, r.met) ∧
    (∀ s, load lookup = .ok s → Describes lookup s) ∧
    ∀ e, load lookup = .error e → ∃ before r after, requirements lookup = before ++ r :: after ∧
      r.variable_ = e.variable_ ∧ ¬r.met ∧ ∀ q ∈ before, q.met := by
  have hload := checks_load lookup
  refine ⟨?_, ?_, ?_, hload.first⟩
  · intro other hsame
    simp only [names, List.forall_mem_cons] at hsame
    simp only [load, readConcurrency, readPersistence, positiveSpanOr, spanOr, hsame]
  · constructor
    · rintro ⟨s, h⟩
      exact ((hload.ok_iff s).1 h).1
    · exact hload.exists_ok
  · intro s h
    exact ((hload.ok_iff s).1 h).2

/-- A long interval alone is an error about the grace, which is too short by default. -/
theorem load_exact_slow_reports :
    let lookup : Lookup := fun name => if name = "HEARTBEAT_INTERVAL" then some "45s" else none
    (¬∀ r ∈ requirements lookup, r.met) ∧
      ∃ before r after, requirements lookup = before ++ r :: after ∧
        r.variable_ = "WORKER_STALE_AFTER" ∧ ¬r.met ∧ ∀ q ∈ before, q.met := by
  intro lookup
  have hload : load lookup = .error
      ⟨"WORKER_STALE_AFTER", "60s", .belowTwiceHeartbeat (.ofSeconds 45)⟩ := rfl
  obtain ⟨-, hok, -, herror⟩ := load_exact lookup
  constructor
  · intro hmet
    obtain ⟨s, hs⟩ := hok.2 hmet
    cases hload.symm.trans hs
  · exact herror _ hload

/-- A word for a truth value may stand between blanks, with which it is none of the words. -/
theorem load_word_between_blanks :
    let lookup : Lookup := fun name =>
      if name = "USE_PERSISTENT_STORES" then some " true " else none
    value? lookup "USE_PERSISTENT_STORES" = some " true " ∧
      (¬∃ b, ∃ word ∈ words b, Text.Spells word.toList " true ".toList) ∧
      ∃ s, load lookup = .ok s := by
  intro lookup
  refine ⟨by decide, by decide, _, rfl⟩

/-- Three lanes, and spans of which none is the default. -/
def threeLanes : Lookup := fun name =>
  if name = "WORKER_CONCURRENCY" then some "3"
  else if name = "JOB_LEASE_TTL" then some "45s"
  else if name = "HEARTBEAT_INTERVAL" then some "2500ms"
  else if name = "DEQUEUE_TIMEOUT" then some "1500ms"
  else if name = "WORKER_STALE_AFTER" then some "20s"
  else none

theorem load_threeLanes : load threeLanes = .ok
    { defaults with
      concurrency := 3, leaseTtl := .ofSeconds 45, heartbeatInterval := .ofMillis 2500
      dequeueTimeout := .ofMillis 1500, staleAfter := .ofSeconds 20 } := rfl

end Settings

end Dispatch
