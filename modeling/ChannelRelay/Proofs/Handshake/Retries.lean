import ChannelRelay.Proofs.Duration
import ChannelRelay.Proofs.HeaderSeek
import ChannelRelay.Simulation.World

/-!
# Header syncs that are tried again

A header sync is repeated until the headers for both clients can be had, at most so many times
and with one refresh of the latest headers before each repetition.

* `HeaderSyncConfig.attempts`, `delay`, `waited`: how often, and how long it waits in between;
* `attemptsFrom`: the attempts with the refreshes between them, and `retryFrom_later` and
  `retry_eq`: that is what the retries come to;
* `Misses`: attempts that fail, each with the refresh that follows it;
* `LastAttempt`, `updateHeaders_admits`: after these comes one last attempt;
* `retried_sync`: when the headers are had, when a refresh fails and when the attempts are
  exhausted, for all replies of the chains.
-/

namespace ChannelRelay

instance decEqExcept {ε α : Type} [DecidableEq ε] [DecidableEq α] : DecidableEq (Except ε α)
  | .ok a, .ok b => decidable_of_iff (a = b) (by simp)
  | .error e, .error f => decidable_of_iff (e = f) (by simp)
  | .ok _, .error _ | .error _, .ok _ => isFalse nofun

/-! ## Delays -/

@[simp] theorem Growth.next_constant (delay : Duration) :
    (Growth.constant delay).next = .constant delay := by
  have same : delay.add? .zero = some delay := Duration.ofNanos?_of_lt delay.inRange
  rw [Growth.next, Growth.constant, same]

theorem Duration.nanos_saturatingAdd {a b : Duration}
    (fits : a.nanos + b.nanos < UInt64.size * nanosPerSecond) :
    (a.saturatingAdd b).nanos = a.nanos + b.nanos := by
  rw [saturatingAdd, add?, ofNanos?_of_lt fits]
  rfl

namespace HeaderSyncConfig

variable (config : HeaderSyncConfig)

/-- There is always a first attempt. -/
def attempts : Nat := max 1 config.maxAttempts.toNat

theorem attempts_pos : 0 < config.attempts := by
  unfold attempts
  omega

/-- The delay between two attempts. -/
def delay : Duration := min config.retryDelay config.maxRetryDelay

/-- The delay before the attempt that comes after so many others, in total. -/
def waited : Nat → Duration
  | 0 => .zero
  | missed + 1 => (waited missed).saturatingAdd config.delay

variable {config}

theorem nanos_waited {missed : Nat}
    (fits : missed * config.delay.nanos < UInt64.size * nanosPerSecond) :
    (config.waited missed).nanos = missed * config.delay.nanos := by
  induction missed with
  | zero => rw [waited, Nat.zero_mul]; rfl
  | succ missed ih =>
    rw [Nat.succ_mul] at fits ⊢
    have before : (config.waited missed).nanos = missed * config.delay.nanos :=
      ih (Nat.lt_of_le_of_lt (Nat.le_add_right ..) fits)
    rw [waited, Duration.nanos_saturatingAdd (by rwa [before]), before]

end HeaderSyncConfig

namespace Handshake

variable {ids : Pair ChainId} {config : HeaderSyncConfig} {cache after : HeaderCache}
  {t : List (Exchange Chains)}

/-! ## Attempts with refreshes between them -/

/-- Seeks the headers with what is cached, after `missed` attempts that did not get them. If
this one does not either, goes on after a refresh, up to `retries` times. -/
def attemptsFrom (ids : Pair ChainId) (config : HeaderSyncConfig) (retries missed : Nat) :
    Syncing (Except (GivenUp SyncFailure) (Pair (List Header))) := do
  match ← seekHeaders ids with
  | .success headers => return .ok headers
  | .failure e => return .error ⟨e, missed + 1, config.waited missed⟩
  | .again e =>
    match retries with
    | 0 => return .error ⟨e, missed + 1, config.waited missed⟩
    | retries + 1 =>
      match ← Syncing.refresh ids with
      | .ok () => attemptsFrom ids config retries (missed + 1)
      | .error cause => return .error ⟨.refresh cause, missed + 2, config.waited (missed + 1)⟩

/-- From the second one on, an attempt begins with a refresh. The induction is on the attempts
that are left. -/
theorem retryFrom_later (ids : Pair ChainId) (config : HeaderSyncConfig) (retries missed : Nat)
    (later : 0 < missed) :
    retryFrom (syncAttempt ids) config.maxRetryDelay (.constant config.retryDelay) retries
        (missed + 1) (config.waited missed) = do
      match ← Syncing.refresh ids with
      | .ok () => attemptsFrom ids config retries missed
      | .error cause => return .error ⟨.refresh cause, missed + 1, config.waited missed⟩ := by
  induction retries generalizing missed with
  | zero =>
    rw [retryFrom, syncAttempt_later (Nat.succ_lt_succ later), bind_assoc]
    refine bind_congr fun refreshed => ?_
    cases refreshed with
    | error cause => rfl
    | ok _ =>
      rw [attemptsFrom]
      refine bind_congr fun result => ?_
      cases result <;> rfl
  | succ retries ih =>
    rw [retryFrom, syncAttempt_later (Nat.succ_lt_succ later), bind_assoc]
    refine bind_congr fun refreshed => ?_
    cases refreshed with
    | error cause => rfl
    | ok _ =>
      rw [attemptsFrom]
      refine bind_congr fun result => ?_
      cases result with
      | success headers => rfl
      | failure e => rfl
      | again e =>
        rw [Growth.next_constant]
        exact ih (missed + 1) (Nat.succ_pos missed)

theorem retry_eq (ids : Pair ChainId) (config : HeaderSyncConfig) :
    retry (syncBackoff config) (syncAttempt ids) =
      attemptsFrom ids config (config.maxAttempts.toNat - 1) 0 := by
  unfold retry syncBackoff
  rw [retryFrom, attemptsFrom, syncAttempt_first (Nat.lt_irrefl 1)]
  refine bind_congr fun result => ?_
  cases result with
  | success headers => rfl
  | failure e => rfl
  | again e =>
    cases config.maxAttempts.toNat - 1 with
    | zero => rfl
    | succ retries =>
      simp only [Growth.next_constant]
      exact retryFrom_later ids config retries 1 Nat.one_pos

/-! ## What the attempts come to -/

/-- Attempts that fail with these errors, each followed by a refresh that does not: both chains
return their latest headers, and the next attempt is made with these. -/
inductive Misses (ids : Pair ChainId) :
    HeaderCache → List RelayError → List (Exchange Chains) → HeaderCache → Prop
  | none (cache : HeaderCache) : Misses ids cache [] [] cache
  | more {cache after : HeaderCache} {e : RelayError} {errors : List RelayError}
      {attempt later : List (Exchange Chains)} (latest : Pair Header)
      (failed : (cache.headersForBoth ids).run.Admits attempt (.error e))
      (rest : Misses ids (cache.refreshed ids latest) errors later after) :
      Misses ids cache (e :: errors) (attempt ++ fetches latest ++ later) after

/-- The last attempt, after `missed` others, with the refresh that ends the attempts if there is
one. -/
inductive LastAttempt (ids : Pair ChainId) (config : HeaderSyncConfig) (missed : Nat)
    (cache : HeaderCache) : List (Exchange Chains) →
      Except (GivenUp SyncFailure) (Pair (List Header)) → HeaderCache → Prop
  | succeeds {attempt : List (Exchange Chains)} {headers : Pair (List Header)}
      (room : missed < config.attempts)
      (built : (cache.headersForBoth ids).run.Admits attempt (.ok headers)) :
      LastAttempt ids config missed cache attempt (.ok headers) cache
  | givesUp {attempt : List (Exchange Chains)} {e : RelayError}
      (used : missed + 1 = config.attempts)
      (failed : (cache.headersForBoth ids).run.Admits attempt (.error e)) :
      LastAttempt ids config missed cache attempt
        (.error ⟨.setup e, missed + 1, config.waited missed⟩) cache
  | refreshFails {attempt refresh : List (Exchange Chains)} {e cause : RelayError}
      {after : HeaderCache} (room : missed + 1 < config.attempts)
      (failed : (cache.headersForBoth ids).run.Admits attempt (.error e))
      (refused : Refreshed ids cache refresh (.error cause) after) :
      LastAttempt ids config missed cache (attempt ++ refresh)
        (.error ⟨.refresh cause, missed + 2, config.waited (missed + 1)⟩) after

variable {missed retries : Nat} {r : Except (GivenUp SyncFailure) (Pair (List Header))}

theorem LastAttempt.missed_lt (h : LastAttempt ids config missed cache t r after) :
    missed < config.attempts := by
  cases h with
  | succeeds room => exact room
  | givesUp used => omega
  | refreshFails room => omega

/-- The last attempt may be the only one. -/
theorem LastAttempt.alone (h : LastAttempt ids config missed cache t r after) :
    ∃ errors between first last, t = first ++ last ∧ Misses ids cache errors first between ∧
      LastAttempt ids config (missed + errors.length) between last r after :=
  ⟨[], cache, [], t, rfl, .none cache, h⟩

/-- Some attempts that fail, and a last one, are what the attempts can come to. The induction is
on those that fail. -/
theorem attemptsFrom_of_misses {between : HeaderCache} {errors : List RelayError}
    {first last : List (Exchange Chains)} (misses : Misses ids cache errors first between)
    (final : LastAttempt ids config (missed + errors.length) between last r after)
    (count : missed + retries + 1 = config.attempts) :
    ((attemptsFrom ids config retries missed).run cache).Admits (first ++ last) (r, after) := by
  induction misses generalizing missed retries with
  | none =>
    rw [List.length_nil, Nat.add_zero] at final
    rw [List.nil_append, attemptsFrom]
    cases final with
    | succeeds _ built =>
      exact Syncing.admits_bind.mpr ⟨.success _, _, last, [], (List.append_nil last).symm,
        seekHeaders_admits.mpr ⟨rfl, .inl ⟨_, rfl, built⟩⟩, rfl, rfl⟩
    | givesUp used failed =>
      obtain rfl : retries = 0 := by omega
      exact Syncing.admits_bind.mpr ⟨.again (.setup _), _, last, [],
        (List.append_nil last).symm, seekHeaders_admits.mpr ⟨rfl, .inr ⟨_, rfl, failed⟩⟩, rfl, rfl⟩
    | refreshFails room failed refused =>
      obtain ⟨fewer, rfl⟩ : ∃ fewer, retries = fewer + 1 := ⟨retries - 1, by omega⟩
      refine Syncing.admits_bind.mpr ⟨.again (.setup _), _, _, _, rfl,
        seekHeaders_admits.mpr ⟨rfl, .inr ⟨_, rfl, failed⟩⟩, ?_⟩
      exact Syncing.admits_bind.mpr ⟨.error _, after, _, [], (List.append_nil _).symm,
        Syncing.refresh_admits.mpr refused, rfl, rfl⟩
  | more latest failed _ ih =>
    rw [List.length_cons, Nat.add_comm _ 1, ← Nat.add_assoc] at final
    have room := final.missed_lt
    obtain ⟨fewer, rfl⟩ : ∃ fewer, retries = fewer + 1 := ⟨retries - 1, by omega⟩
    have later := ih final (by omega : missed + 1 + fewer + 1 = config.attempts)
    rw [List.append_assoc, List.append_assoc, attemptsFrom]
    refine Syncing.admits_bind.mpr ⟨.again (.setup _), _, _, _, rfl,
      seekHeaders_admits.mpr ⟨rfl, .inr ⟨_, rfl, failed⟩⟩, ?_⟩
    exact Syncing.admits_bind.mpr ⟨.ok (), _, _, _, rfl,
      Syncing.refresh_admits.mpr (.both latest), later⟩

/-- The attempts come to nothing else. The induction is on the attempts that are left. -/
theorem exists_misses (count : missed + retries + 1 = config.attempts)
    (h : ((attemptsFrom ids config retries missed).run cache).Admits t (r, after)) :
    ∃ errors between first last, t = first ++ last ∧ Misses ids cache errors first between ∧
      LastAttempt ids config (missed + errors.length) between last r after := by
  induction retries generalizing missed cache t with
  | zero =>
    rw [attemptsFrom] at h
    obtain ⟨result, _, attempt, rest, rfl, sought, next⟩ := Syncing.admits_bind.mp h
    obtain ⟨rfl, ⟨headers, rfl, built⟩ | ⟨e, rfl, failed⟩⟩ := seekHeaders_admits.mp sought
    · obtain ⟨rfl, same⟩ := next
      cases same
      rw [List.append_nil]
      exact LastAttempt.alone (.succeeds (by omega) built)
    · obtain ⟨rfl, same⟩ := next
      cases same
      rw [List.append_nil]
      exact LastAttempt.alone (.givesUp count failed)
  | succ retries ih =>
    rw [attemptsFrom] at h
    obtain ⟨result, _, attempt, rest, rfl, sought, next⟩ := Syncing.admits_bind.mp h
    obtain ⟨rfl, ⟨headers, rfl, built⟩ | ⟨e, rfl, failed⟩⟩ := seekHeaders_admits.mp sought
    · obtain ⟨rfl, same⟩ := next
      cases same
      rw [List.append_nil]
      exact LastAttempt.alone (.succeeds (by omega) built)
    obtain ⟨refreshed, between, refresh, later, rfl, fetched, next⟩ := Syncing.admits_bind.mp next
    cases refreshed with
    | error cause =>
      obtain ⟨rfl, same⟩ := next
      cases same
      rw [List.append_nil]
      exact LastAttempt.alone
        (.refreshFails (by omega) failed (Syncing.refresh_admits.mp fetched))
    | ok _ =>
      obtain ⟨latest, rfl, rfl⟩ := Syncing.refresh_admits_ok.mp fetched
      obtain ⟨errors, between, first, last, rfl, misses, final⟩ := ih (by omega) next
      refine ⟨e :: errors, between, attempt ++ fetches latest ++ first, last, by simp,
        .more latest failed misses, ?_⟩
      rwa [List.length_cons, Nat.add_comm errors.length, ← Nat.add_assoc]

/-- All attempts to get the headers are some that fail, and a last one. -/
theorem updateHeaders_admits {result : Except HandshakeError (Pair (List Header))} :
    ((updateHeaders ids config).run cache).Admits t (result, after) ↔
      ∃ errors between first last r, t = first ++ last ∧ Misses ids cache errors first between ∧
        LastAttempt ids config errors.length between last r after ∧
        result = r.mapError syncError := by
  have count : 0 + (config.maxAttempts.toNat - 1) + 1 = config.attempts := by
    unfold HeaderSyncConfig.attempts
    omega
  unfold updateHeaders
  rw [retry_eq]
  constructor
  · intro h
    obtain ⟨r, _, _, _, rfl, retried, rfl, same⟩ := Syncing.admits_bind.mp h
    cases same
    obtain ⟨errors, between, first, last, rfl, misses, final⟩ := exists_misses count retried
    rw [Nat.zero_add] at final
    exact ⟨errors, between, first, last, r, List.append_nil _, misses, final, rfl⟩
  · rintro ⟨errors, between, first, last, r, rfl, misses, final, rfl⟩
    rw [← Nat.zero_add errors.length] at final
    exact Syncing.admits_bind.mpr ⟨r, after, first ++ last, [], (List.append_nil _).symm,
      attemptsFrom_of_misses misses final count, rfl, rfl⟩

/-! ## The results of a header sync -/

/-- What getting the headers with these bounds comes to, if `cache` is there at first. -/
structure Retried (ids : Pair ChainId) (config : HeaderSyncConfig) (cache : HeaderCache) :
    Prop where
  /-- The headers are those of the first attempt that gets them. -/
  succeeds : ∀ t headers after,
    ((updateHeaders ids config).run cache).Admits t (.ok headers, after) ↔
      ∃ errors missed attempt, t = missed ++ attempt ∧ errors.length < config.attempts ∧
        Misses ids cache errors missed after ∧
        (after.headersForBoth ids).run.Admits attempt (.ok headers)
  /-- A refresh that fails, at the source or at the destination, is the last thing that is tried,
  and there would have been another attempt. -/
  refreshFails : ∀ t cause after,
    ((updateHeaders ids config).run cache).Admits t (.error (.headerRefresh cause), after) ↔
      ∃ errors e between missed attempt refresh, t = missed ++ (attempt ++ refresh) ∧
        errors.length + 1 < config.attempts ∧ Misses ids cache errors missed between ∧
        (between.headersForBoth ids).run.Admits attempt (.error e) ∧
        Refreshed ids between refresh (.error cause) after
  /-- The attempts are exhausted when all of them failed and no refresh between them did. -/
  exhausted : ∀ t description tries totalDelay cause after,
    ((updateHeaders ids config).run cache).Admits t
        (.error (.maxRetry description tries totalDelay cause), after) ↔
      description = "failed to build update headers" ∧ tries = config.attempts ∧
      totalDelay.nanos = (config.attempts - 1) * config.delay.nanos ∧
      ∃ errors missed attempt, t = missed ++ attempt ∧ errors.length + 1 = config.attempts ∧
        Misses ids cache errors missed after ∧
        (after.headersForBoth ids).run.Admits attempt (.error cause)
  /-- There are no other errors. -/
  errors : ∀ t failure after,
    ((updateHeaders ids config).run cache).Admits t (.error failure, after) →
      (∃ cause, failure = .headerRefresh cause) ∨
      ∃ description tries totalDelay cause,
        failure = .maxRetry description tries totalDelay cause

/-- **Retries.** The headers for both clients are sought at most `config.attempts` times, with
one refresh of the latest headers between two attempts: the first attempt that gets them or the
first refresh that fails is the last, and otherwise the error of the last attempt is reported
with the number of attempts and the delay between them. -/
theorem retried_sync (ids : Pair ChainId) (config : HeaderSyncConfig) (cache : HeaderCache)
    (fits : (config.attempts - 1) * config.delay.nanos < UInt64.size * nanosPerSecond) :
    Retried ids config cache where
  succeeds := by
    intro t headers after
    rw [updateHeaders_admits]
    constructor
    · rintro ⟨errors, between, first, last, r, rfl, misses, final, result⟩
      cases final with
      | succeeds room built =>
        cases result
        exact ⟨errors, first, last, rfl, room, misses, built⟩
      | givesUp | refreshFails => cases result
    · rintro ⟨errors, missed, attempt, rfl, room, misses, built⟩
      exact ⟨errors, after, missed, attempt, _, rfl, misses, .succeeds room built, rfl⟩
  refreshFails := by
    intro t cause after
    rw [updateHeaders_admits]
    constructor
    · rintro ⟨errors, between, first, last, r, rfl, misses, final, result⟩
      cases final with
      | succeeds | givesUp => cases result
      | refreshFails room failed refused =>
        cases result
        exact ⟨errors, _, between, first, _, _, rfl, room, misses, failed, refused⟩
    · rintro ⟨errors, e, between, missed, attempt, refresh, rfl, room, misses, failed, refused⟩
      exact ⟨errors, between, missed, attempt ++ refresh, _, rfl, misses,
        .refreshFails room failed refused, rfl⟩
  exhausted := by
    intro t description tries totalDelay cause after
    have total : (config.waited (config.attempts - 1)).nanos =
        (config.attempts - 1) * config.delay.nanos := HeaderSyncConfig.nanos_waited fits
    rw [updateHeaders_admits]
    constructor
    · rintro ⟨errors, between, first, last, r, rfl, misses, final, result⟩
      cases final with
      | succeeds | refreshFails => cases result
      | givesUp used failed =>
        cases result
        have missed : config.attempts - 1 = errors.length := by omega
        rw [missed] at total ⊢
        exact ⟨rfl, used, total, errors, first, last, rfl, used, misses, failed⟩
    · rintro ⟨rfl, rfl, delays, errors, missed, attempt, rfl, used, misses, failed⟩
      obtain rfl : totalDelay = config.waited (config.attempts - 1) :=
        Duration.eq_of_nanos (delays.trans total.symm)
      refine ⟨errors, after, missed, attempt, _, rfl, misses, .givesUp used failed, ?_⟩
      rw [← used]
      rfl
  errors := by
    intro t failure after h
    obtain ⟨errors, between, first, last, r, rfl, misses, final, result⟩ :=
      updateHeaders_admits.mp h
    cases final with
    | succeeds => cases result
    | givesUp =>
      cases result
      exact .inr ⟨_, _, _, _, rfl⟩
    | refreshFails =>
      cases result
      exact .inl ⟨_, rfl⟩

/-- Two chains on the default path with their ends in these states, on which accepted messages
take effect. -/
def scripted (states : Pair ChannelState) : Simulation.World where
  chains :=
    ⟨{ Simulation.ScriptedChain.initial .src (.ofString "ibc-0") with
        state := states.src, advances := true },
      { Simulation.ScriptedChain.initial .dst (.ofString "ibc-1") with
        state := states.dst, advances := true }⟩

/-- A destination that three times fails to tell what its client trusts exhausts three attempts,
with two delays of 400 ms between them. -/
theorem retried_sync_three_attempts :
    let config : HeaderSyncConfig := { maxAttempts := 3 }
    let start := scripted ⟨.init, .uninitialized⟩
    let world := { start with chains.dst.failing := [("client_height", 3)] }
    let ids := world.ids false
    let known := Simulation.ScriptedChain.header ⟨0, 10⟩
    let cache := HeaderCache.empty.refreshed ids ⟨known, known⟩
    let program := (updateHeaders ids config).run cache
    let t := program.transcript (Simulation.World.partner false) world
    let cause : RelayError := .query (.ofString "ibc-1") "client_height" "scripted failure"
    (program.run (Simulation.World.partner false) world).1.1 =
      .error (.maxRetry "failed to build update headers" 3 { nanos := 800000000 } cause) ∧
    ∃ errors missed attempt after, t = missed ++ attempt ∧ errors.length = 2 ∧
      Misses ids cache errors missed after ∧
      (after.headersForBoth ids).run.Admits attempt (.error cause) := by
  intro config start world ids known cache program t cause
  have fits : (config.attempts - 1) * config.delay.nanos < UInt64.size * nanosPerSecond := by
    decide
  have outcome : (program.run (Simulation.World.partner false) world).1.1 =
      .error (.maxRetry "failed to build update headers" 3 { nanos := 800000000 } cause) := by
    decide +kernel
  have run := Dialogue.admits_run (Simulation.World.partner false) program world
  rw [← Prod.eta (program.run _ world).1, outcome] at run
  obtain ⟨_, _, _, errors, missed, attempt, split, used, misses, failed⟩ :=
    ((retried_sync ids config cache fits).exhausted _ _ _ _ _ _).mp run
  exact ⟨outcome, errors, missed, attempt, _, split, Nat.succ.inj used, misses, failed⟩

end Handshake

end ChannelRelay
