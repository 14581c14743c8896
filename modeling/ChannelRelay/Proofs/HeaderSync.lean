import ChannelRelay.Proofs.Handshake.Retries

/-!
# The exchanges of a header sync

A header sync fetches the latest headers of both chains and then seeks the headers that the
two clients lack. If it cannot get them it begins anew, with fresh latest headers.

* `Sync`: a fetch of both latest headers, and what was asked while these were cached;
* `Misses.syncs`, `misses_of_syncs`: attempts that fail are syncs that fail;
* `syncedHeaders_admits`: a header sync is a refresh with attempts after it;
* `SyncedBy`: some syncs that fail, and a last one that yields the headers;
* `syncedHeaders_admits_ok`, `SyncedBy.syncedHeaders`: this is what a header sync that succeeds
  goes through, and nothing else.
-/

namespace ChannelRelay

variable {ids : Pair ChainId} {latest : Pair Header} {t : List (Exchange Chains)}

/-! ## Syncs -/

/-- A fetch of both latest headers, and what was asked while these were cached. -/
structure Sync where
  latest : Pair Header
  asked : List (Exchange Chains)

namespace Sync

variable {headers : Pair (List Header)}

def exchanges (sync : Sync) : List (Exchange Chains) := fetches sync.latest ++ sync.asked

def heights (sync : Sync) : Pair Height := sync.latest.map Header.height

/-- The headers for both clients were found. -/
def Yields (ids : Pair ChainId) (sync : Sync) (headers : Pair (List Header)) : Prop :=
  ∃ src dst, sync.asked = src ++ dst ∧ Sought ids sync.latest .src src (.ok headers.src) ∧
    Sought ids sync.latest .dst dst (.ok headers.dst)

/-- The headers for one of the clients were not to be had. -/
def Fails (ids : Pair ChainId) (sync : Sync) : Prop :=
  (∃ e, Sought ids sync.latest .src sync.asked (.error e)) ∨
  ∃ src dst found e, sync.asked = src ++ dst ∧ Sought ids sync.latest .src src (.ok found) ∧
    Sought ids sync.latest .dst dst (.error e)

end Sync

namespace HeaderCache

variable {cache : HeaderCache} {headers : Pair (List Header)}

theorem Holds.headersForBoth_admits_ok (h : cache.Holds ids latest) :
    (cache.headersForBoth ids).run.Admits t (.ok headers) ↔
      (Sync.mk latest t).Yields ids headers := by
  rw [headersForBoth, h.headersFor .src, h.headersFor .dst]
  constructor
  · intro both
    obtain ⟨_, same, _⟩ | ⟨src, first, rest, rfl, forSrc, after⟩ := Relay.admits_bind.mp both
    · cases same
    obtain ⟨_, same, _⟩ | ⟨dst, second, _, rfl, forDst, rfl, same⟩ := Relay.admits_bind.mp after
    · cases same
    cases same
    exact ⟨first, second, by simp, missingHeaders_admits.mp forSrc,
      missingHeaders_admits.mp forDst⟩
  · rintro ⟨src, dst, rfl, forSrc, forDst⟩
    refine (Relay.admits_bind_append (missingHeaders_admits.mpr forSrc)).mpr ?_
    exact Relay.admits_bind.mpr (.inr ⟨headers.dst, dst, [], (List.append_nil _).symm,
      missingHeaders_admits.mpr forDst, rfl, rfl⟩)

/-- The error is that of the first of the two that fails. -/
theorem Holds.headersForBoth_admits_error {e : RelayError} (h : cache.Holds ids latest) :
    (cache.headersForBoth ids).run.Admits t (.error e) ↔
      Sought ids latest .src t (.error e) ∨
      ∃ src dst found, t = src ++ dst ∧ Sought ids latest .src src (.ok found) ∧
        Sought ids latest .dst dst (.error e) := by
  rw [headersForBoth, h.headersFor .src, h.headersFor .dst]
  constructor
  · intro both
    obtain ⟨_, same, failed⟩ | ⟨src, first, _, rfl, forSrc, after⟩ := Relay.admits_bind.mp both
    · cases same
      exact .inl (missingHeaders_admits.mp failed)
    obtain ⟨_, same, failed⟩ | ⟨_, _, _, _, _, _, same⟩ := Relay.admits_bind.mp after
    · cases same
      exact .inr ⟨first, _, src, rfl, missingHeaders_admits.mp forSrc,
        missingHeaders_admits.mp failed⟩
    · cases same
  · rintro (forSrc | ⟨src, dst, found, rfl, forSrc, forDst⟩)
    · exact Relay.admits_bind.mpr (.inl ⟨e, rfl, missingHeaders_admits.mpr forSrc⟩)
    · refine (Relay.admits_bind_append (missingHeaders_admits.mpr forSrc)).mpr ?_
      exact Relay.admits_bind.mpr (.inl ⟨e, rfl, missingHeaders_admits.mpr forDst⟩)

theorem Holds.fails_iff (h : cache.Holds ids latest) :
    (Sync.mk latest t).Fails ids ↔ ∃ e, (cache.headersForBoth ids).run.Admits t (.error e) := by
  simp only [h.headersForBoth_admits_error]
  constructor
  · rintro (⟨e, forSrc⟩ | ⟨src, dst, found, e, split, forSrc, forDst⟩)
    · exact ⟨e, .inl forSrc⟩
    · exact ⟨e, .inr ⟨src, dst, found, split, forSrc, forDst⟩⟩
  · rintro ⟨e, forSrc | ⟨src, dst, found, split, forSrc, forDst⟩⟩
    · exact .inl ⟨e, forSrc⟩
    · exact .inr ⟨src, dst, found, e, split, forSrc, forDst⟩

end HeaderCache

namespace Handshake

variable {config : HeaderSyncConfig} {cache after : HeaderCache} {headers : Pair (List Header)}

/-- `t` are some syncs that fail, fewer than there may be attempts, and a last one that yields
`headers`. -/
structure SyncedBy (ids : Pair ChainId) (config : HeaderSyncConfig) (failed : List Sync)
    (last : Sync) (headers : Pair (List Header)) (t : List (Exchange Chains)) : Prop where
  exchanges : t = failed.flatMap Sync.exchanges ++ last.exchanges
  room : failed.length < config.attempts
  fails : ∀ sync ∈ failed, sync.Fails ids
  yields : last.Yields ids headers

/-- With the latest headers cached, attempts that fail are syncs that fail, the last of which
leaves its refresh to the next one. -/
theorem Misses.syncs {errors : List RelayError} (distinct : ids.src ≠ ids.dst)
    (misses : Misses ids cache errors t after) (holds : cache.Holds ids latest) :
    ∃ (failed : List Sync) (next : Pair Header), failed.length = errors.length ∧
      fetches latest ++ t = failed.flatMap Sync.exchanges ++ fetches next ∧
      (∀ sync ∈ failed, sync.Fails ids) ∧ after.Holds ids next := by
  induction misses generalizing latest with
  | none => exact ⟨[], latest, rfl, List.append_nil _, nofun, holds⟩
  | @more cache _ e _ attempt _ fresh failed _ ih =>
    obtain ⟨syncs, next, count, split, fails, held⟩ :=
      ih (HeaderCache.holds_refreshed distinct cache fresh)
    have first : (Sync.mk latest attempt).Fails ids := holds.fails_iff.mpr ⟨e, failed⟩
    refine ⟨⟨latest, attempt⟩ :: syncs, next, congrArg Nat.succ count, ?_,
      List.forall_mem_cons.mpr ⟨first, fails⟩, held⟩
    rw [List.append_assoc, split]
    simp [Sync.exchanges]

/-- Syncs that fail are attempts that fail, once the latest headers of the first one are cached.
The last of them leads up to the refresh that fetches `next`. -/
theorem misses_of_syncs {failed : List Sync} (distinct : ids.src ≠ ids.dst)
    (fails : ∀ sync ∈ failed, sync.Fails ids) (next : Pair Header) :
    ∃ first t, fetches first ++ t = failed.flatMap Sync.exchanges ++ fetches next ∧
      ∀ cache : HeaderCache, cache.Holds ids first → ∃ errors after,
        errors.length = failed.length ∧ Misses ids cache errors t after ∧ after.Holds ids next := by
  induction failed with
  | nil =>
    refine ⟨next, [], List.append_nil _, fun cache holds => ?_⟩
    exact ⟨[], cache, rfl, .none cache, holds⟩
  | cons sync syncs ih =>
    obtain ⟨first, rest⟩ := List.forall_mem_cons.mp fails
    obtain ⟨fresh, later, split, reach⟩ := ih rest
    refine ⟨sync.latest, sync.asked ++ fetches fresh ++ later, ?_, fun cache holds => ?_⟩
    · rw [List.append_assoc, split]
      simp [Sync.exchanges]
    · obtain ⟨e, failed⟩ := holds.fails_iff.mp first
      obtain ⟨errors, after, count, misses, held⟩ :=
        reach _ (HeaderCache.holds_refreshed distinct cache fresh)
      exact ⟨e :: errors, after, congrArg Nat.succ count, .more fresh failed misses, held⟩

/-- All attempts, where the latest headers are in the cache before the first one. -/
theorem updateHeaders_admits_ok (distinct : ids.src ≠ ids.dst) (holds : cache.Holds ids latest)
    (h : ((updateHeaders ids config).run cache).Admits t (.ok headers, after)) :
    ∃ failed last, SyncedBy ids config failed last headers (fetches latest ++ t) ∧
      after.Holds ids last.latest := by
  obtain ⟨_, _, first, attempt, _, rfl, misses, final, result⟩ := updateHeaders_admits.mp h
  obtain ⟨failed, next, count, split, fails, held⟩ := misses.syncs distinct holds
  cases final with
  | succeeds room built =>
    cases result
    refine ⟨failed, ⟨next, attempt⟩, ⟨?_, ?_, fails, ?_⟩, held⟩
    · rw [← List.append_assoc, split, List.append_assoc]
      rfl
    · rw [count]
      exact room
    · exact held.headersForBoth_admits_ok.mp built
  | givesUp | refreshFails => cases result

/-- A header sync is a refresh, and the attempts after it unless it fails. -/
theorem syncedHeaders_admits {r : Except HandshakeError (Pair (List Header) × HeaderCache)} :
    (syncedHeaders ids config).run.Admits t r ↔
      (∃ e after, r = .error (.headerRefresh e) ∧ Refreshed ids .empty t (.error e) after) ∨
      ∃ latest attempts result after, t = fetches latest ++ attempts ∧
        ((updateHeaders ids config).run (HeaderCache.empty.refreshed ids latest)).Admits attempts
          (result, after) ∧
        r = result.map (·, after) := by
  unfold syncedHeaders
  constructor
  · intro h
    obtain ⟨_, rfl, failed⟩ | ⟨start, _, rest, rfl, fetched, next⟩ := Relay.admits_bind.mp h
    · obtain ⟨e, rfl, unsynced⟩ := Relay.admits_wrapError_error.mp failed
      obtain ⟨after, refused⟩ := synced_admits_error.mp unsynced
      exact .inl ⟨e, after, rfl, refused⟩
    · obtain ⟨latest, rfl, rfl⟩ := synced_admits_ok.mp (Relay.admits_wrapError_ok.mp fetched)
      obtain ⟨⟨result, after⟩, attempts, _, rfl, updated, rfl, rfl⟩ := Dialogue.admits_bind.mp next
      rw [List.append_nil]
      exact .inr ⟨latest, attempts, result, after, rfl, updated, rfl⟩
  · rintro (⟨e, after, rfl, refused⟩ | ⟨latest, attempts, result, after, rfl, updated, rfl⟩)
    · refine Relay.admits_bind.mpr (.inl ⟨_, rfl, ?_⟩)
      exact Relay.admits_wrapError_error.mpr ⟨e, rfl, synced_admits_error.mpr ⟨after, refused⟩⟩
    · refine (Relay.admits_bind_append (Relay.admits_wrapError_ok.mpr
        (synced_admits_ok.mpr ⟨latest, rfl, rfl⟩))).mpr ?_
      exact Dialogue.admits_bind.mpr
        ⟨(result, after), attempts, [], (List.append_nil _).symm, updated, rfl, rfl⟩

/-- A header sync that succeeds is a series of syncs of which the last one yields the headers. -/
theorem syncedHeaders_admits_ok (distinct : ids.src ≠ ids.dst)
    (h : (syncedHeaders ids config).run.Admits t (.ok (headers, cache))) :
    ∃ failed last, SyncedBy ids config failed last headers t ∧ cache.Holds ids last.latest := by
  obtain ⟨_, _, same, _⟩ | ⟨latest, attempts, result, _, rfl, updated, same⟩ :=
    syncedHeaders_admits.mp h
  · cases same
  have holds := HeaderCache.holds_refreshed distinct .empty latest
  cases result with
  | error e => cases same
  | ok found =>
    cases same
    exact updateHeaders_admits_ok distinct holds updated

/-- Every such series is a header sync. -/
theorem SyncedBy.syncedHeaders {failed : List Sync} {last : Sync} (distinct : ids.src ≠ ids.dst)
    (synced : SyncedBy ids config failed last headers t) :
    ∃ cache : HeaderCache, cache.Holds ids last.latest ∧
      (syncedHeaders ids config).run.Admits t (.ok (headers, cache)) := by
  obtain ⟨rfl, room, fails, yields⟩ := synced
  obtain ⟨first, missed, split, reach⟩ := misses_of_syncs distinct fails last.latest
  obtain ⟨errors, after, count, misses, holds⟩ :=
    reach _ (HeaderCache.holds_refreshed distinct .empty first)
  have built : (after.headersForBoth ids).run.Admits last.asked (.ok headers) :=
    holds.headersForBoth_admits_ok.mpr yields
  have updated : ((updateHeaders ids config).run (HeaderCache.empty.refreshed ids first)).Admits
      (missed ++ last.asked) (.ok headers, after) :=
    updateHeaders_admits.mpr ⟨errors, after, missed, last.asked, _, rfl, misses,
      .succeeds (by rwa [count]) built, rfl⟩
  refine ⟨after, holds, ?_⟩
  rw [Sync.exchanges, ← List.append_assoc, ← split, List.append_assoc]
  exact syncedHeaders_admits.mpr (.inr ⟨first, _, .ok headers, after, rfl, updated, rfl⟩)

end Handshake

end ChannelRelay
