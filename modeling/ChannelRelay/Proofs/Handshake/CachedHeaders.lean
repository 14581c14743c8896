import ChannelRelay.Proofs.Handshake.Pinning
import ChannelRelay.Proofs.Handshake.Retries

/-!
# The headers that are cached

Between calls the cache has the last header of each of the two chains and nothing else, also
after a call that failed halfway.

* `newestHeader?`: the last header that a chain returned;
* `HeaderCache.Tracks`: a cache changes with what the chains return, and in no other way;
* `Call`, `Kept`: one call that may change the cache, and any series of them;
* `Raised`: an error that a chain replied with, or that its headers gave rise to;
* `step_raised`: on a valid path a step fails with no other errors of chains;
* `UpToDate`, `header_cache_up_to_date`: what holds of the cache after any series of calls, and
  that no header is ever found missing.
-/

namespace ChannelRelay

variable {ids : Pair ChainId} {t u : List (Exchange Chains)} {s : Side}

theorem Pair.get_inj (distinct : ids.src ≠ ids.dst) {a b : Side} :
    ids.get a = ids.get b ↔ a = b := by
  cases a <;> cases b <;> simp [distinct, distinct.symm]

/-! ## The newest header of a chain -/

/-- The last header that the chain on side `s` returned. -/
def newestHeader? (s : Side) (t : List (Exchange Chains)) : Option Header :=
  ((latestHeaders s t).filterMap Except.toOption).getLast?

theorem newestHeader?_append (s : Side) (t u : List (Exchange Chains)) :
    newestHeader? s (t ++ u) = (newestHeader? s u).or (newestHeader? s t) := by
  rw [newestHeader?, latestHeaders_append, List.filterMap_append, List.getLast?_append]
  rfl

theorem newestHeader?_returned (s own : Side) (header : Header) :
    newestHeader? own [⟨(s, .latestHeader), .ok header⟩] =
      if own = s then some header else none := by
  cases s <;> cases own <;> rfl

theorem newestHeader?_refused (s own : Side) (e : RelayError) :
    newestHeader? own [⟨(s, .latestHeader), .error e⟩] = none := by
  cases s <;> cases own <;> rfl

theorem Unobserving.newestHeader? (h : Unobserving t) (s : Side) : newestHeader? s t = none := by
  rw [ChannelRelay.newestHeader?, h.latestHeaders]
  rfl

/-- The same exchange with the roles of the chains exchanged. -/
def Exchange.swap (e : Exchange Chains) : Exchange Chains :=
  ⟨(e.request.1.other, e.request.2), e.reply⟩

theorem newestHeader?_swap (s : Side) (t : List (Exchange Chains)) :
    newestHeader? s (t.map Exchange.swap) = newestHeader? s.other t := by
  have same : Exchange.latestHeader? s ∘ Exchange.swap = Exchange.latestHeader? s.other := by
    funext ⟨⟨side, c⟩, reply⟩
    cases c <;> cases side <;> cases s <;> rfl
  rw [newestHeader?, latestHeaders, List.filterMap_map, same]
  rfl

/-! ## What changes the cache -/

namespace HeaderCache

variable {before between after : HeaderCache}

/-- By the exchanges `t` the cache `before` becomes `after`, which has the newest headers. -/
structure Tracks (ids : Pair ChainId) (before : HeaderCache) (t : List (Exchange Chains))
    (after : HeaderCache) : Prop where
  own : ∀ s, after.get? (ids.get s) = (newestHeader? s t).or (before.get? (ids.get s))
  others : ∀ id, (∀ s, id ≠ ids.get s) → after.get? id = before.get? id

namespace Tracks

theorem of_unobserving (h : Unobserving t) (cache : HeaderCache) : Tracks ids cache t cache where
  own s := by rw [h.newestHeader?, Option.none_or]
  others _ _ := rfl

theorem insert (distinct : ids.src ≠ ids.dst) (cache : HeaderCache) (s : Side) (header : Header) :
    Tracks ids cache [⟨(s, .latestHeader), .ok header⟩] (cache.insert (ids.get s) header) where
  own own := by
    rw [get?_insert, newestHeader?_returned]
    by_cases same : own = s
    · rw [if_pos same, if_pos (congrArg ids.get same), Option.some_or]
    · rw [if_neg same, if_neg (mt (Pair.get_inj distinct).mp same), Option.none_or]
  others id other := by rw [get?_insert, if_neg (other s)]

theorem append (first : Tracks ids before t between) (rest : Tracks ids between u after) :
    Tracks ids before (t ++ u) after where
  own s := by rw [rest.own, first.own, newestHeader?_append, Option.or_assoc]
  others id other := by rw [rest.others id other, first.others id other]

theorem swap (h : Tracks ids before t after) :
    Tracks ids.swap before (t.map Exchange.swap) after where
  own s := by rw [Pair.get_swap, h.own, newestHeader?_swap]
  others id other := by
    refine h.others id (Side.forall_other.mp fun s => ?_)
    rw [← Pair.get_swap]
    exact other s

/-- Headers that are there are not lost. -/
theorem holds {latest : Pair Header} (h : Tracks ids before t after)
    (held : before.Holds ids latest) : ∃ latest', after.Holds ids latest' := by
  let newest (s : Side) : Header := (newestHeader? s t).getD (latest.get s)
  refine ⟨⟨newest .src, newest .dst⟩, fun s => ?_⟩
  have own : after.get? (ids.get s) = some (newest s) := by
    rw [h.own, held s]
    simp only [newest]
    cases newestHeader? s t <;> rfl
  cases s <;> exact own

end Tracks

end HeaderCache

namespace Syncing

variable {cache after : HeaderCache} {r : Except RelayError Unit}

theorem fetch_tracks (distinct : ids.src ≠ ids.dst)
    (h : ((fetch ids s).run cache).Admits t (r, after)) : cache.Tracks ids t after := by
  obtain ⟨header, rfl, _, rfl⟩ | ⟨e, rfl, _, rfl⟩ := fetch_admits.mp h
  · exact .insert distinct cache s header
  · constructor
    · intro own
      rw [newestHeader?_refused, Option.none_or]
    · intro id other
      rfl

theorem refreshFrom_tracks (distinct : ids.src ≠ ids.dst)
    (h : ((refreshFrom ids s).run cache).Admits t (r, after)) : cache.Tracks ids t after := by
  obtain ⟨fetched, between, first, rest, rfl, own, next⟩ := admits_bind.mp h
  have tracks := fetch_tracks distinct own
  cases fetched with
  | ok _ => exact tracks.append (fetch_tracks distinct next)
  | error e =>
    obtain ⟨rfl, same⟩ := next
    cases same
    rwa [List.append_nil]

end Syncing

theorem Refreshed.tracks {cache after : HeaderCache} {r : Except RelayError Unit}
    (distinct : ids.src ≠ ids.dst) (h : Refreshed ids cache t r after) :
    cache.Tracks ids t after :=
  Syncing.refreshFrom_tracks distinct (Syncing.refresh_admits.mpr h)

namespace Handshake

variable {config : HeaderSyncConfig} {cache between after : HeaderCache}

/-- The cache stays as it is while headers are sought, and no latest header is asked for. -/
theorem headersForBoth_tracks {found : Except RelayError (Pair (List Header))}
    (h : (cache.headersForBoth ids).run.Admits t found) : cache.Tracks ids t cache := by
  have asks : (cache.headersForBoth ids).run.Asks
      fun q : Side × ChainCall => ¬ q.2.Observes :=
    asks_headersForBoth (fun _ _ => id) (fun _ _ _ => id) cache ids
  exact .of_unobserving (asks.of_admits h) cache

theorem Misses.tracks {errors : List RelayError} (distinct : ids.src ≠ ids.dst)
    (misses : Misses ids cache errors t after) : cache.Tracks ids t after := by
  induction misses with
  | none cache => exact .of_unobserving .nil cache
  | @more cache _ _ _ _ _ latest failed _ ih =>
    have refresh : cache.Tracks ids (fetches latest) (cache.refreshed ids latest) :=
      (Refreshed.both latest).tracks distinct
    exact ((headersForBoth_tracks failed).append refresh).append ih

theorem LastAttempt.tracks {missed : Nat} {r : Except (GivenUp SyncFailure) (Pair (List Header))}
    (distinct : ids.src ≠ ids.dst) (last : LastAttempt ids config missed cache t r after) :
    cache.Tracks ids t after := by
  cases last with
  | succeeds _ built => exact headersForBoth_tracks built
  | givesUp _ failed => exact headersForBoth_tracks failed
  | refreshFails _ failed refused =>
    exact (headersForBoth_tracks failed).append (refused.tracks distinct)

theorem updateHeaders_tracks {result : Except HandshakeError (Pair (List Header))}
    (distinct : ids.src ≠ ids.dst)
    (h : ((updateHeaders ids config).run cache).Admits t (result, after)) :
    cache.Tracks ids t after := by
  obtain ⟨errors, between, first, last, r, rfl, misses, final, _⟩ := updateHeaders_admits.mp h
  exact (misses.tracks distinct).append (final.tracks distinct)

/-! ## Series of calls -/

/-- A call that may change the cache, whether it succeeds or not. -/
inductive Call (ids : Pair ChainId) (cache : HeaderCache) (t : List (Exchange Chains))
    (after : HeaderCache) : Prop where
  | refresh (first : Side) (r : Except RelayError Unit)
      (run : ((Syncing.refreshFrom ids first).run cache).Admits t (r, after))
  | updateHeaders (config : HeaderSyncConfig) (r : Except HandshakeError (Pair (List Header)))
      (run : ((updateHeaders ids config).run cache).Admits t (r, after))

/-- What a cache may be like that two chains have been synced into, with all that they were
asked for so far. From one call to the next the chains may exchange their roles. -/
inductive Kept : Pair ChainId → List (Exchange Chains) → HeaderCache → Prop
  | synced {ids : Pair ChainId} {t : List (Exchange Chains)} {cache : HeaderCache}
      (run : (HeaderCache.synced ids).run.Admits t (.ok cache)) : Kept ids t cache
  | swap {ids : Pair ChainId} {t : List (Exchange Chains)} {cache : HeaderCache}
      (before : Kept ids t cache) : Kept ids.swap (t.map Exchange.swap) cache
  | call {ids : Pair ChainId} {t u : List (Exchange Chains)} {cache after : HeaderCache}
      (before : Kept ids t cache) (call : Call ids cache u after) : Kept ids (t ++ u) after

theorem Call.tracks (distinct : ids.src ≠ ids.dst) (call : Call ids cache t after) :
    cache.Tracks ids t after := by
  cases call with
  | refresh first r run => exact Syncing.refreshFrom_tracks distinct run
  | updateHeaders config r run => exact updateHeaders_tracks distinct run

/-- All that is in the cache was put there by the calls. -/
theorem Kept.tracks (kept : Kept ids t cache) (distinct : ids.src ≠ ids.dst) :
    HeaderCache.empty.Tracks ids t cache := by
  induction kept with
  | synced run =>
    obtain ⟨latest, rfl, rfl⟩ := synced_admits_ok.mp run
    exact (Refreshed.both latest).tracks distinct
  | swap _ ih => exact (ih distinct.symm).swap
  | call _ call ih => exact (ih distinct).append (call.tracks distinct)

/-- Each chain has returned a header. -/
theorem Kept.exists_newest (kept : Kept ids t cache) (s : Side) :
    ∃ header, newestHeader? s t = some header := by
  induction kept generalizing s with
  | synced run =>
    obtain ⟨latest, rfl, _⟩ := synced_admits_ok.mp run
    cases s with
    | src => exact ⟨latest.src, rfl⟩
    | dst => exact ⟨latest.dst, rfl⟩
  | swap _ ih =>
    rw [newestHeader?_swap]
    exact ih s.other
  | @call _ t u _ _ _ _ ih =>
    obtain ⟨header, before⟩ := ih s
    rw [newestHeader?_append, before]
    cases newestHeader? s u with
    | none => exact ⟨header, rfl⟩
    | some newer => exact ⟨newer, rfl⟩

end Handshake

/-! ## Errors of the chains -/

/-- The error that a chain replied with. -/
def Exchange.error? : Exchange Chains → Option RelayError
  | ⟨_, .error e⟩ => some e
  | ⟨_, .ok _⟩ => none

/-- One of the chains replied with this error. -/
def Replied (e : RelayError) (t : List (Exchange Chains)) : Prop := ∃ x ∈ t, x.error? = some e

/-- One of the chains replied with this error, or with headers that are not in order. -/
def Raised (e : RelayError) (t : List (Exchange Chains)) : Prop :=
  Replied e t ∨ ∃ id previous next, e = .nonMonotonicHeaders id previous next

variable {e : RelayError}

theorem Replied.of_last (t : List (Exchange Chains)) {x : Exchange Chains}
    (h : x.error? = some e) : Replied e (t ++ [x]) :=
  ⟨x, List.mem_append_right _ List.mem_cons_self, h⟩

theorem Replied.before (h : Replied e u) : Replied e (t ++ u) := by
  obtain ⟨x, mem, same⟩ := h
  exact ⟨x, List.mem_append_right _ mem, same⟩

theorem Raised.before (h : Raised e u) : Raised e (t ++ u) := h.imp_left Replied.before

theorem Raised.replied {id : ChainId} (h : Raised (.missingHeader id) t) :
    Replied (.missingHeader id) t := by
  obtain replied | ⟨_, _, _, same⟩ := h
  · exact replied
  · cases same

theorem Sought.raised {latest : Pair Header} (h : Sought ids latest s t (.error e)) :
    Raised e t := by
  cases h with
  | noClient => exact .inl (.of_last [] rfl)
  | notBuilt => exact .inl (.of_last [_] rfl)
  | descending => exact .inr ⟨_, _, _, rfl⟩

theorem HeaderCache.Holds.headersForBoth_raised {cache : HeaderCache} {latest : Pair Header}
    (h : cache.Holds ids latest) (both : (cache.headersForBoth ids).run.Admits t (.error e)) :
    Raised e t := by
  obtain forSrc | ⟨src, dst, found, rfl, _, forDst⟩ := h.headersForBoth_admits_error.mp both
  · exact forSrc.raised
  · exact forDst.raised.before

theorem Refreshed.replied {cache after : HeaderCache}
    (refused : Refreshed ids cache t (.error e) after) : Replied e t := by
  cases refused with
  | noSource => exact .of_last [] rfl
  | noDestination => exact .of_last [_] rfl

namespace Relay

variable {α β : Type}

/-- All failures are those of the chains. -/
def PassesOn (x : Relay RelayError α) : Prop := ∀ t e, x.run.Admits t (.error e) → Replied e t

theorem passesOn_pure (a : α) : Relay.PassesOn (pure a) := fun _ _ h => nomatch h.2

theorem passesOn_call (s : Side) (c : ChainCall) : (call s c).PassesOn := by
  intro t e h
  obtain rfl := admits_call.mp h
  exact .of_last [] rfl

theorem passesOn_bind {x : Relay RelayError α} {f : α → Relay RelayError β} (first : x.PassesOn)
    (rest : ∀ a, (f a).PassesOn) : Relay.PassesOn (x >>= f) := by
  intro t e h
  obtain ⟨_, same, failed⟩ | ⟨a, _, t', rfl, _, failed⟩ := admits_bind.mp h
  · cases same
    exact first t e failed
  · exact (rest a t' e failed).before

end Relay

/-- The error of a chain that a handshake failed with. -/
def HandshakeError.cause? : HandshakeError → Option RelayError
  | .relay cause | .invalidPath cause | .maxRetry _ _ _ cause | .headerRefresh cause
  | .query cause => some cause
  | .invalidConfig _ | .unexpectedStates .. | .failed .. => none

namespace Handshake

variable {config : HeaderSyncConfig} {cache between after : HeaderCache} {failure : HandshakeError}

theorem updateHeaders_raised {latest : Pair Header} (distinct : ids.src ≠ ids.dst)
    (held : cache.Holds ids latest)
    (h : ((updateHeaders ids config).run cache).Admits t (.error failure, after))
    (cause : failure.cause? = some e) : Raised e t := by
  obtain ⟨errors, between, first, last, r, rfl, misses, final, result⟩ :=
    updateHeaders_admits.mp h
  obtain ⟨_, holds⟩ := (misses.tracks distinct).holds held
  cases final with
  | succeeds => cases result
  | givesUp _ failed =>
    cases result
    cases cause
    exact (holds.headersForBoth_raised failed).before
  | refreshFails _ _ refused =>
    cases result
    cases cause
    exact .inl refused.replied.before.before

theorem syncedHeaders_raised (distinct : ids.src ≠ ids.dst)
    (h : (syncedHeaders ids config).run.Admits t (.error failure))
    (cause : failure.cause? = some e) : Raised e t := by
  obtain ⟨_, _, same, refused⟩ | ⟨latest, _, result, _, rfl, updated, same⟩ :=
    syncedHeaders_admits.mp h
  · cases same
    cases cause
    exact .inl refused.replied
  · have holds := HeaderCache.holds_refreshed distinct .empty latest
    cases result with
    | ok _ => cases same
    | error failure =>
      cases same
      exact (updateHeaders_raised distinct holds updated cause).before

theorem passesOn_queryChannels (heights : Pair Height) : (queryChannels heights).PassesOn :=
  Relay.passesOn_bind (Relay.passesOn_call _ _) fun _ =>
    Relay.passesOn_bind (Relay.passesOn_call _ _) fun _ => Relay.passesOn_pure _

theorem passesOn_queryLatestChannels : queryLatestChannels.PassesOn :=
  Relay.passesOn_bind (Relay.passesOn_call _ _) fun _ =>
    Relay.passesOn_bind (Relay.passesOn_call _ _) fun _ => passesOn_queryChannels _

variable {parties : Pair Party} {order : ChannelOrder} {paths : Pair PathEnd}

theorem look_raised (valid : validatePaths parties = .ok paths)
    (h : (look parties config).run.Admits t (.error failure))
    (cause : failure.cause? = some e) : Raised e t := by
  obtain ⟨_, invalid, _⟩ | failed | ⟨earlier, rest, _, rfl, rfl, refused⟩ := look_admits_error h
  · rw [valid] at invalid
    cases invalid
  · exact syncedHeaders_raised (validatePaths_eq_ok.mp valid).2 failed cause
  · cases cause
    obtain ⟨heights, refused⟩ | refused := refused
    · exact .inl (passesOn_queryChannels heights _ _ refused).before
    · exact .inl (passesOn_queryLatestChannels _ _ refused).before

/-- On a valid path a step fails with no other errors of chains than those that a chain replied
with, or gave rise to. -/
theorem step_raised (valid : validatePaths parties = .ok paths)
    (h : (step parties order config).run.Admits t (.error failure))
    (cause : failure.cause? = some e) : Raised e t := by
  obtain ⟨_, same, failed⟩ | ⟨l, _, rest, rfl, _, decided⟩ := step_cases h
  · cases same
    exact look_raised valid failed cause
  by_cases confirmed : l.Confirmed
  · cases found : nextStep l.states with
    | none =>
      cases (decided.refuses confirmed (nextStep_eq_none.mp found)).2
      cases cause
    | some action =>
      obtain ⟨_, same, _⟩ | ⟨error, earlier, c, same, _, rfl⟩ :=
        decided.acts confirmed action (nextStep_eq_some.mp found)
      · cases same
      · cases same
        cases cause
        exact .inl (Replied.of_last _ rfl).before
  · cases (decided.waits confirmed).2

/-! ## The cache between calls -/

/-- What holds of a cache if `t` are the exchanges of all calls so far. -/
structure UpToDate (ids : Pair ChainId) (t : List (Exchange Chains)) (cache : HeaderCache) :
    Prop where
  /-- The header of each chain is the last one that this chain returned. -/
  newest : ∀ s, ∃ header, newestHeader? s t = some header ∧
    cache.latestHeader (ids.get s) = .ok header
  /-- There are no headers of other chains. -/
  unrelated : ∀ id, (∀ s, id ≠ ids.get s) → cache.latestHeader id = .error (.missingHeader id)
  /-- One more call keeps a header, or has it replaced by one that the same chain returned. -/
  lasting : ∀ u after, Call ids cache u after → ∀ id header, cache.latestHeader id = .ok header →
    after.latestHeader id = .ok header ∨
    ∃ s newer, id = ids.get s ∧ newestHeader? s u = some newer ∧
      after.latestHeader id = .ok newer
  /-- When the headers for both clients are sought, none is missing in the cache. -/
  sought : ∀ u id, (cache.headersForBoth ids).run.Admits u (.error (.missingHeader id)) →
    Replied (.missingHeader id) u

/-- **Cached headers.** After a successful first sync of two chains, and any series of refreshes
and header syncs, some of which may have failed halfway, the cache has the last header of each
of the two chains and nothing else. So no header is missing when the headers for both clients
are sought or a step is evaluated: if that is the error, a chain has replied with it. -/
theorem header_cache_up_to_date (distinct : ids.src ≠ ids.dst) (kept : Kept ids t cache) :
    UpToDate ids t cache ∧
    ∀ parties order config paths u failure id, validatePaths parties = .ok paths →
      (step parties order config).run.Admits u (.error failure) →
      failure.cause? = some (.missingHeader id) → Replied (.missingHeader id) u := by
  have tracks : HeaderCache.empty.Tracks ids t cache := kept.tracks distinct
  have newest (s : Side) : ∃ header, newestHeader? s t = some header ∧
      cache.get? (ids.get s) = some header := by
    obtain ⟨header, returned⟩ := kept.exists_newest s
    exact ⟨header, returned, by rw [tracks.own, returned, Option.some_or]⟩
  refine ⟨⟨fun s => ?_, fun id other => ?_, fun u after call id header held => ?_,
    fun u id both => ?_⟩, fun parties order config paths u failure id valid run cause => ?_⟩
  · obtain ⟨header, returned, held⟩ := newest s
    exact ⟨header, returned, HeaderCache.latestHeader_eq_ok.mpr held⟩
  · have missing : cache.get? id = none := tracks.others id other
    rw [HeaderCache.latestHeader, missing]
  · have next : cache.Tracks ids u after := call.tracks distinct
    rw [HeaderCache.latestHeader_eq_ok] at held
    simp only [HeaderCache.latestHeader_eq_ok]
    by_cases own : ∃ s, id = ids.get s
    · obtain ⟨s, rfl⟩ := own
      rw [next.own, held]
      cases returned : newestHeader? s u with
      | none => exact .inl rfl
      | some newer => exact .inr ⟨s, newer, rfl, returned, rfl⟩
    · exact .inl ((next.others id fun s same => own ⟨s, same⟩).trans held)
  · obtain ⟨src, _, atSrc⟩ := newest .src
    obtain ⟨dst, _, atDst⟩ := newest .dst
    have holds : cache.Holds ids ⟨src, dst⟩ := by
      intro s
      cases s with
      | src => exact atSrc
      | dst => exact atDst
    exact (holds.headersForBoth_raised both).replied
  · exact (step_raised valid run cause).replied

/-- A refresh gets a new header of the source and none of the destination: each of them has the
last header that it returned. -/
theorem header_cache_up_to_date_halfway :
    let ids : Pair ChainId := ⟨.ofString "ibc-0", .ofString "ibc-1"⟩
    let first : Header := Simulation.ScriptedChain.header ⟨0, 10⟩
    let second : Header := Simulation.ScriptedChain.header ⟨0, 13⟩
    let refused : RelayError := .query ids.dst "latest_header" "no connection"
    let refresh : List (Exchange Chains) :=
      [⟨(.src, .latestHeader), .ok second⟩, ⟨(.dst, .latestHeader), .error refused⟩]
    let cache := (HeaderCache.empty.refreshed ids ⟨first, first⟩).insert ids.src second
    Kept ids (fetches ⟨first, first⟩ ++ refresh) cache ∧
      UpToDate ids (fetches ⟨first, first⟩ ++ refresh) cache ∧
      cache.latestHeader ids.src = .ok second ∧ cache.latestHeader ids.dst = .ok first := by
  intro ids first second refused refresh cache
  have distinct : ids.src ≠ ids.dst := by decide
  have synced : Kept ids (fetches ⟨first, first⟩) (.refreshed .empty ids ⟨first, first⟩) :=
    .synced (synced_admits_ok.mpr ⟨⟨first, first⟩, rfl, rfl⟩)
  have halfway : ((Syncing.refreshFrom ids .src).run (.refreshed .empty ids ⟨first, first⟩)).Admits
      refresh (.error refused, cache) :=
    Syncing.admits_bind.mpr ⟨.ok (), cache, [_], [_], rfl,
      Syncing.fetch_admits.mpr (.inl ⟨second, rfl, rfl, rfl⟩),
      Syncing.fetch_admits.mpr (.inr ⟨refused, rfl, rfl, rfl⟩)⟩
  have kept := synced.call (.refresh .src _ halfway)
  obtain ⟨upToDate, _⟩ := header_cache_up_to_date distinct kept
  refine ⟨kept, upToDate, ?_, ?_⟩
  · obtain ⟨header, returned, held⟩ := upToDate.newest .src
    cases returned
    exact held
  · obtain ⟨header, returned, held⟩ := upToDate.newest .dst
    cases returned
    exact held

end Handshake

end ChannelRelay
