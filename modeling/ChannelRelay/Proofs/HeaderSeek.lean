import ChannelRelay.Handshake.Step
import ChannelRelay.Proofs.Exchanges

/-!
# Seeking headers

How the headers are sought that a client lacks, and what it has to do with the cached headers.

* `Sought`: how the headers for one client are sought, and what that comes to;
* `HeaderCache.Holds`: the cached headers of two chains, and what follows from them alone;
* `Refreshed`, `Syncing.refresh_admits`: how the latest headers are fetched, what that comes to,
  and what is cached then;
* `seekHeaders`, `syncAttempt_first`, `syncAttempt_later`: one attempt to get the headers for
  both clients.
-/

namespace ChannelRelay

variable {ids : Pair ChainId} {latest : Pair Header} {t : List (Exchange Chains)}

/-! ## Seeking headers -/

/-- The headers that the client of the chain on side `s` lacks, if `latest` are the cached
headers. -/
def missingHeaders (ids : Pair ChainId) (latest : Pair Header) (s : Side) :
    Relay RelayError (List Header) := do
  let trusted : Height ← call s.other (.clientHeight (latest.get s.other).height)
  if (latest.get s).height ≤ trusted then
    return []
  let headers : List Header ← call s (.headersForUpdate trusted (latest.get s))
  match HeaderCache.firstDescent? headers with
  | some (a, b) => throw (.nonMonotonicHeaders (ids.get s) a.height b.height)
  | none => return headers

/-- The exchanges by which these headers are sought, and what they come to. -/
inductive Sought (ids : Pair ChainId) (latest : Pair Header) (s : Side) :
    List (Exchange Chains) → Except RelayError (List Header) → Prop
  | noClient (e : RelayError) :
      Sought ids latest s
        [⟨(s.other, .clientHeight (latest.get s.other).height), .error e⟩] (.error e)
  | upToDate (trusted : Height) (caughtUp : (latest.get s).height ≤ trusted) :
      Sought ids latest s
        [⟨(s.other, .clientHeight (latest.get s.other).height), .ok trusted⟩] (.ok [])
  | notBuilt (trusted : Height) (behind : ¬ (latest.get s).height ≤ trusted) (e : RelayError) :
      Sought ids latest s
        [⟨(s.other, .clientHeight (latest.get s.other).height), .ok trusted⟩,
          ⟨(s, .headersForUpdate trusted (latest.get s)), .error e⟩] (.error e)
  | descending (trusted : Height) (behind : ¬ (latest.get s).height ≤ trusted)
      (headers : List Header) (a b : Header)
      (descent : HeaderCache.firstDescent? headers = some (a, b)) :
      Sought ids latest s
        [⟨(s.other, .clientHeight (latest.get s.other).height), .ok trusted⟩,
          ⟨(s, .headersForUpdate trusted (latest.get s)), .ok headers⟩]
        (.error (.nonMonotonicHeaders (ids.get s) a.height b.height))
  | built (trusted : Height) (behind : ¬ (latest.get s).height ≤ trusted)
      (headers : List Header) (increasing : HeaderCache.firstDescent? headers = none) :
      Sought ids latest s
        [⟨(s.other, .clientHeight (latest.get s.other).height), .ok trusted⟩,
          ⟨(s, .headersForUpdate trusted (latest.get s)), .ok headers⟩] (.ok headers)

theorem missingHeaders_admits {s : Side} {found : Except RelayError (List Header)} :
    (missingHeaders ids latest s).run.Admits t found ↔ Sought ids latest s t found := by
  unfold missingHeaders
  constructor
  · intro h
    obtain ⟨e, rfl, rfl⟩ | ⟨trusted, rest, rfl, afterClient⟩ := Relay.admits_call_bind.mp h
    · exact .noClient e
    by_cases caughtUp : (latest.get s).height ≤ trusted
    · rw [if_pos caughtUp] at afterClient
      obtain ⟨rfl, rfl⟩ := afterClient
      exact .upToDate trusted caughtUp
    rw [if_neg caughtUp] at afterClient
    obtain ⟨e, rfl, rfl⟩ | ⟨headers, rest, rfl, checked⟩ := Relay.admits_call_bind.mp afterClient
    · exact .notBuilt trusted caughtUp e
    cases descent : HeaderCache.firstDescent? headers with
    | none =>
      rw [descent] at checked
      obtain ⟨rfl, rfl⟩ := checked
      exact .built trusted caughtUp headers descent
    | some pair =>
      rw [descent] at checked
      obtain ⟨rfl, rfl⟩ := checked
      exact .descending trusted caughtUp headers pair.1 pair.2 descent
  · intro h
    cases h with
    | noClient e => exact Relay.admits_call_bind.mpr (.inl ⟨e, rfl, rfl⟩)
    | upToDate trusted caughtUp =>
      refine Relay.admits_call_bind.mpr (.inr ⟨trusted, _, rfl, ?_⟩)
      rw [if_pos caughtUp]
      exact ⟨rfl, rfl⟩
    | notBuilt trusted behind e =>
      refine Relay.admits_call_bind.mpr (.inr ⟨trusted, _, rfl, ?_⟩)
      rw [if_neg behind]
      exact Relay.admits_call_bind.mpr (.inl ⟨e, rfl, rfl⟩)
    | descending trusted behind headers a b descent =>
      refine Relay.admits_call_bind.mpr (.inr ⟨trusted, _, rfl, ?_⟩)
      rw [if_neg behind]
      refine Relay.admits_call_bind.mpr (.inr ⟨headers, _, rfl, ?_⟩)
      rw [descent]
      exact ⟨rfl, rfl⟩
    | built trusted behind headers increasing =>
      refine Relay.admits_call_bind.mpr (.inr ⟨trusted, _, rfl, ?_⟩)
      rw [if_neg behind]
      refine Relay.admits_call_bind.mpr (.inr ⟨_, _, rfl, ?_⟩)
      rw [increasing]
      exact ⟨rfl, rfl⟩

/-- Seeking headers asks for nothing else. -/
theorem Sought.request_cases {s : Side} {found : Except RelayError (List Header)}
    (h : Sought ids latest s t found) {e : Exchange Chains} (mem : e ∈ t) :
    e.request = (s.other, .clientHeight (latest.get s.other).height) ∨
      ∃ trusted, e.request = (s, .headersForUpdate trusted (latest.get s)) := by
  cases h with
  | noClient | upToDate => exact .inl (congrArg Exchange.request (List.mem_singleton.mp mem))
  | notBuilt trusted | descending trusted | built trusted =>
    rcases List.mem_cons.mp mem with rfl | mem
    · exact .inl rfl
    · exact .inr ⟨trusted, congrArg Exchange.request (List.mem_singleton.mp mem)⟩

/-! ## The cached headers -/

namespace HeaderCache

variable {cache : HeaderCache}

theorem latestHeader_eq_ok {id : ChainId} {header : Header} :
    cache.latestHeader id = .ok header ↔ cache.get? id = some header := by
  unfold latestHeader
  cases cache.get? id <;> simp

/-- The cached headers of the two chains are these. -/
def Holds (cache : HeaderCache) (ids : Pair ChainId) (latest : Pair Header) : Prop :=
  ∀ s, cache.get? (ids.get s) = some (latest.get s)

theorem Holds.latestHeader (h : cache.Holds ids latest) (s : Side) :
    cache.latestHeader (ids.get s) = .ok (latest.get s) := by
  rw [HeaderCache.latestHeader, h s]

theorem Holds.queryContext (h : cache.Holds ids latest) (s : Side) :
    cache.queryContext (ids.get s) = .ok ⟨ids.get s, (latest.get s).height⟩ := by
  rw [HeaderCache.queryContext, h.latestHeader s]
  rfl

theorem Holds.headersFor (h : cache.Holds ids latest) (s : Side) :
    cache.headersFor ids s = missingHeaders ids latest s := by
  rw [HeaderCache.headersFor, h.latestHeader s, h.queryContext s.other]
  rfl

theorem Holds.pinnedHeights (h : cache.Holds ids latest) :
    Handshake.pinnedHeights cache ids = .ok (latest.map Header.height) := by
  have src := h.queryContext .src
  have dst := h.queryContext .dst
  rw [Pair.get_src] at src
  rw [Pair.get_dst] at dst
  rw [Handshake.pinnedHeights, src, dst]
  rfl

/-- The cache after both headers were fetched. -/
def refreshed (cache : HeaderCache) (ids : Pair ChainId) (latest : Pair Header) : HeaderCache :=
  (cache.insert ids.src latest.src).insert ids.dst latest.dst

theorem holds_refreshed (distinct : ids.src ≠ ids.dst) (cache : HeaderCache)
    (latest : Pair Header) : (cache.refreshed ids latest).Holds ids latest := by
  intro s
  rw [refreshed, get?_insert, get?_insert]
  cases s with
  | src => rw [Pair.get_src, if_neg distinct, if_pos rfl, Pair.get_src]
  | dst => rw [Pair.get_dst, if_pos rfl, Pair.get_dst]

end HeaderCache

namespace Syncing

variable {cache after : HeaderCache}

theorem fetch_admits {s : Side} {r : Except RelayError Unit} :
    ((fetch ids s).run cache).Admits t (r, after) ↔
      (∃ header, t = [⟨(s, .latestHeader), .ok header⟩] ∧ r = .ok () ∧
        after = cache.insert (ids.get s) header) ∨
      (∃ e, t = [⟨(s, .latestHeader), .error e⟩] ∧ r = .error e ∧ after = cache) := by
  unfold fetch
  constructor
  · intro h
    obtain ⟨reply, _, first, rest, rfl, lifted, noted⟩ := admits_bind.mp h
    obtain ⟨asked, rfl⟩ := admits_lift.mp lifted
    obtain rfl := Dialogue.admits_request.mp asked
    cases reply with
    | ok header =>
      obtain ⟨rfl, same⟩ := noted
      cases same
      exact .inl ⟨header, rfl, rfl, rfl⟩
    | error e =>
      obtain ⟨rfl, same⟩ := noted
      cases same
      exact .inr ⟨e, rfl, rfl, rfl⟩
  · rintro (⟨header, rfl, rfl, rfl⟩ | ⟨e, rfl, rfl, rfl⟩)
    · exact admits_bind.mpr ⟨.ok header, cache, _, [], rfl,
        admits_lift.mpr ⟨Dialogue.admits_request.mpr rfl, rfl⟩, rfl, rfl⟩
    · exact admits_bind.mpr ⟨.error e, _, _, [], rfl,
        admits_lift.mpr ⟨Dialogue.admits_request.mpr rfl, rfl⟩, rfl, rfl⟩

end Syncing

/-- Both latest headers were fetched. -/
def fetches (latest : Pair Header) : List (Exchange Chains) :=
  [⟨(.src, .latestHeader), .ok latest.src⟩, ⟨(.dst, .latestHeader), .ok latest.dst⟩]

/-- The exchanges of a refresh, what it comes to, and the cache that it leaves. -/
inductive Refreshed (ids : Pair ChainId) (cache : HeaderCache) :
    List (Exchange Chains) → Except RelayError Unit → HeaderCache → Prop
  | both (latest : Pair Header) :
      Refreshed ids cache (fetches latest) (.ok ()) (cache.refreshed ids latest)
  /-- The destination is not asked any more. -/
  | noSource (e : RelayError) :
      Refreshed ids cache [⟨(.src, .latestHeader), .error e⟩] (.error e) cache
  /-- The header of the source is kept. -/
  | noDestination (header : Header) (e : RelayError) :
      Refreshed ids cache
        [⟨(.src, .latestHeader), .ok header⟩, ⟨(.dst, .latestHeader), .error e⟩] (.error e)
        (cache.insert ids.src header)

namespace Syncing

variable {cache after : HeaderCache}

theorem refresh_admits {r : Except RelayError Unit} :
    ((refresh ids).run cache).Admits t (r, after) ↔ Refreshed ids cache t r after := by
  constructor
  · intro h
    obtain ⟨fetched, between, first, rest, rfl, src, next⟩ := admits_bind.mp h
    obtain ⟨header, rfl, rfl, rfl⟩ | ⟨e, rfl, rfl, rfl⟩ := fetch_admits.mp src
    · obtain ⟨header', rfl, rfl, rfl⟩ | ⟨e, rfl, rfl, rfl⟩ := fetch_admits.mp next
      · exact .both ⟨header, header'⟩
      · exact .noDestination header e
    · obtain ⟨rfl, same⟩ := next
      cases same
      exact .noSource e
  · intro h
    cases h with
    | both latest =>
      exact admits_bind.mpr ⟨.ok (), _, [_], [_], rfl,
        fetch_admits.mpr (.inl ⟨latest.src, rfl, rfl, rfl⟩),
        fetch_admits.mpr (.inl ⟨latest.dst, rfl, rfl, rfl⟩)⟩
    | noSource e =>
      exact admits_bind.mpr ⟨.error e, cache, [_], [], rfl,
        fetch_admits.mpr (.inr ⟨e, rfl, rfl, rfl⟩), rfl, rfl⟩
    | noDestination header e =>
      exact admits_bind.mpr ⟨.ok (), _, [_], [_], rfl,
        fetch_admits.mpr (.inl ⟨header, rfl, rfl, rfl⟩),
        fetch_admits.mpr (.inr ⟨e, rfl, rfl, rfl⟩)⟩

theorem refresh_admits_ok : ((refresh ids).run cache).Admits t (.ok (), after) ↔
    ∃ latest, t = fetches latest ∧ after = cache.refreshed ids latest := by
  rw [refresh_admits]
  constructor
  · intro h
    cases h with
    | both latest => exact ⟨latest, rfl, rfl⟩
  · rintro ⟨latest, rfl, rfl⟩
    exact .both latest

end Syncing

/-! ## Attempts -/

namespace Handshake

variable {cache after : HeaderCache}

/-- What an attempt does once the latest headers are cached. -/
def seekHeaders (ids : Pair ChainId) : Syncing (Attempt SyncFailure (Pair (List Header))) := do
  match ← (← get).headersForBoth ids |>.run with
  | .ok headers => return .success headers
  | .error e => return .again (.setup e)

theorem syncAttempt_first {index : Nat} (first : ¬ 1 < index) (ids : Pair ChainId) :
    syncAttempt ids index = seekHeaders ids := by
  unfold syncAttempt
  rw [if_neg first]
  rfl

theorem syncAttempt_later {index : Nat} (later : 1 < index) (ids : Pair ChainId) :
    syncAttempt ids index = do
      match ← Syncing.refresh ids with
      | .ok () => seekHeaders ids
      | .error e => return .failure (.refresh e) := by
  unfold syncAttempt
  rw [if_pos later]
  refine bind_congr fun refreshed => ?_
  cases refreshed <;> rfl

theorem seekHeaders_admits {r : Attempt SyncFailure (Pair (List Header))} :
    ((seekHeaders ids).run cache).Admits t (r, after) ↔ after = cache ∧
      ((∃ headers, r = .success headers ∧
          (cache.headersForBoth ids).run.Admits t (.ok headers)) ∨
        ∃ e, r = .again (.setup e) ∧ (cache.headersForBoth ids).run.Admits t (.error e)) := by
  unfold seekHeaders
  constructor
  · intro h
    obtain ⟨_, _, _, _, rfl, ⟨rfl, read⟩, h₁⟩ := Syncing.admits_bind.mp h
    cases read
    obtain ⟨found, _, first, rest, rfl, lifted, answered⟩ := Syncing.admits_bind.mp h₁
    obtain ⟨found', rfl⟩ := Syncing.admits_lift.mp lifted
    cases found with
    | ok headers =>
      obtain ⟨rfl, same⟩ := answered
      cases same
      exact ⟨rfl, .inl ⟨headers, rfl, by simpa using found'⟩⟩
    | error e =>
      obtain ⟨rfl, same⟩ := answered
      cases same
      exact ⟨rfl, .inr ⟨e, rfl, by simpa using found'⟩⟩
  · rintro ⟨rfl, ⟨headers, rfl, found⟩ | ⟨e, rfl, found⟩⟩
    · refine Syncing.admits_bind.mpr ⟨after, after, [], t, rfl, ⟨rfl, rfl⟩, ?_⟩
      exact Syncing.admits_bind.mpr ⟨.ok headers, after, t, [], (List.append_nil t).symm,
        Syncing.admits_lift.mpr ⟨found, rfl⟩, rfl, rfl⟩
    · refine Syncing.admits_bind.mpr ⟨after, after, [], t, rfl, ⟨rfl, rfl⟩, ?_⟩
      exact Syncing.admits_bind.mpr ⟨.error e, after, t, [], (List.append_nil t).symm,
        Syncing.admits_lift.mpr ⟨found, rfl⟩, rfl, rfl⟩

theorem synced_admits {r : Except RelayError HeaderCache} :
    (HeaderCache.synced ids).run.Admits t r ↔
      ∃ fetched after, Refreshed ids .empty t fetched after ∧ r = fetched.map fun _ => after := by
  unfold HeaderCache.synced
  constructor
  · intro h
    obtain ⟨⟨fetched, after⟩, _, _, rfl, refreshed, rfl, rfl⟩ := Dialogue.admits_bind.mp h
    rw [List.append_nil]
    exact ⟨fetched, after, Syncing.refresh_admits.mp refreshed, rfl⟩
  · rintro ⟨fetched, after, refreshed, rfl⟩
    exact Dialogue.admits_bind.mpr ⟨(fetched, after), t, [], (List.append_nil t).symm,
      Syncing.refresh_admits.mpr refreshed, rfl, rfl⟩

theorem synced_admits_ok :
    (HeaderCache.synced ids).run.Admits t (.ok cache) ↔
      ∃ latest, t = fetches latest ∧ cache = HeaderCache.empty.refreshed ids latest := by
  rw [synced_admits]
  constructor
  · rintro ⟨fetched, after, refreshed, same⟩
    cases refreshed with
    | both latest =>
      cases same
      exact ⟨latest, rfl, rfl⟩
    | noSource | noDestination => cases same
  · rintro ⟨latest, rfl, rfl⟩
    exact ⟨.ok (), _, .both latest, rfl⟩

theorem synced_admits_error {e : RelayError} :
    (HeaderCache.synced ids).run.Admits t (.error e) ↔
      ∃ after, Refreshed ids .empty t (.error e) after := by
  rw [synced_admits]
  constructor
  · rintro ⟨fetched, after, refused, same⟩
    cases fetched with
    | ok _ => cases same
    | error _ =>
      cases same
      exact ⟨after, refused⟩
  · rintro ⟨after, refused⟩
    exact ⟨.error e, after, refused, rfl⟩

end Handshake

end ChannelRelay
