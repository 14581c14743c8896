import ChannelRelay.Proofs.Handshake.Messages
import ChannelRelay.Proofs.HeaderSync

/-!
# What a step looks at

A step first looks and then acts. Its look is everything up to the decision: the paths,
the header sync, and both ends of the channel twice, at the pinned heights and at the
latest ones.

* `step_eq`: a step is a `look` followed by `act`;
* `Look.Taken`, `look_admits_ok`: the exchanges of a look that succeeds, one by one;
* `asks_look`, `asks_step`: a look only looks, and a step submits nothing;
* `look_admits_error`, `look_error`: how a look fails, and that no failure of it ends the
  handshake for good.
-/

namespace ChannelRelay

namespace Handshake

/-- What a step knows when it decides what to do. -/
structure Look where
  paths : Pair PathEnd
  headers : Pair (List Header)
  /-- Both ends at the pinned heights. -/
  observed : Pair ProvenChannel
  /-- Both ends at the latest heights. -/
  latest : Pair ProvenChannel

namespace Look

def states (l : Look) : Pair ChannelState := l.observed.map ProvenChannel.state

/-- Both ends are still in the states of the first observation. -/
def Confirmed (l : Look) : Prop :=
  l.observed.src.state = l.latest.src.state ∧ l.observed.dst.state = l.latest.dst.state

instance (l : Look) : Decidable l.Confirmed := inferInstanceAs (Decidable (_ ∧ _))

end Look

/-- The part of a step before its decision. -/
def look (parties : Pair Party) (config : HeaderSyncConfig) : Relay HandshakeError Look := do
  let paths ← Relay.ofExcept ((validatePaths parties).mapError .invalidPath)
  let ids := parties.map Party.id
  let (headers, cache) ← syncedHeaders ids config
  let heights ← Relay.ofExcept ((pinnedHeights cache ids).mapError .relay)
  let observed ← Relay.wrapError .query (queryChannels heights)
  let latest ← Relay.wrapError .query queryLatestChannels
  return ⟨paths, headers, observed, latest⟩

/-- The decision of a step, and the messages it leads to. -/
def act (order : ChannelOrder) (l : Look) : Relay HandshakeError Batch :=
  if l.Confirmed then
    match nextStep l.states with
    | none => throw (.unexpectedStates l.observed.src.state l.observed.dst.state)
    | some action => Relay.wrapError .relay (stepBatch action order l.paths l.observed l.headers)
  else
    return .empty

theorem checkFinality_eq (observed : Pair ProvenChannel) :
    checkFinality observed = do
      let latest ← Relay.wrapError .query queryLatestChannels
      return observed.src.state == latest.src.state && observed.dst.state == latest.dst.state :=
  Relay.wrapError_map _ _ _

theorem step_eq (parties : Pair Party) (order : ChannelOrder) (config : HeaderSyncConfig) :
    step parties order config = look parties config >>= act order := by
  have decided (paths : Pair PathEnd) (headers : Pair (List Header))
      (observed latest : Pair ProvenChannel) :
      (if !(observed.src.state == latest.src.state && observed.dst.state == latest.dst.state) then
        return .empty
      else match nextStep (observed.map ProvenChannel.state) with
        | none => throw (.unexpectedStates observed.src.state observed.dst.state)
        | some action => Relay.wrapError .relay (stepBatch action order paths observed headers)) =
      act order ⟨paths, headers, observed, latest⟩ := by
    by_cases src : observed.src.state = latest.src.state <;>
      by_cases dst : observed.dst.state = latest.dst.state <;>
        simp [act, Look.Confirmed, Look.states, src, dst]
  simp only [step, look, checkFinality_eq, bind_assoc, pure_bind]
  exact bind_congr fun paths => bind_congr fun synced => bind_congr fun heights =>
    bind_congr fun observed => bind_congr fun latest => decided paths synced.1 observed latest

/-! ## The exchanges of a look -/

theorem queryChannels_admits_ok {heights : Pair Height} {t : List (Exchange Chains)}
    {ends : Pair ProvenChannel} :
    (queryChannels heights).run.Admits t (.ok ends) ↔
      t = [⟨(.src, .channel heights.src), .ok ends.src⟩,
        ⟨(.dst, .channel heights.dst), .ok ends.dst⟩] := by
  constructor
  · intro h
    obtain ⟨_, same, _⟩ | ⟨src, _, rfl, after⟩ := Relay.admits_call_bind.mp h
    · cases same
    obtain ⟨_, same, _⟩ | ⟨dst, _, rfl, rfl, same⟩ := Relay.admits_call_bind.mp after
    · cases same
    cases same
    rfl
  · rintro rfl
    exact Relay.admits_call_bind.mpr (.inr ⟨ends.src, _, rfl,
      Relay.admits_call_bind.mpr (.inr ⟨ends.dst, _, rfl, rfl, rfl⟩)⟩)

theorem queryLatestChannels_admits_ok {t : List (Exchange Chains)} {ends : Pair ProvenChannel} :
    queryLatestChannels.run.Admits t (.ok ends) ↔
      ∃ heights : Pair Height, t = [
        ⟨(.src, .latestHeight), .ok heights.src⟩, ⟨(.dst, .latestHeight), .ok heights.dst⟩,
        ⟨(.src, .channel heights.src), .ok ends.src⟩,
        ⟨(.dst, .channel heights.dst), .ok ends.dst⟩] := by
  constructor
  · intro h
    obtain ⟨_, same, _⟩ | ⟨src, _, rfl, after⟩ := Relay.admits_call_bind.mp h
    · cases same
    obtain ⟨_, same, _⟩ | ⟨dst, _, rfl, queries⟩ := Relay.admits_call_bind.mp after
    · cases same
    rw [queryChannels_admits_ok] at queries
    exact ⟨⟨src, dst⟩, by rw [queries]⟩
  · rintro ⟨heights, rfl⟩
    exact Relay.admits_call_bind.mpr (.inr ⟨heights.src, _, rfl,
      Relay.admits_call_bind.mpr (.inr ⟨heights.dst, _, rfl, queryChannels_admits_ok.mpr rfl⟩)⟩)

/-- The six calls of the two observations, all of them answered. -/
def Look.observations (l : Look) (pinned announced : Pair Height) : List (Exchange Chains) := [
  ⟨(.src, .channel pinned.src), .ok l.observed.src⟩,
  ⟨(.dst, .channel pinned.dst), .ok l.observed.dst⟩,
  ⟨(.src, .latestHeight), .ok announced.src⟩, ⟨(.dst, .latestHeight), .ok announced.dst⟩,
  ⟨(.src, .channel announced.src), .ok l.latest.src⟩,
  ⟨(.dst, .channel announced.dst), .ok l.latest.dst⟩]

/-- `t` is a look that succeeds and sees `l`: the paths are valid, some syncs fail and a last one
yields the update headers, and both observations are answered, the first one at the heights of
the latest headers of that last sync. -/
def Look.Taken (parties : Pair Party) (config : HeaderSyncConfig) (t : List (Exchange Chains))
    (l : Look) : Prop :=
  validatePaths parties = .ok l.paths ∧
  ∃ failed last sync announced, t = sync ++ l.observations last.heights announced ∧
    SyncedBy (parties.map Party.id) config failed last l.headers sync

theorem mapError_eq_ok {ε δ α : Type} {x : Except ε α} {f : ε → δ} {a : α} :
    x.mapError f = .ok a ↔ x = .ok a := by
  constructor
  · intro h
    cases x with
    | ok b =>
      cases h
      rfl
    | error e => cases h
  · intro h
    cases h
    rfl

theorem mapError_eq_error {ε δ α : Type} {x : Except ε α} {f : ε → δ} {e : δ} :
    x.mapError f = .error e ↔ ∃ cause, x = .error cause ∧ e = f cause := by
  constructor
  · intro h
    cases x with
    | ok b => cases h
    | error cause =>
      cases h
      exact ⟨cause, rfl, rfl⟩
  · rintro ⟨cause, h, rfl⟩
    cases h
    rfl

theorem look_admits_ok {parties : Pair Party} {config : HeaderSyncConfig}
    {t : List (Exchange Chains)} {l : Look} :
    (look parties config).run.Admits t (.ok l) ↔ l.Taken parties config t := by
  simp only [look, Look.Taken]
  constructor
  · intro h
    obtain ⟨_, same, _⟩ | ⟨paths, _, t₁, rfl, valid, h₁⟩ := Relay.admits_bind.mp h
    · cases same
    obtain ⟨rfl, valid⟩ := valid
    have valid : validatePaths parties = .ok paths := mapError_eq_ok.mp valid.symm
    obtain ⟨_, same, _⟩ | ⟨⟨headers, cache⟩, sync, t₂, rfl, synced, h₂⟩ := Relay.admits_bind.mp h₁
    · cases same
    obtain ⟨_, same, _⟩ | ⟨pinned, _, t₃, rfl, heights, h₃⟩ := Relay.admits_bind.mp h₂
    · cases same
    obtain ⟨rfl, heights⟩ := heights
    obtain ⟨failed, last, run, holds⟩ :=
      syncedHeaders_admits_ok (validatePaths_eq_ok.mp valid).2 synced
    obtain rfl : last.heights = pinned := by
      have heights := mapError_eq_ok.mp heights.symm
      rw [holds.pinnedHeights] at heights
      exact Except.ok.inj heights
    obtain ⟨_, same, _⟩ | ⟨observed, _, t₄, rfl, first, h₄⟩ := Relay.admits_bind.mp h₃
    · cases same
    obtain ⟨_, same, _⟩ | ⟨latest, _, _, rfl, second, rfl, same⟩ := Relay.admits_bind.mp h₄
    · cases same
    cases same
    rw [Relay.admits_wrapError_ok, queryChannels_admits_ok] at first
    rw [Relay.admits_wrapError_ok, queryLatestChannels_admits_ok] at second
    obtain ⟨announced, rfl⟩ := second
    exact ⟨valid, failed, last, sync, announced, by simp [first, Look.observations], run⟩
  · rintro ⟨valid, failed, last, sync, announced, rfl, run⟩
    obtain ⟨cache, holds, synced⟩ := run.syncedHeaders (validatePaths_eq_ok.mp valid).2
    refine Relay.admits_bind.mpr (.inr ⟨l.paths, [], _, rfl, ⟨rfl, ?_⟩, ?_⟩)
    · rw [valid]; rfl
    refine (Relay.admits_bind_append synced).mpr ?_
    refine Relay.admits_bind.mpr (.inr ⟨last.heights, [], _, rfl, ⟨rfl, ?_⟩, ?_⟩)
    · rw [holds.pinnedHeights]; rfl
    refine Relay.admits_bind.mpr (.inr ⟨l.observed, _, _, rfl,
      Relay.admits_wrapError_ok.mpr (queryChannels_admits_ok.mpr rfl), ?_⟩)
    exact Relay.admits_bind.mpr (.inr ⟨l.latest, _, [], (List.append_nil _).symm,
      Relay.admits_wrapError_ok.mpr (queryLatestChannels_admits_ok.mpr ⟨announced, rfl⟩), rfl, rfl⟩)

/-! ## What a step asks for -/

theorem asks_refresh (ids : Pair ChainId) : (Syncing.refresh ids).Asks IsLook := by
  have fetch (s : Side) : (Syncing.fetch ids s).Asks IsLook := by
    unfold Syncing.fetch
    refine Syncing.asks_bind (Syncing.asks_lift (Dialogue.asks_request trivial)) fun reply => ?_
    cases reply with
    | ok header => exact Syncing.asks_bind (fun _ => trivial) fun _ => Syncing.asks_pure _
    | error e => exact Syncing.asks_pure _
  refine Syncing.asks_bind (fetch .src) fun result => ?_
  cases result with
  | ok _ => exact fetch .dst
  | error e => exact Syncing.asks_pure _

/-- Nothing is asked for but the height that a client trusts and the headers from there on. -/
theorem asks_headersForBoth {p : Side × ChainCall → Prop}
    (client : ∀ s height, p (s, .clientHeight height))
    (build : ∀ s trusted target, p (s, .headersForUpdate trusted target))
    (cache : HeaderCache) (ids : Pair ChainId) : (cache.headersForBoth ids).run.Asks p := by
  have headers (s : Side) : (cache.headersFor ids s).run.Asks p := by
    unfold HeaderCache.headersFor
    refine Relay.asks_bind trivial fun target => Relay.asks_bind trivial fun context =>
      Relay.asks_bind (Relay.asks_call (client ..)) fun trusted => ?_
    split
    · trivial
    refine Relay.asks_bind (Relay.asks_call (build ..)) fun headers => ?_
    split <;> trivial
  exact Relay.asks_bind (headers .src) fun _ => Relay.asks_bind (headers .dst) fun _ => trivial

theorem asks_syncAttempt (ids : Pair ChainId) (index : Nat) :
    (syncAttempt ids index).Asks IsLook := by
  have build (result : Except RelayError (Pair (List Header)) →
      Syncing (Attempt SyncFailure (Pair (List Header)))) (h : ∀ r, (result r).Asks IsLook) :
      Syncing.Asks IsLook (get >>= fun cache =>
        liftM (HeaderCache.headersForBoth cache ids).run >>= result) :=
    Syncing.asks_bind (fun _ => trivial) fun cache => Syncing.asks_bind (Syncing.asks_lift
      (asks_headersForBoth (fun _ _ => trivial) (fun _ _ _ => trivial) cache ids)) h
  unfold syncAttempt
  split
  · refine Syncing.asks_bind (asks_refresh ids) fun refreshed => ?_
    cases refreshed with
    | ok _ => exact build _ fun r => by cases r <;> exact Syncing.asks_pure _
    | error e => exact Syncing.asks_pure _
  · exact build _ fun r => by cases r <;> exact Syncing.asks_pure _

theorem asks_syncedHeaders (ids : Pair ChainId) (config : HeaderSyncConfig) :
    (syncedHeaders ids config).run.Asks IsLook := by
  have synced : (HeaderCache.synced ids).run.Asks IsLook :=
    Dialogue.asks_bind (asks_refresh ids .empty) fun _ => trivial
  have update : (updateHeaders ids config).Asks IsLook :=
    Syncing.asks_bind (Syncing.asks_retryFrom (asks_syncAttempt ids) _ _ _ _ _)
      fun _ => Syncing.asks_pure _
  exact Relay.asks_bind (Relay.asks_wrapError synced) fun cache =>
    Dialogue.asks_bind (update cache) fun _ => trivial

theorem asks_look (parties : Pair Party) (config : HeaderSyncConfig) :
    (look parties config).run.Asks IsLook := by
  have channels (heights : Pair Height) : (queryChannels heights).run.Asks IsLook :=
    Relay.asks_bind (Relay.asks_call trivial) fun _ =>
      Relay.asks_bind (Relay.asks_call trivial) fun _ => trivial
  have latest : queryLatestChannels.run.Asks IsLook :=
    Relay.asks_bind (Relay.asks_call trivial) fun _ =>
      Relay.asks_bind (Relay.asks_call trivial) fun _ => channels _
  exact Relay.asks_bind trivial fun _ => Relay.asks_bind (asks_syncedHeaders _ config) fun _ =>
    Relay.asks_bind trivial fun heights =>
      Relay.asks_bind (Relay.asks_wrapError (channels heights)) fun _ =>
        Relay.asks_bind (Relay.asks_wrapError latest) fun _ => trivial

theorem asks_act (order : ChannelOrder) (l : Look) : (act order l).run.Asks IsQuery := by
  unfold act
  split
  · split
    · trivial
    · exact Relay.asks_wrapError (Relay.asks_bind (asks_stepMessages ..) fun _ => trivial)
  · trivial

/-- A step submits nothing. -/
theorem asks_step (parties : Pair Party) (order : ChannelOrder) (config : HeaderSyncConfig) :
    (step parties order config).run.Asks IsQuery := by
  rw [step_eq]
  have looks := (asks_look parties config).mono fun _ => IsLook.isQuery
  exact Relay.asks_bind looks fun l => asks_act order l

/-! ## How a step fails -/

theorem syncedHeaders_error {ids : Pair ChainId} {config : HeaderSyncConfig}
    {t : List (Exchange Chains)} {e : HandshakeError}
    (h : (syncedHeaders ids config).run.Admits t (.error e)) :
    e.isFatal = false ∧ ∀ ends failures, e ≠ .failed ends failures := by
  obtain ⟨_, _, same, _⟩ | ⟨_, _, result, _, _, updated, same⟩ := syncedHeaders_admits.mp h
  · cases same
    exact ⟨rfl, nofun⟩
  obtain ⟨_, _, _, _, r, _, _, final, rfl⟩ := updateHeaders_admits.mp updated
  cases final with
  | succeeds => cases same
  | givesUp | refreshFails =>
    cases same
    exact ⟨rfl, nofun⟩

/-- A look fails with the paths, with the header sync, or with a query of one of the two
observations. There is always a height to query an end at. -/
theorem look_admits_error {parties : Pair Party} {config : HeaderSyncConfig}
    {t : List (Exchange Chains)} {e : HandshakeError}
    (h : (look parties config).run.Admits t (.error e)) :
    (∃ cause, validatePaths parties = .error cause ∧ e = .invalidPath cause) ∨
    (syncedHeaders (parties.map Party.id) config).run.Admits t (.error e) ∨
    ∃ earlier rest cause, t = earlier ++ rest ∧ e = .query cause ∧
      ((∃ heights, (queryChannels heights).run.Admits rest (.error cause)) ∨
        queryLatestChannels.run.Admits rest (.error cause)) := by
  obtain ⟨_, same, _, failed⟩ | ⟨paths, _, t₁, rfl, ⟨rfl, found⟩, h₁⟩ := Relay.admits_bind.mp h
  · cases same
    obtain ⟨cause, invalid, rfl⟩ := mapError_eq_error.mp failed.symm
    exact .inl ⟨cause, invalid, rfl⟩
  have valid : validatePaths parties = .ok paths := mapError_eq_ok.mp found.symm
  obtain ⟨_, same, failed⟩ | ⟨⟨_, cache⟩, sync, t₂, rfl, synced, h₂⟩ := Relay.admits_bind.mp h₁
  · cases same
    exact .inr (.inl failed)
  refine .inr (.inr ?_)
  obtain ⟨_, _, _, failed⟩ | ⟨pinned, _, t₃, rfl, ⟨rfl, _⟩, h₃⟩ := Relay.admits_bind.mp h₂
  · obtain ⟨_, last, _, holds⟩ := syncedHeaders_admits_ok (validatePaths_eq_ok.mp valid).2 synced
    rw [holds.pinnedHeights] at failed
    cases failed
  obtain ⟨_, same, failed⟩ | ⟨_, first, t₄, rfl, _, h₄⟩ := Relay.admits_bind.mp h₃
  · cases same
    obtain ⟨cause, rfl, refused⟩ := Relay.admits_wrapError_error.mp failed
    exact ⟨sync, t₃, cause, rfl, rfl, .inl ⟨pinned, refused⟩⟩
  obtain ⟨_, same, failed⟩ | ⟨_, _, _, _, _, _, same⟩ := Relay.admits_bind.mp h₄
  · cases same
    obtain ⟨cause, rfl, refused⟩ := Relay.admits_wrapError_error.mp failed
    exact ⟨sync ++ first, t₄, cause, by simp, rfl, .inr refused⟩
  · cases same

/-- No failure of a look ends the handshake for good. -/
theorem look_error {parties : Pair Party} {config : HeaderSyncConfig}
    {t : List (Exchange Chains)} {e : HandshakeError}
    (h : (look parties config).run.Admits t (.error e)) :
    e.isFatal = false ∧ ∀ ends failures, e ≠ .failed ends failures := by
  obtain ⟨_, _, rfl⟩ | failed | ⟨_, _, _, _, rfl, _⟩ := look_admits_error h
  · exact ⟨rfl, nofun⟩
  · exact syncedHeaders_error failed
  · exact ⟨rfl, nofun⟩

end Handshake

end ChannelRelay
