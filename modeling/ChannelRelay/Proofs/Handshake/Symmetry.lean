import ChannelRelay.Proofs.HeaderSync
import ChannelRelay.Proofs.Handshake.Decision
import ChannelRelay.Proofs.Steady

/-!
# The roles of the two chains

It makes no difference which of two chains is called the source, as long as their replies do
not depend on when they are asked. With the roles exchanged each part of a step comes to the
same, or fails either way.

* `HandshakeError.Mirrors`: the same kind of failure, seen from the other side;
* `syncedHeaders_alike`, `look_alike`, `act_alike`: the parts of a step;
* `nextStep_swap`: the table is symmetric but for its first row;
* `step_symmetric`: so is a step, unless it finds both ends uninitialized.
-/

namespace ChannelRelay

/-- The same kind of failure with the roles of the chains exchanged. The cause may be another
one, since the chains are asked in another order. -/
inductive HandshakeError.Mirrors : HandshakeError → HandshakeError → Prop
  | relay (cause cause' : RelayError) : Mirrors (.relay cause) (.relay cause')
  | invalidPath (cause cause' : RelayError) : Mirrors (.invalidPath cause) (.invalidPath cause')
  | maxRetry (description : String) (tries : Nat) (totalDelay : Duration)
      (cause cause' : RelayError) :
      Mirrors (.maxRetry description tries totalDelay cause)
        (.maxRetry description tries totalDelay cause')
  | headerRefresh (cause cause' : RelayError) :
      Mirrors (.headerRefresh cause) (.headerRefresh cause')
  | query (cause cause' : RelayError) : Mirrors (.query cause) (.query cause')
  | unexpectedStates (src dst : ChannelState) :
      Mirrors (.unexpectedStates src dst) (.unexpectedStates dst src)

/-- The step with the roles of the chains exchanged. -/
def StepAction.swap (action : StepAction) : StepAction :=
  { action with side := action.side.other }

/-- The batch with the roles of the chains exchanged. -/
def Batch.swap (b : Batch) : Batch :=
  { b with messages := b.messages.swap, outcomes := b.outcomes.swap }

theorem validatePaths_swap {parties : Pair Party} {paths : Pair PathEnd} :
    validatePaths parties = .ok paths ↔ validatePaths parties.swap = .ok paths.swap := by
  rw [validatePaths_eq_ok, validatePaths_eq_ok]
  simp only [Pair.get_swap]
  refine and_congr ?_ ne_comm
  exact (Side.forall_other (p := fun s => (parties.get s).path = some (paths.get s) ∧
    (paths.get s).chainId = (parties.get s).id)).symm

variable {ids : Pair ChainId} {latest : Pair Header} {chains : Pair SteadyChain}

/-! ## The header sync -/

theorem missingHeaders_swap (ids : Pair ChainId) (latest : Pair Header) (s : Side) :
    Relay.answer chains.swap (missingHeaders ids.swap latest.swap s.other) =
      Relay.answer chains (missingHeaders ids latest s) := by
  unfold missingHeaders
  rw [Pair.get_swap_other, Pair.get_swap_other, Pair.get_swap_other]
  refine Relay.answer_bind_congr (Relay.answer_call_swap s.other _) fun trusted => ?_
  split
  · rfl
  refine Relay.answer_bind_congr (Relay.answer_call_swap s _) fun headers => ?_
  split <;> rfl

theorem missingHeaders_swapped (ids : Pair ChainId) (latest : Pair Header) :
    Swapped (Relay.answer chains (Relay.both (missingHeaders ids latest)))
      (Relay.answer chains.swap (Relay.both (missingHeaders ids.swap latest.swap))) :=
  Relay.both_swapped (missingHeaders_swap ids latest)

theorem HeaderCache.Holds.headersForBoth {cache : HeaderCache} (h : cache.Holds ids latest) :
    cache.headersForBoth ids = Relay.both (missingHeaders ids latest) := by
  rw [HeaderCache.headersForBoth, h.headersFor .src, h.headersFor .dst]
  rfl

/-- These are the headers that the chains call their latest. -/
def Announced (chains : Pair SteadyChain) (latest : Pair Header) : Prop :=
  ∀ s, chains.get s .latestHeader = .ok (latest.get s)

namespace Announced

theorem swap (h : Announced chains latest) : Announced chains.swap latest.swap := by
  intro s
  rw [Pair.get_swap, Pair.get_swap]
  exact h s.other

theorem iff_fetches : Announced chains latest ↔
    ∀ e ∈ fetches latest, SteadyChain.replies chains e.request = e.reply := by
  constructor
  · intro h e mem
    simp only [fetches, List.mem_cons, List.not_mem_nil, or_false] at mem
    rcases mem with rfl | rfl
    · exact h .src
    · exact h .dst
  · intro h s
    cases s with
    | src => exact h _ List.mem_cons_self
    | dst => exact h _ (List.mem_cons_of_mem _ List.mem_cons_self)

end Announced

namespace Handshake

theorem answer_synced {cache : HeaderCache} :
    Relay.answer chains (HeaderCache.synced ids) = .ok cache ↔
      ∃ latest, Announced chains latest ∧ cache = HeaderCache.empty.refreshed ids latest := by
  unfold Relay.answer
  rw [Dialogue.answer_eq_iff]
  constructor
  · rintro ⟨t, h, steady⟩
    obtain ⟨latest, rfl, same⟩ := synced_admits_ok.mp h
    exact ⟨latest, Announced.iff_fetches.mpr steady, same⟩
  · rintro ⟨latest, announced, same⟩
    exact ⟨fetches latest, synced_admits_ok.mpr ⟨latest, rfl, same⟩,
      Announced.iff_fetches.mp announced⟩

/-- A refresh finds what it has found before. -/
theorem repeats_refresh (distinct : ids.src ≠ ids.dst) (announced : Announced chains latest) :
    (Syncing.refresh ids).Repeats chains (·.Holds ids latest) (.ok ()) := by
  intro cache _
  refine ⟨cache.refreshed ids latest, HeaderCache.holds_refreshed distinct cache latest, ?_⟩
  exact Dialogue.answer_eq_iff.mpr ⟨fetches latest,
    Syncing.refresh_admits_ok.mpr ⟨latest, rfl, rfl⟩, Announced.iff_fetches.mp announced⟩

/-- What an attempt makes of the headers that were sought. -/
def attemptOf : Except RelayError (Pair (List Header)) → Attempt SyncFailure (Pair (List Header))
  | .ok headers => .success headers
  | .error e => .again (.setup e)

theorem repeats_seekHeaders :
    (seekHeaders ids).Repeats chains (·.Holds ids latest)
      (attemptOf (Relay.answer chains (Relay.both (missingHeaders ids latest)))) := by
  intro cache holds
  refine ⟨cache, holds, ?_⟩
  rw [← holds.headersForBoth]
  obtain ⟨t, h, steady⟩ := Dialogue.answer_eq_iff.mp
    (rfl : Relay.answer chains (cache.headersForBoth ids) = _)
  refine Dialogue.answer_eq_iff.mpr ⟨t, seekHeaders_admits.mpr ⟨rfl, ?_⟩, steady⟩
  cases found : Relay.answer chains (cache.headersForBoth ids) with
  | ok headers =>
    rw [found] at h
    exact .inl ⟨headers, rfl, h⟩
  | error e =>
    rw [found] at h
    exact .inr ⟨e, rfl, h⟩

/-- Between steady chains no attempt does better than another. -/
theorem repeats_syncAttempt (distinct : ids.src ≠ ids.dst) (announced : Announced chains latest)
    (index : Nat) :
    (syncAttempt ids index).Repeats chains (·.Holds ids latest)
      (attemptOf (Relay.answer chains (Relay.both (missingHeaders ids latest)))) := by
  by_cases later : 1 < index
  · rw [syncAttempt_later later]
    exact Syncing.repeats_bind (repeats_refresh distinct announced) repeats_seekHeaders
  · rw [syncAttempt_first later]
    exact repeats_seekHeaders

/-- The failure of a header sync whose attempts have all failed with this error. -/
def exhausted (config : HeaderSyncConfig) (e : RelayError) : HandshakeError :=
  syncError ⟨.setup e, 1 + (syncBackoff config).retries,
    (syncBackoff config).delays.foldl Duration.saturatingAdd .zero⟩

theorem repeats_updateHeaders (distinct : ids.src ≠ ids.dst) (announced : Announced chains latest)
    (config : HeaderSyncConfig) :
    (updateHeaders ids config).Repeats chains (·.Holds ids latest)
      ((Relay.answer chains (Relay.both (missingHeaders ids latest))).mapError
        (exhausted config)) := by
  have attempts := repeats_syncAttempt distinct announced
  unfold updateHeaders retry
  cases found : Relay.answer chains (Relay.both (missingHeaders ids latest)) with
  | ok headers =>
    rw [found] at attempts
    exact Syncing.repeats_bind (Syncing.repeats_retryFrom_success (attempts 1) _ _ _ _)
      (Syncing.repeats_pure _)
  | error e =>
    rw [found] at attempts
    have retried := Syncing.repeats_retryFrom_again attempts (syncBackoff config).ceiling
      (syncBackoff config).growth (syncBackoff config).retries 1 .zero
    refine Syncing.repeats_bind retried ?_
    have all : (syncBackoff config).delays = ((syncBackoff config).growth.take
        (syncBackoff config).retries).map (min · (syncBackoff config).ceiling) := by
      rw [Backoff.delays, Backoff.take, Nat.min_self]
    rw [← all]
    exact Syncing.repeats_pure _

/-- Once the latest headers are had, a header sync comes to the missing headers, if it can get
them at the first attempt. -/
theorem answer_syncedHeaders (distinct : ids.src ≠ ids.dst) (announced : Announced chains latest)
    (config : HeaderSyncConfig) :
    ∃ cache : HeaderCache, cache.Holds ids latest ∧
      Relay.answer chains (syncedHeaders ids config) =
        ((Relay.answer chains (Relay.both (missingHeaders ids latest))).mapError
          (exhausted config)).map (·, cache) := by
  have start : Relay.answer chains (HeaderCache.synced ids) =
      .ok (HeaderCache.empty.refreshed ids latest) :=
    answer_synced.mpr ⟨latest, announced, rfl⟩
  obtain ⟨cache, holds, updated⟩ := repeats_updateHeaders distinct announced config
    (HeaderCache.empty.refreshed ids latest)
    (HeaderCache.holds_refreshed distinct .empty latest)
  refine ⟨cache, holds, ?_⟩
  unfold syncedHeaders
  rw [Relay.answer_bind, Relay.answer_wrapError, start]
  refine (Dialogue.answer_bind _ _).trans ?_
  rw [updated]
  rfl

theorem syncedHeaders_alike (distinct : ids.src ≠ ids.dst) (config : HeaderSyncConfig) :
    Alike HandshakeError.Mirrors
      (fun r r' => r'.1 = r.1.swap ∧
        ∃ latest, r.2.Holds ids latest ∧ r'.2.Holds ids.swap latest.swap)
      (Relay.answer chains (syncedHeaders ids config))
      (Relay.answer chains.swap (syncedHeaders ids.swap config)) := by
  by_cases announced : ∃ latest, Announced chains latest
  · obtain ⟨latest, announced⟩ := announced
    obtain ⟨cache, holds, here⟩ := answer_syncedHeaders distinct announced config
    have distinct' : ids.swap.src ≠ ids.swap.dst := distinct.symm
    obtain ⟨cache', holds', there⟩ := answer_syncedHeaders distinct' announced.swap config
    rw [here, there]
    refine ((missingHeaders_swapped ids latest).mapError fun e e' _ => ?_).map
      fun headers headers' same => ?_
    · exact HandshakeError.Mirrors.maxRetry ..
    · exact ⟨same, latest, holds, holds'⟩
  · -- There is no latest header on one of the sides, whichever it is.
    have failed : ∀ cache, Relay.answer chains (HeaderCache.synced ids) ≠ .ok cache := by
      intro cache found
      obtain ⟨latest, here, _⟩ := answer_synced.mp found
      exact announced ⟨latest, here⟩
    have failed' : ∀ cache, Relay.answer chains.swap (HeaderCache.synced ids.swap) ≠ .ok cache := by
      intro cache found
      obtain ⟨latest, there, _⟩ := answer_synced.mp found
      exact announced ⟨latest.swap, there.swap⟩
    unfold syncedHeaders
    rw [Relay.answer_bind, Relay.answer_bind, Relay.answer_wrapError, Relay.answer_wrapError]
    cases first : Relay.answer chains (HeaderCache.synced ids) with
    | ok cache => exact absurd first (failed cache)
    | error e =>
      cases second : Relay.answer chains.swap (HeaderCache.synced ids.swap) with
      | ok cache => exact absurd second (failed' cache)
      | error e' => exact HandshakeError.Mirrors.headerRefresh e e'

/-! ## The look -/

/-- The same look from the other side. -/
def Look.swap (l : Look) : Look where
  paths := l.paths.swap
  headers := l.headers.swap
  observed := l.observed.swap
  latest := l.latest.swap

theorem queryChannels_swapped (heights : Pair Height) :
    Swapped (Relay.answer chains (queryChannels heights))
      (Relay.answer chains.swap (queryChannels heights.swap)) :=
  Relay.both_swapped (f := fun s => call s (.channel (heights.get s)))
    (g := fun s => call s (.channel (heights.swap.get s))) fun s => by cases s <;> rfl

/-- The latest heights of both chains. -/
def bothHeights : Relay RelayError (Pair Height) := Relay.both fun s => call s .latestHeight

theorem queryLatestChannels_eq :
    queryLatestChannels = bothHeights >>= queryChannels := by
  refine ((bind_assoc _ _ _).trans ?_).symm
  refine bind_congr fun src => ?_
  exact (bind_assoc _ _ _).trans (bind_congr fun dst => pure_bind _ _)

theorem queryLatestChannels_swapped :
    Swapped (Relay.answer chains queryLatestChannels)
      (Relay.answer chains.swap queryLatestChannels) := by
  have heights : Swapped (Relay.answer chains bothHeights)
      (Relay.answer chains.swap bothHeights) :=
    Relay.both_swapped fun s => Relay.answer_call_swap s _
  rw [queryLatestChannels_eq, Relay.answer_bind, Relay.answer_bind]
  refine Alike.bind heights ?_
  rintro heights _ _ rfl
  exact queryChannels_swapped heights

theorem look_alike (parties : Pair Party) (config : HeaderSyncConfig) :
    Alike HandshakeError.Mirrors (fun l l' => l' = l.swap)
      (Relay.answer chains (look parties config))
      (Relay.answer chains.swap (look parties.swap config)) := by
  unfold look
  simp only [Relay.answer_bind, Relay.answer_ofExcept, Relay.answer_wrapError]
  have valid : Swapped (validatePaths parties) (validatePaths parties.swap) :=
    swapped_of_ok_iff fun _ => validatePaths_swap
  refine Alike.bind (valid.mapError fun e e' _ => .invalidPath e e') ?_
  rintro paths _ found rfl
  have distinct : (parties.map Party.id).src ≠ (parties.map Party.id).dst :=
    (validatePaths_eq_ok.mp (mapError_eq_ok.mp found)).2
  refine Alike.bind (syncedHeaders_alike distinct config) ?_
  rintro ⟨headers, cache⟩ ⟨_, cache'⟩ _ ⟨rfl, latest, holds, holds'⟩
  have pinned : Alike HandshakeError.Mirrors (fun heights heights' => heights' = heights.swap)
      ((pinnedHeights cache (parties.map Party.id)).mapError .relay)
      ((pinnedHeights cache' (parties.map Party.id).swap).mapError .relay) := by
    rw [holds.pinnedHeights, holds'.pinnedHeights]
    exact rfl
  refine Alike.bind pinned ?_
  rintro heights _ _ rfl
  have query (e e' : RelayError) (_ : True) := HandshakeError.Mirrors.query e e'
  refine Alike.bind ((queryChannels_swapped heights).mapError query) ?_
  rintro observed _ _ rfl
  refine Alike.bind (queryLatestChannels_swapped.mapError query) ?_
  rintro latest _ _ rfl
  exact rfl

/-! ## The decision -/

theorem nextStep_swap {states : Pair ChannelState}
    (started : states ≠ ⟨.uninitialized, .uninitialized⟩) :
    nextStep states.swap = (nextStep states).map StepAction.swap := by
  obtain ⟨src, dst⟩ := states
  cases src <;> cases dst <;> first | rfl | exact absurd rfl started

theorem clientUpdates_swap (action : StepAction) (headers : List Header) (signer : Signer) :
    Relay.answer chains.swap (clientUpdates action.swap headers signer) =
      Relay.answer chains (clientUpdates action headers signer) := by
  by_cases needed : NeedsUpdate action headers
  · have here := clientUpdates_of_needed needed signer
    have there := @clientUpdates_of_needed action.swap headers needed signer
    exact (congrArg _ there).trans ((Relay.answer_call_swap ..).trans (congrArg _ here.symm))
  · have here := clientUpdates_of_not_needed needed signer
    have there := @clientUpdates_of_not_needed action.swap headers needed signer
    rw [here, there]
    rfl

theorem handshakeMessage_swap (action : StepAction) (order : ChannelOrder)
    (counterparty : PathEnd) (seen : ProvenChannel) (signer : Signer) :
    Relay.answer chains.swap (handshakeMessage action.swap order counterparty seen signer) =
      Relay.answer chains (handshakeMessage action order counterparty seen signer) := by
  obtain ⟨side, message, updateClient, last⟩ := action
  cases message <;> exact Relay.answer_call_swap side _

theorem stepMessages_swap (action : StepAction) (order : ChannelOrder) (counterparty : PathEnd)
    (seen : ProvenChannel) (headers : List Header) :
    Relay.answer chains.swap (stepMessages action.swap order counterparty seen headers) =
      Relay.answer chains (stepMessages action order counterparty seen headers) := by
  rw [stepMessages_eq, stepMessages_eq]
  refine Relay.answer_bind_congr (Relay.answer_call_swap ..) fun signer => ?_
  refine Relay.answer_bind_congr (clientUpdates_swap ..) fun updates => ?_
  exact Relay.answer_bind_congr (handshakeMessage_swap ..) fun message => rfl

theorem stepBatch_swap (action : StepAction) (order : ChannelOrder) (l : Look) :
    Relay.answer chains.swap
        (stepBatch action.swap order l.swap.paths l.swap.observed l.swap.headers) =
      (Relay.answer chains (stepBatch action order l.paths l.observed l.headers)).map
        Batch.swap := by
  have get {α : Type} (p : Pair α) : p.swap.get action.swap.side.other =
      p.get action.side.other := p.get_swap_other action.side.other
  unfold stepBatch
  dsimp only [Look.swap]
  rw [get, get, get, Relay.answer_bind, Relay.answer_bind, stepMessages_swap]
  cases Relay.answer chains (stepMessages action order (l.paths.get action.side.other)
      (l.observed.get action.side.other) (l.headers.get action.side.other)) with
  | error e => rfl
  | ok messages =>
    obtain ⟨side, message, updateClient, last⟩ := action
    cases side <;> rfl

theorem act_alike {l : Look} (order : ChannelOrder)
    (started : l.states ≠ ⟨.uninitialized, .uninitialized⟩) :
    Alike HandshakeError.Mirrors (fun batch batch' => batch' = batch.swap)
      (Relay.answer chains (act order l)) (Relay.answer chains.swap (act order l.swap)) := by
  unfold act
  by_cases confirmed : l.Confirmed
  · have confirmed' : l.swap.Confirmed := confirmed.symm
    rw [if_pos confirmed, if_pos confirmed']
    have next : nextStep l.swap.states = (nextStep l.states).map StepAction.swap :=
      nextStep_swap started
    rw [next]
    cases nextStep l.states with
    | none => exact HandshakeError.Mirrors.unexpectedStates ..
    | some action =>
      simp only [Option.map_some, Relay.answer_wrapError, stepBatch_swap]
      cases Relay.answer chains (stepBatch action order l.paths l.observed l.headers) with
      | ok batch => exact rfl
      | error e => exact HandshakeError.Mirrors.relay e e
  · have confirmed' : ¬ l.swap.Confirmed := fun h => confirmed h.symm
    rw [if_neg confirmed, if_neg confirmed']
    exact rfl

/-! ## The step -/

theorem step_alike (parties : Pair Party) (order : ChannelOrder) (config : HeaderSyncConfig)
    (started : ∀ l, Relay.answer chains (look parties config) = .ok l →
      l.states ≠ ⟨.uninitialized, .uninitialized⟩) :
    Alike HandshakeError.Mirrors (fun batch batch' => batch' = batch.swap)
      (Relay.answer chains (step parties order config))
      (Relay.answer chains.swap (step parties.swap order config)) := by
  rw [step_eq, step_eq, Relay.answer_bind, Relay.answer_bind]
  refine Alike.bind (look_alike parties config) ?_
  rintro l _ seen rfl
  exact act_alike order (started l seen)

variable {σ : Type} {partner : Dialogue.Partner Chains σ}

/-- **Symmetry.** Two steady chains get the same step whichever of them is called the source,
unless both ends are found uninitialized: the batches have the same messages for each chain,
and where one call fails the other one fails alike. -/
theorem step_symmetric (steady : partner.Steady) (parties : Pair Party) (order : ChannelOrder)
    (config : HeaderSyncConfig) (w w' : σ)
    (started : ∀ l, ((look parties config).run.run partner w).1 = .ok l →
      l.states ≠ ⟨.uninitialized, .uninitialized⟩) :
    let here := ((step parties order config).run.run partner w).1
    let there := ((step parties.swap order config).run.run (exchanged partner) w').1
    (∀ batch, here = .ok batch ↔ there = .ok batch.swap) ∧
    (∀ e, here = .error e → ∃ e', there = .error e' ∧ e.Mirrors e') ∧
    (∀ e', there = .error e' → ∃ e, here = .error e ∧ e.Mirrors e') := by
  intro here there
  let chains := SteadyChain.ofPartner partner w
  have started' : ∀ l, Relay.answer chains (look parties config) = .ok l →
      l.states ≠ ⟨.uninitialized, .uninitialized⟩ := by
    intro l seen
    rw [← Relay.run_of_steady steady w w] at seen
    exact started l seen
  have alike : Alike HandshakeError.Mirrors (fun batch batch' => batch' = batch.swap) here
      there := by
    have steps := step_alike parties order config started'
    rw [← Relay.run_of_steady steady w w, ← Relay.run_exchanged_of_steady steady w w'] at steps
    exact steps
  refine alike.correspond fun batch batch' same => ?_
  have back : batch.swap.swap = batch'.swap.swap := congrArg Batch.swap same
  exact back

/-- Between chains that only count the calls, the destination is to try, and its client is
updated first. With the roles exchanged it gets the same as source. -/
theorem step_symmetric_before_try :
    let start := scripted ⟨.init, .uninitialized⟩
    let world := { start with chains.dst.clientHeight := ⟨0, 8⟩ }
    let partner : Dialogue.Partner Chains Nat :=
      fun q calls => ((world.call q.1 q.2).1, calls + 1)
    let parties := world.parties false
    ∃ batch, ((step parties .ordered {}).run.run partner 0).1 = .ok batch ∧
      ((step parties.swap .ordered {}).run.run (exchanged partner) 7).1 = .ok batch.swap ∧
      batch.messages.map List.length = ⟨0, 2⟩ := by
  intro start world partner parties
  have steady : partner.Steady := fun q calls calls' => rfl
  have looked : ((look parties {}).run.run partner 0).1.toOption.map Look.states =
      some ⟨.init, .uninitialized⟩ := by decide +kernel
  have started : ∀ l, ((look parties {}).run.run partner 0).1 = .ok l →
      l.states ≠ ⟨.uninitialized, .uninitialized⟩ := by
    intro l seen
    rw [seen] at looked
    rw [Option.some.inj looked]
    decide
  have lengths : ((step parties .ordered {}).run.run partner 0).1.toOption.map
      (fun batch => batch.messages.map List.length) = some ⟨0, 2⟩ := by decide +kernel
  obtain ⟨same, _⟩ := step_symmetric steady parties .ordered {} 0 7 started
  cases found : ((step parties .ordered {}).run.run partner 0).1 with
  | ok batch =>
    rw [found] at lengths
    exact ⟨batch, rfl, (same batch).mp found, Option.some.inj lengths⟩
  | error e =>
    rw [found] at lengths
    cases lengths

end Handshake

end ChannelRelay
