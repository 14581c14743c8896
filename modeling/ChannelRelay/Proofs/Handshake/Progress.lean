import ChannelRelay.Proofs.Handshake.Effect

/-!
# Progress of a step

Between chains that answer every query, and truly, a step cannot but come to a batch.

* `syncedHeaders_succeeds`: the header sync succeeds at its first attempt;
* `look_succeeds`: so does the look, and it is confirmed;
* `effort_sends`: on the way through the handshake every round sends a batch.
-/

namespace ChannelRelay.Handshake

variable {kind : Kind} {w : Actual} {t : List (Exchange Chains)} {states : Pair ChannelState}

theorem Along.answers (cooperative : Along kind (Cooperative kind) w t)
    (queries : ∀ e ∈ t, IsQuery e.request) : ∀ e ∈ t, Answers w.states e := by
  intro e mem
  obtain ⟨before, after, rfl⟩ := List.append_of_mem mem
  have here := cooperative.at.2
  rwa [states_of_queries fun e mem => queries e (List.mem_append_left _ mem)] at here

/-! ## The header sync -/

/-- There is a header of each chain. -/
def Full (ids : Pair ChainId) (cache : HeaderCache) : Prop :=
  ∀ s, ∃ header, cache.get? (ids.get s) = some header

theorem Answers.ok {s : Side} {c : ChainCall} {r : Except RelayError c.Result}
    (h : Answers states ⟨(s, c), r⟩) (query : IsQuery (s, c)) : ∃ a, r = .ok a := by
  cases r with
  | ok a => exact ⟨a, rfl⟩
  | error e =>
    cases c with
    | submit tx => exact absurd rfl (query tx)
    | _ => cases h

theorem call_succeeds {s : Side} {c : ChainCall} (query : IsQuery (s, c)) :
    (call s c).Succeeds (Answers states) fun _ => True :=
  Relay.succeeds_call fun r h => by
    obtain ⟨a, rfl⟩ := h.ok query
    exact ⟨a, rfl, trivial⟩

theorem fetch_ensures (ids : Pair ChainId) (s : Side) (P : HeaderCache → Prop) :
    Syncing.Ensures (Answers states) P (Syncing.fetch ids s) fun r cache =>
      r = .ok () ∧ ∃ before header, P before ∧ cache = before.insert (ids.get s) header := by
  have asked : (Dialogue.request (I := Chains) (s, .latestHeader)).Ensures (Answers states)
      fun r => ∃ a, r = .ok a :=
    Dialogue.ensures_request fun r h => h.ok nofun
  unfold Syncing.fetch
  refine Syncing.ensures_bind (Syncing.ensures_lift asked) fun reply => ?_
  rintro cache ⟨⟨header, rfl⟩, before⟩
  exact Dialogue.ensures_done ⟨rfl, cache, header, before, rfl⟩

theorem refresh_ensures (ids : Pair ChainId) (P : HeaderCache → Prop) :
    Syncing.Ensures (Answers states) P (Syncing.refresh ids) fun r cache =>
      r = .ok () ∧ Full ids cache := by
  refine Syncing.ensures_bind (fetch_ensures ids .src P) fun reply => ?_
  rintro cache ⟨rfl, start, src, _, rfl⟩
  refine Dialogue.Ensures.mono (fetch_ensures ids .dst (· = _) _ rfl) ?_
  rintro ⟨reply, cache⟩ ⟨rfl, _, dst, rfl, rfl⟩
  refine ⟨rfl, fun s => ?_⟩
  cases s with
  | src =>
    rw [HeaderCache.get?_insert, HeaderCache.get?_insert]
    split
    · exact ⟨dst, rfl⟩
    · exact ⟨src, if_pos rfl⟩
  | dst => exact ⟨dst, by rw [HeaderCache.get?_insert]; exact if_pos rfl⟩

theorem Full.latestHeader {ids : Pair ChainId} {cache : HeaderCache} (full : Full ids cache)
    (s : Side) : ∃ header, cache.latestHeader (ids.get s) = .ok header := by
  obtain ⟨header, found⟩ := full s
  exact ⟨header, by rw [HeaderCache.latestHeader, found]⟩

theorem Full.queryContext {ids : Pair ChainId} {cache : HeaderCache} (full : Full ids cache)
    (s : Side) : ∃ context, cache.queryContext (ids.get s) = .ok context := by
  obtain ⟨header, found⟩ := full.latestHeader s
  exact ⟨_, by rw [HeaderCache.queryContext, found]; rfl⟩

theorem firstDescent?_of_increasing {headers : List Header} (h : Increasing headers) :
    HeaderCache.firstDescent? headers = none := by
  induction headers with
  | nil => rfl
  | cons a rest ih =>
    cases rest with
    | nil => rfl
    | cons b rest =>
      obtain ⟨first, later⟩ := List.pairwise_cons.mp h
      have above : ¬ b.height ≤ a.height := fun below => below (first b List.mem_cons_self)
      rw [HeaderCache.firstDescent?, if_neg above]
      exact ih later

theorem headersFor_succeeds {ids : Pair ChainId} {cache : HeaderCache} (full : Full ids cache)
    (s : Side) : (cache.headersFor ids s).Succeeds (Answers states) fun _ => True := by
  obtain ⟨target, foundTarget⟩ := full.latestHeader s
  obtain ⟨context, foundContext⟩ := full.queryContext s.other
  have update (trusted : Height) :
      (call s (.headersForUpdate trusted target)).Succeeds (Answers states) Increasing :=
    Relay.succeeds_call fun r h => by
      obtain ⟨headers, rfl⟩ := h.ok nofun
      exact ⟨headers, rfl, h⟩
  unfold HeaderCache.headersFor
  refine Relay.succeeds_bind (Relay.succeeds_ofExcept foundTarget rfl) ?_
  rintro _ rfl
  refine Relay.succeeds_bind (Relay.succeeds_ofExcept foundContext rfl) ?_
  rintro _ rfl
  refine Relay.succeeds_bind (call_succeeds nofun) fun trusted _ => ?_
  split
  · exact Relay.succeeds_pure trivial
  refine Relay.succeeds_bind (update trusted) fun headers increasing => ?_
  rw [firstDescent?_of_increasing increasing]
  exact Relay.succeeds_pure trivial

theorem headersForBoth_succeeds {ids : Pair ChainId} {cache : HeaderCache}
    (full : Full ids cache) :
    (cache.headersForBoth ids).Succeeds (Answers states) fun _ => True :=
  Relay.succeeds_bind (headersFor_succeeds full .src) fun _ _ =>
    Relay.succeeds_bind (headersFor_succeeds full .dst) fun _ _ => Relay.succeeds_pure trivial

theorem syncAttempt_ensures (ids : Pair ChainId) :
    Syncing.Ensures (Answers states) (Full ids) (syncAttempt ids 1) fun r cache =>
      (∃ headers, r = .success headers) ∧ Full ids cache := by
  unfold syncAttempt
  rw [if_neg (Nat.lt_irrefl 1)]
  have read : Syncing.Ensures (Answers states) (Full ids) (get : Syncing HeaderCache)
      fun seen cache => seen = cache ∧ Full ids cache :=
    fun cache full => Dialogue.ensures_done ⟨rfl, full⟩
  refine Syncing.ensures_bind read fun seen => ?_
  rintro cache ⟨rfl, full⟩
  have found := Syncing.ensures_lift (R := Answers states) (P := Full ids)
    (headersForBoth_succeeds full)
  refine Dialogue.ensures_bind (found seen full) ?_
  rintro ⟨_, cache⟩ ⟨⟨headers, rfl, _⟩, full⟩
  exact Dialogue.ensures_done ⟨⟨headers, rfl⟩, full⟩

/-- There is nothing to retry: the first attempt finds all headers it needs. -/
theorem updateHeaders_ensures (ids : Pair ChainId) (config : HeaderSyncConfig) :
    Syncing.Ensures (Answers states) (Full ids) (updateHeaders ids config) fun r cache =>
      (∃ headers, r = .ok headers) ∧ Full ids cache := by
  have once : Syncing.Ensures (Answers states) (Full ids)
      (retry (syncBackoff config) (syncAttempt ids)) fun r cache =>
        (∃ headers, r = .ok headers) ∧ Full ids cache := by
    unfold retry retryFrom
    refine Syncing.ensures_bind (syncAttempt_ensures ids) fun result => ?_
    rintro cache ⟨⟨headers, rfl⟩, full⟩
    exact Dialogue.ensures_done ⟨⟨headers, rfl⟩, full⟩
  refine Syncing.ensures_bind once fun result => ?_
  rintro cache ⟨⟨headers, rfl⟩, full⟩
  exact Dialogue.ensures_done ⟨⟨headers, rfl⟩, full⟩

theorem syncedHeaders_succeeds (ids : Pair ChainId) (config : HeaderSyncConfig) :
    (syncedHeaders ids config).Succeeds (Answers states) fun synced => Full ids synced.2 := by
  have synced : (HeaderCache.synced ids).Succeeds (Answers states) (Full ids) := by
    refine Dialogue.ensures_bind (refresh_ensures ids (fun _ => True) .empty trivial) ?_
    rintro ⟨_, cache⟩ ⟨rfl, full⟩
    exact Dialogue.ensures_done ⟨cache, rfl, full⟩
  refine Relay.succeeds_bind (Relay.succeeds_wrapError synced) fun cache full => ?_
  refine Dialogue.ensures_bind (updateHeaders_ensures ids config cache full) ?_
  rintro ⟨_, cache⟩ ⟨⟨headers, rfl⟩, full⟩
  exact Dialogue.ensures_done ⟨_, rfl, full⟩

/-! ## The look -/

theorem pinnedHeights_of_full {ids : Pair ChainId} {cache : HeaderCache} (full : Full ids cache) :
    ∃ heights, pinnedHeights cache ids = .ok heights := by
  obtain ⟨src, foundSrc⟩ := full.queryContext .src
  obtain ⟨dst, foundDst⟩ := full.queryContext .dst
  rw [Pair.get_src] at foundSrc
  rw [Pair.get_dst] at foundDst
  exact ⟨_, by rw [pinnedHeights, foundSrc, foundDst]; rfl⟩

theorem queryChannels_succeeds (heights : Pair Height) :
    (queryChannels heights).Succeeds (Answers states) fun ends =>
      ends.map ProvenChannel.state = states := by
  have query (s : Side) (height : Height) :
      (call s (.channel height)).Succeeds (Answers states) fun seen =>
        ProvenChannel.state seen = states.get s :=
    Relay.succeeds_call fun r h => by
      obtain ⟨seen, rfl⟩ := h.ok nofun
      exact ⟨seen, rfl, h⟩
  refine Relay.succeeds_bind (query .src heights.src) fun src atSrc => ?_
  refine Relay.succeeds_bind (query .dst heights.dst) fun dst atDst => ?_
  refine Relay.succeeds_pure ?_
  simp only [Pair.map, atSrc, atDst, Pair.get_src, Pair.get_dst]

/-- A look at chains that answer sees the states as they are, both times. -/
theorem look_succeeds {parties : Pair Party} {paths : Pair PathEnd} {config : HeaderSyncConfig}
    (valid : validatePaths parties = .ok paths) :
    (look parties config).Succeeds (Answers states) fun l => l.states = states ∧ l.Confirmed := by
  have latest : queryLatestChannels.Succeeds (Answers states) fun ends =>
      ends.map ProvenChannel.state = states :=
    Relay.succeeds_bind (call_succeeds nofun) fun _ _ =>
      Relay.succeeds_bind (call_succeeds nofun) fun _ _ => queryChannels_succeeds _
  refine Relay.succeeds_bind (P := fun _ => True)
    (Relay.succeeds_ofExcept (by rw [valid]; rfl) trivial) fun _ _ => ?_
  refine Relay.succeeds_bind (syncedHeaders_succeeds _ config) fun synced full => ?_
  obtain ⟨heights, pinned⟩ := pinnedHeights_of_full full
  refine Relay.succeeds_bind (P := fun _ => True)
    (Relay.succeeds_ofExcept (by rw [pinned]; rfl) trivial) fun _ _ => ?_
  refine Relay.succeeds_bind (Relay.succeeds_wrapError (queryChannels_succeeds _))
    fun observed first => ?_
  refine Relay.succeeds_bind (Relay.succeeds_wrapError latest) fun again second => ?_
  refine Relay.succeeds_pure ⟨first, ?_, ?_⟩
  · exact congrArg Pair.src (first.trans second.symm)
  · exact congrArg Pair.dst (first.trans second.symm)

/-! ## The round -/

/-- On the way through the handshake every round sends a batch. -/
theorem effort_sends {parties : Pair Party} {paths : Pair PathEnd} {order : ChannelOrder}
    {config : Config} {e : Effort} (valid : validatePaths parties = .ok paths)
    (taken : (effort parties order config).Admits t e)
    (cooperative : Along kind (Cooperative kind) w t)
    (inside : w.states ∈ handshakeSteps.map Prod.fst) : ∃ batch, e = .sent batch := by
  obtain ⟨⟨states, action⟩, row, here⟩ := List.mem_map.mp inside
  obtain rfl : states = w.states := here
  -- The step has a result, and it is ready: waiting and failing both need a reply that is missing.
  have ready (t : List (Exchange Chains)) (r : Except HandshakeError Batch)
      (stepped : (step parties order config.headerSync).run.Admits t r)
      (cooperative : Along kind (Cooperative kind) w t) :
      ∃ batch, r = .ok batch ∧ batch.isReady = true := by
    have queries := (asks_step _ _ _).of_admits stepped
    have answers := cooperative.answers queries
    obtain ⟨error, rfl, failed⟩ | ⟨l, first, rest, rfl, looked, decided⟩ := step_cases stepped
    · obtain ⟨_, same, _⟩ := look_succeeds valid t _ failed answers
      cases same
    · obtain ⟨_, same, seen, confirmed⟩ := look_succeeds valid first _ (look_admits_ok.mpr looked)
        fun e mem => answers e (List.mem_append_left _ mem)
      cases same
      obtain ⟨batch, rfl, ready, _⟩ | ⟨error, earlier, c, rfl, call, rfl⟩ :=
        decided.acts confirmed action (seen ▸ row)
      · exact ⟨batch, rfl, ready⟩
      · obtain ⟨_, same⟩ := (answers ⟨(action.side, c), .error error⟩ (by simp)).ok
          (queries ⟨(action.side, c), .error error⟩ (by simp))
        cases same
  obtain ⟨error, rfl, stepped⟩ | ⟨batch, rfl, idle, stepped⟩ | ⟨batch, sent, _, _, rfl, _⟩ :=
    effort_cases taken
  · obtain ⟨_, same, _⟩ := ready t _ stepped cooperative
    cases same
  · obtain ⟨_, same, full⟩ := ready t _ stepped cooperative
    cases same
    rw [idle] at full
    cases full
  · exact ⟨sent, rfl⟩

end ChannelRelay.Handshake
