import ChannelRelay.Proofs.Handshake.Decision

/-!
# What a step is pinned to

A step queries both ends at the heights of cached headers and hands on update headers that
lead to cached headers. The cache changes while the step tries to get these headers.

* `channelQueries`, `latestHeaders`, `latestHeights`: what a step observes, in order;
* `PinnedBy`: what comes before a batch are some syncs that fail, one that yields its headers, and
  two observations, and which of these the heights and headers that it makes use of come from;
* `pinned_by_last_sync`: every step that comes to a batch is pinned so, and the syncs that
  failed before might as well not have been.
-/

namespace ChannelRelay

/-- The calls that tell how far a chain and its end of the channel are. -/
def ChainCall.Observes : ChainCall → Prop
  | latestHeader | latestHeight | channel _ => True
  | _ => False

namespace Exchange

/-- A query of the end on side `s`: its height and the reply. -/
def channelQuery? (s : Side) :
    Exchange Chains → Option (Height × Except RelayError ProvenChannel)
  | ⟨(side, .channel height), reply⟩ => if side = s then some (height, reply) else none
  | _ => none

/-- The reply of the chain on side `s` to the question for its latest header. -/
def latestHeader? (s : Side) : Exchange Chains → Option (Except RelayError Header)
  | ⟨(side, .latestHeader), reply⟩ => if side = s then some reply else none
  | _ => none

/-- The reply of the chain on side `s` to the question for its latest height. -/
def latestHeight? (s : Side) : Exchange Chains → Option (Except RelayError Height)
  | ⟨(side, .latestHeight), reply⟩ => if side = s then some reply else none
  | _ => none

end Exchange

section
variable (s : Side) (t u : List (Exchange Chains))

def channelQueries : List (Height × Except RelayError ProvenChannel) :=
  t.filterMap (Exchange.channelQuery? s)

def latestHeaders : List (Except RelayError Header) := t.filterMap (Exchange.latestHeader? s)

def latestHeights : List (Except RelayError Height) := t.filterMap (Exchange.latestHeight? s)

@[simp] theorem channelQueries_append :
    channelQueries s (t ++ u) = channelQueries s t ++ channelQueries s u :=
  List.filterMap_append

@[simp] theorem latestHeaders_append :
    latestHeaders s (t ++ u) = latestHeaders s t ++ latestHeaders s u :=
  List.filterMap_append

@[simp] theorem latestHeights_append :
    latestHeights s (t ++ u) = latestHeights s t ++ latestHeights s u :=
  List.filterMap_append

end

/-- Nothing is observed by other calls. -/
def Unobserving (t : List (Exchange Chains)) : Prop := ∀ e ∈ t, ¬ e.request.2.Observes

namespace Unobserving

variable {t : List (Exchange Chains)}

theorem nil : Unobserving [] := fun _ mem => absurd mem List.not_mem_nil

theorem channelQueries (h : Unobserving t) (s : Side) : channelQueries s t = [] := by
  refine List.filterMap_eq_nil_iff.mpr fun e mem => ?_
  obtain ⟨⟨side, c⟩, reply⟩ := e
  have other := h _ mem
  cases c with
  | channel height => exact absurd trivial other
  | _ => rfl

theorem latestHeaders (h : Unobserving t) (s : Side) : latestHeaders s t = [] := by
  refine List.filterMap_eq_nil_iff.mpr fun e mem => ?_
  obtain ⟨⟨side, c⟩, reply⟩ := e
  have other := h _ mem
  cases c with
  | latestHeader => exact absurd trivial other
  | _ => rfl

theorem latestHeights (h : Unobserving t) (s : Side) : latestHeights s t = [] := by
  refine List.filterMap_eq_nil_iff.mpr fun e mem => ?_
  obtain ⟨⟨side, c⟩, reply⟩ := e
  have other := h _ mem
  cases c with
  | latestHeight => exact absurd trivial other
  | _ => rfl

theorem append {u : List (Exchange Chains)} (h : Unobserving t) (h' : Unobserving u) :
    Unobserving (t ++ u) := by
  intro e mem
  rcases List.mem_append.mp mem with mem | mem
  · exact h e mem
  · exact h' e mem

end Unobserving

/-! ## What a sync observes -/

variable {ids : Pair ChainId}

theorem Sought.unobserving {latest : Pair Header} {s : Side} {t : List (Exchange Chains)}
    {found : Except RelayError (List Header)} (h : Sought ids latest s t found) :
    Unobserving t := by
  intro e mem
  obtain asked | ⟨trusted, asked⟩ := h.request_cases mem <;> rw [asked] <;> exact id

namespace Sync

variable {sync : Sync}

theorem Yields.unobserving {headers : Pair (List Header)} (h : sync.Yields ids headers) :
    Unobserving sync.asked := by
  obtain ⟨src, dst, split, forSrc, forDst⟩ := h
  rw [split]
  exact forSrc.unobserving.append forDst.unobserving

theorem Fails.unobserving (h : sync.Fails ids) : Unobserving sync.asked := by
  obtain ⟨e, forSrc⟩ | ⟨src, dst, found, e, split, forSrc, forDst⟩ := h
  · exact forSrc.unobserving
  · rw [split]
    exact forSrc.unobserving.append forDst.unobserving

theorem channelQueries_exchanges (h : Unobserving sync.asked) (s : Side) :
    channelQueries s sync.exchanges = [] := by
  rw [exchanges, channelQueries_append, h.channelQueries]
  rfl

theorem latestHeights_exchanges (h : Unobserving sync.asked) (s : Side) :
    latestHeights s sync.exchanges = [] := by
  rw [exchanges, latestHeights_append, h.latestHeights]
  rfl

theorem latestHeaders_exchanges (h : Unobserving sync.asked) (s : Side) :
    latestHeaders s sync.exchanges = [.ok (sync.latest.get s)] := by
  rw [exchanges, latestHeaders_append, h.latestHeaders]
  cases s <;> rfl

variable {syncs : List Sync}

theorem channelQueries_all (h : ∀ sync ∈ syncs, Unobserving sync.asked) (s : Side) :
    channelQueries s (syncs.flatMap exchanges) = [] := by
  rw [channelQueries, List.filterMap_flatMap, List.flatMap_eq_nil_iff]
  exact fun sync mem => channelQueries_exchanges (h sync mem) s

theorem latestHeights_all (h : ∀ sync ∈ syncs, Unobserving sync.asked) (s : Side) :
    latestHeights s (syncs.flatMap exchanges) = [] := by
  rw [latestHeights, List.filterMap_flatMap, List.flatMap_eq_nil_iff]
  exact fun sync mem => latestHeights_exchanges (h sync mem) s

theorem latestHeaders_all (h : ∀ sync ∈ syncs, Unobserving sync.asked) (s : Side) :
    latestHeaders s (syncs.flatMap exchanges) = syncs.map fun sync => .ok (sync.latest.get s) := by
  induction syncs with
  | nil => rfl
  | cons sync syncs ih =>
    obtain ⟨first, later⟩ := List.forall_mem_cons.mp h
    rw [List.flatMap_cons, latestHeaders_append, latestHeaders_exchanges first, ih later]
    rfl

end Sync

namespace Handshake

variable {parties : Pair Party} {order : ChannelOrder} {config : HeaderSyncConfig} {l : Look}
  {t : List (Exchange Chains)} {batch : Batch}

/-- The calls for the messages of a step: the acting chain is asked for its signer, for updates
of its client with the headers of the other chain, and for the handshake message. -/
theorem CarriesOut.request_cases {action : StepAction} {rest : List (Exchange Chains)}
    (carried : CarriesOut order l action rest batch) {e : Exchange Chains} (mem : e ∈ rest) :
    e.request = (action.side, .signer) ∨
      ∃ signer,
        e.request = (action.side, .updateClient (l.headers.get action.side.other) signer) ∨
        e.request = (action.side, action.message.builder order (l.paths.get action.side.other)
          (l.observed.get action.side.other) signer) := by
  obtain ⟨signer, earlier, updates, built, message, rfl, updated, asked, _, _⟩ := carried
  rcases List.mem_cons.mp mem with rfl | mem
  · exact .inl rfl
  rcases List.mem_append.mp mem with mem | mem
  · obtain ⟨_, rfl⟩ | ⟨_, rfl, _⟩ := clientUpdates_admits.mp updated
    · exact .inr ⟨signer, .inl (congrArg Exchange.request (List.mem_singleton.mp mem))⟩
    · cases mem
  · obtain rfl := List.mem_singleton.mp mem
    exact .inr ⟨signer, .inr asked⟩

theorem CarriesOut.unobserving {action : StepAction} {rest : List (Exchange Chains)}
    (carried : CarriesOut order l action rest batch) : Unobserving rest := by
  intro e mem
  obtain asked | ⟨signer, asked | asked⟩ := carried.request_cases mem
  · rw [asked]
    exact id
  · rw [asked]
    exact id
  · rw [asked]
    cases action.message <;> exact id

/-! ## What a step is pinned to -/

/-- The exchanges `t` of a step are the syncs `failed`, the sync `last`, the observations of `l`
and `rest`, and every height and header of theirs that counts comes from `last`. -/
structure PinnedBy (ids : Pair ChainId) (t : List (Exchange Chains)) (failed : List Sync)
    (last : Sync) (l : Look) (announced : Pair Height) (rest : List (Exchange Chains)) :
    Prop where
  exchanges : t = failed.flatMap Sync.exchanges ++
    (last.exchanges ++ (l.observations last.heights announced ++ rest))
  fails : ∀ sync ∈ failed, sync.Fails ids
  /-- The update headers lead to the latest headers of the last sync, unless the client is up
  to date with these, as it is found to be at the pinned height of its own chain. -/
  yields : last.Yields ids l.headers
  /-- Each sync has latest headers of its own, and none is fetched after those of the last one. -/
  refreshed : ∀ s, latestHeaders s t =
    failed.map (fun sync => .ok (sync.latest.get s)) ++ [.ok (last.latest.get s)]
  /-- An end is queried at the pinned height, then at the announced one, and never again. -/
  queried : ∀ s, channelQueries s t =
    [((last.latest.get s).height, .ok (l.observed.get s)),
      (announced.get s, .ok (l.latest.get s))]
  told : ∀ s, latestHeights s t = [.ok (announced.get s)]

/-- What comes before the observations tells nothing that they are not pinned to. -/
theorem SyncedBy.pinnedBy {failed : List Sync} {last : Sync} {ids : Pair ChainId}
    {sync rest : List (Exchange Chains)}
    (synced : SyncedBy ids config failed last l.headers sync) (announced : Pair Height)
    (unobserving : Unobserving rest) :
    PinnedBy ids (sync ++ (l.observations last.heights announced ++ rest)) failed last l announced
      rest := by
  obtain ⟨rfl, _, fails, yields⟩ := synced
  have quiet (sync : Sync) (mem : sync ∈ failed) : Unobserving sync.asked :=
    (fails sync mem).unobserving
  refine {
    exchanges := List.append_assoc .., fails, yields
    refreshed := fun s => ?_, queried := fun s => ?_, told := fun s => ?_ }
  · have none : latestHeaders s (l.observations last.heights announced) = [] := rfl
    simp only [latestHeaders_append, none, unobserving.latestHeaders, Sync.latestHeaders_all quiet,
      Sync.latestHeaders_exchanges yields.unobserving, List.append_nil]
  · have both : channelQueries s (l.observations last.heights announced) =
        [((last.latest.get s).height, .ok (l.observed.get s)),
          (announced.get s, .ok (l.latest.get s))] := by
      cases s <;> rfl
    simp only [channelQueries_append, Sync.channelQueries_all quiet, both,
      unobserving.channelQueries, Sync.channelQueries_exchanges yields.unobserving,
      List.nil_append, List.append_nil]
  · have one : latestHeights s (l.observations last.heights announced) =
        [.ok (announced.get s)] := by
      cases s <;> rfl
    simp only [latestHeights_append, Sync.latestHeights_all quiet, one,
      unobserving.latestHeights, Sync.latestHeights_exchanges yields.unobserving,
      List.nil_append, List.append_nil]

/-- **Pinning.** A step that comes to a batch is pinned to its last sync, however many syncs
have failed before: it queries both ends at the latest heights of that sync, hands on the
headers that lead to these, and queries no end at any other height but the announced one. It
would have come to the same batch, by the same calls, without the syncs that failed. -/
theorem pinned_by_last_sync (run : (step parties order config).run.Admits t (.ok batch))
    (ready : batch.isReady = true) :
    ∃ failed last l announced rest action,
      PinnedBy (parties.map Party.id) t failed last l announced rest ∧
      CarriesOut order l action rest batch ∧
      (step parties order config).run.Admits
        (last.exchanges ++ (l.observations last.heights announced ++ rest)) (.ok batch) := by
  obtain ⟨l, first, rest, action, rfl, taken, confirmed, row, carried⟩ := ready_step run ready
  rw [step_eq, Relay.admits_bind_append (look_admits_ok.mpr taken)] at run
  obtain ⟨valid, failed, last, sync, announced, rfl, synced⟩ := taken
  refine ⟨failed, last, l, announced, rest, action, ?_, carried, ?_⟩
  · rw [List.append_assoc]
    exact synced.pinnedBy announced carried.unobserving
  -- The last sync alone allows the same look, and what follows depends on the look only.
  have alone : SyncedBy (parties.map Party.id) config [] last l.headers last.exchanges :=
    ⟨rfl, config.attempts_pos, nofun, synced.yields⟩
  have again : l.Taken parties config
      (last.exchanges ++ l.observations last.heights announced) :=
    ⟨valid, [], last, last.exchanges, announced, rfl, alone⟩
  rw [step_eq, ← List.append_assoc, Relay.admits_bind_append (look_admits_ok.mpr again)]
  exact run

/-- A source that moves on with each latest header, and a destination that once fails to tell
what its client trusts: the step is pinned to the second header of the source, not the first. -/
theorem pinned_by_last_sync_after_failure :
    let start := scripted ⟨.init, .uninitialized⟩
    let world := { start with
      chains.src.headerStep := 3, chains.dst.failing := [("client_height", 1)] }
    let program := (step (world.parties false) .unordered {}).run
    let t := program.transcript (Simulation.World.partner false) world
    ∃ failed last l announced rest,
      PinnedBy ((world.parties false).map Party.id) t failed last l announced rest ∧
      failed.length = 1 ∧ (last.latest.get .src).height = ⟨0, 13⟩ := by
  intro start world program t
  have ready : (program.run (Simulation.World.partner false) world).1.toOption.any
      Batch.isReady = true := by decide +kernel
  obtain ⟨batch, outcome, ready⟩ := exists_ready ready
  have run := Dialogue.admits_run (Simulation.World.partner false) program world
  rw [outcome] at run
  obtain ⟨failed, last, l, announced, rest, _, pinned, _⟩ := pinned_by_last_sync run ready
  refine ⟨failed, last, l, announced, rest, pinned, ?_, ?_⟩
  · have two : (latestHeaders .src t).length = 2 := by decide +kernel
    rw [pinned.refreshed, List.length_append, List.length_map] at two
    exact Nat.succ.inj two
  · have heights : (channelQueries .src t).map Prod.fst = [⟨0, 13⟩, ⟨0, 17⟩] := by
      decide +kernel
    rw [pinned.queried] at heights
    exact (List.cons.inj heights).1

end Handshake

end ChannelRelay
