import ChannelRelay.Proofs.Strategy

/-!
# Starting a strategy

A start goes through its calls in a fixed order, up to the first that fails. Whichever that is,
the listeners that run by then are shut down, and have ended, before the failure is reported.

* `Follows agenda t r`: the calls of `agenda` were made, up to the first failure;
* `Course.follows`, `Course.prepared_first`: the order of a start;
* `Course.cleaned`, `Course.kept`: what becomes of the listeners;
* `start_orderly`: what holds of every start, whatever the chains and the strategy reply, and
  whatever the listeners do in the meantime.
-/

namespace ChannelRelay

theorem Exchange.eq_of_stationEvent?_listen {x : Exchange Start} {s chain counterparty : Side}
    (means : x.stationEvent? = some (s, .listen chain counterparty)) :
    x = ⟨.listen s counterparty, ()⟩ := by
  unfold stationEvent? at means
  split at means <;> cases means
  rfl

theorem Exchange.eq_of_tells {x : Exchange Start} {s : Side} {e : Station.Event}
    (means : x.stationEvent? = some (s, e)) (tells : e.Tells) :
    x = ⟨.signal s, ()⟩ ∨ x = ⟨.release s, ()⟩ := by
  unfold stationEvent? at means
  split at means <;> cases means
  all_goals first | exact .inl rfl | exact .inr rfl | exact tells.elim

namespace Strategy

/-! ## Order, and the first failure -/

/-- Whether a chain or the strategy is called, which may fail. -/
def Request.mayFail : Request → Bool
  | .chain .. | .pending _ | .relay .. => true
  | .share _ | .listen .. | .signal _ | .release _ | .join _ | .isStopped _ => false

/-- The calls among the exchanges. -/
def calls (t : List (Exchange Start)) : List (Exchange Start) :=
  t.filter fun e => e.request.mayFail

theorem calls_append (t u : List (Exchange Start)) : calls (t ++ u) = calls t ++ calls u :=
  List.filter_append ..

theorem calls_operate (op : Task.HandleOp) (s : Side) : calls (operate op s) = [] := by
  cases op <;> rfl

end Strategy

/-- The failure that the reply reports. -/
def Exchange.failure? : Exchange Start → Option StrategyError
  | ⟨.chain .., .error e⟩ => some (.relay e)
  | ⟨.pending _, .error e⟩ | ⟨.relay .., .error e⟩ => some e
  | _ => none

namespace Strategy

variable {ids : Pair ChainId} {t : List (Exchange Start)} {r : Except StrategyError Unit}
  {sequences : Backlog → Pair (List Sequence)}

/-- The calls of `agenda` are made one after the other, up to the first that fails, and that
failure is what comes of it. -/
inductive Follows : List Request → List (Exchange Start) → Except StrategyError Unit → Prop
  | finished : Follows [] [] (.ok ())
  | failed (e : Exchange Start) (later : List Request) (failure : StrategyError)
      (failed : e.failure? = some failure) : Follows (e.request :: later) [e] (.error failure)
  | next (e : Exchange Start) (later : List Request) (t : List (Exchange Start))
      (r : Except StrategyError Unit) (succeeded : e.failure? = none)
      (rest : Follows later t r) : Follows (e.request :: later) (e :: t) r

theorem Follows.append {agenda more : List Request} {u : List (Exchange Start)}
    (h : Follows agenda t (.ok ())) (rest : Follows more u r) :
    Follows (agenda ++ more) (t ++ u) r := by
  generalize same : Except.ok () = ok at h
  induction h with
  | finished => exact rest
  | failed => cases same
  | next e later t r succeeded _ ih => exact .next e _ _ _ succeeded (ih same)

/-- What would come after the failure makes no difference. -/
theorem Follows.extend {agenda : List Request} {e : StrategyError}
    (h : Follows agenda t (.error e)) (more : List Request) :
    Follows (agenda ++ more) t (.error e) := by
  generalize same : Except.error e = error at h ⊢
  induction h with
  | finished => cases same
  | failed x later failure failed => exact .failed x _ failure failed
  | next x later t r succeeded _ ih => exact .next x _ _ _ succeeded (ih same)

/-- The sequences are those that the strategy has reported as pending, where it was asked. -/
def Reported (sequences : Backlog → Pair (List Sequence)) (t : List (Exchange Start)) : Prop :=
  ∀ b reported, ⟨.pending b, .ok reported⟩ ∈ t → sequences b = reported

/-- The calls that have one kind of backlog relayed. -/
def relaying (b : Backlog) (sequences : Pair (List Sequence)) : List Request :=
  [.pending b, .relay b sequences]

/-- The calls of a start, in order. -/
def agenda (sequences : Backlog → Pair (List Sequence)) : List Request :=
  [.chain .src .latestHeader, .chain .dst .latestHeader,
    .chain .src .subscribe, .chain .dst .subscribe] ++
    (relaying .packets (sequences .packets) ++
      relaying .acknowledgements (sequences .acknowledgements))

theorem relayPending_follows {b : Backlog} (h : (relayPending b).run.Admits t r) :
    ∃ found, Follows (relaying b found) t r ∧
      ∀ b' reported, ⟨.pending b', .ok reported⟩ ∈ t → b' = b ∧ found = reported := by
  obtain ⟨e, rfl, rfl⟩ | ⟨found, rfl⟩ := relayPending_cases h
  · refine ⟨⟨[], []⟩, .failed ⟨.pending b, .error e⟩ _ e rfl, ?_⟩
    intro b' reported mem
    cases List.mem_singleton.mp mem
  · refine ⟨found, .next ⟨.pending b, .ok found⟩ _ _ _ rfl ?_, ?_⟩
    · cases r with
      | ok _ => exact .next ⟨.relay b found, .ok ()⟩ _ _ _ rfl .finished
      | error e => exact .failed ⟨.relay b found, .error e⟩ _ e rfl
    · intro b' reported mem
      simp only [List.mem_cons, List.not_mem_nil, or_false] at mem
      obtain mem | mem := mem
      · cases mem
        exact ⟨rfl, rfl⟩
      · cases mem

theorem firstPass_follows (h : firstPass.run.Admits t r) : ∃ sequences,
    Follows (relaying .packets (sequences .packets) ++
      relaying .acknowledgements (sequences .acknowledgements)) t r ∧ Reported sequences t := by
  obtain ⟨e, rfl, failed⟩ | ⟨_, first, rest, rfl, packets, acks⟩ := Dialogue.admits_exceptBind.mp h
  · obtain ⟨found, follows, reports⟩ := relayPending_follows failed
    exact ⟨fun _ => found, follows.extend _, fun b reported mem => (reports b reported mem).2⟩
  · obtain ⟨found, follows, reports⟩ := relayPending_follows packets
    obtain ⟨found', follows', reports'⟩ := relayPending_follows acks
    refine ⟨fun b => b.casesOn found found', follows.append follows', ?_⟩
    intro b reported mem
    obtain mem | mem := List.mem_append.mp mem
    · obtain ⟨rfl, same⟩ := reports b reported mem
      exact same
    · obtain ⟨rfl, same⟩ := reports' b reported mem
      exact same

/-- The first pass consists of calls. -/
theorem firstPass_asks : firstPass.run.Asks fun q : Request => q.mayFail :=
  have one (b : Backlog) : (relayPending b).run.Asks fun q : Request => q.mayFail := ⟨rfl, fun
    | .error _ => trivial
    | .ok _ => ⟨rfl, fun _ => trivial⟩⟩
  Dialogue.asks_exceptBind (one .packets) fun _ => one .acknowledgements

theorem calls_firstPass (h : firstPass.run.Admits t r) : calls t = t :=
  List.filter_eq_self.mpr (firstPass_asks.of_admits h)

theorem fetched_follows (latest : Pair Header) (cache : HeaderCache) :
    Follows [.chain .src .latestHeader, .chain .dst .latestHeader] (calls (fetched latest cache))
      (.ok ()) :=
  .next ⟨.chain .src .latestHeader, .ok latest.src⟩ _ _ _ rfl
    (.next ⟨.chain .dst .latestHeader, .ok latest.dst⟩ _ _ _ rfl .finished)

theorem listening_follows (chain counterparty : Side) :
    Follows [.chain chain .subscribe] (calls (listening chain counterparty)) (.ok ()) :=
  .next ⟨.chain chain .subscribe, .ok ()⟩ _ _ _ rfl .finished

theorem prepared_follows (latest : Pair Header) (cache : HeaderCache) :
    Follows [.chain .src .latestHeader, .chain .dst .latestHeader,
      .chain .src .subscribe, .chain .dst .subscribe] (calls (prepared latest cache)) (.ok ()) :=
  ((fetched_follows latest cache).append (listening_follows .src .dst)).append
    (listening_follows .dst .src)

theorem not_pending_prepared {b : Backlog} {reply : Except StrategyError (Pair (List Sequence))}
    {latest : Pair Header} {cache : HeaderCache} :
    ⟨.pending b, reply⟩ ∉ prepared latest cache := by
  simp [prepared, fetched, listening]

theorem not_pending_operate {b : Backlog} {reply : Except StrategyError (Pair (List Sequence))}
    (op : Task.HandleOp) (s : Side) : ⟨.pending b, reply⟩ ∉ operate op s := by
  cases op <;> simp [operate, Task.HandleOp.events, Exchange.ofTouch]

theorem Course.follows (h : Course t r) :
    ∃ sequences, Follows (agenda sequences) (calls t) r ∧ Reported sequences t := by
  cases h with
  | noSrcHeader e =>
    refine ⟨fun _ => ⟨[], []⟩, .failed ⟨.chain .src .latestHeader, .error e⟩ _ _ rfl, ?_⟩
    simp [Reported]
  | noDstHeader header e =>
    refine ⟨fun _ => ⟨[], []⟩, .next ⟨.chain .src .latestHeader, .ok header⟩ _ _ _ rfl
      (.failed ⟨.chain .dst .latestHeader, .error e⟩ _ _ rfl), ?_⟩
    simp [Reported]
  | noSrcEvents latest cache e =>
    refine ⟨fun _ => ⟨[], []⟩, (fetched_follows latest cache).append
      (.failed ⟨.chain .src .subscribe, .error e⟩ _ _ rfl), ?_⟩
    simp [Reported, fetched]
  | noDstEvents latest cache e =>
    refine ⟨fun _ => ⟨[], []⟩, ((fetched_follows latest cache).append
      (listening_follows .src .dst)).append
        (.failed ⟨.chain .dst .subscribe, .error e⟩ _ _ rfl), ?_⟩
    simp [Reported, fetched, listening, not_pending_operate]
  | notRelayed latest cache pass undone e relayed undo =>
    obtain ⟨sequences, follows, reported⟩ := firstPass_follows relayed
    obtain rfl := RelayHandle.drop_admits.mp undo
    refine ⟨sequences, ?_, ?_⟩
    · simp only [calls_append, calls_operate, calls_firstPass relayed, List.append_nil]
      exact (prepared_follows latest cache).append follows
    · intro b found mem
      simp only [List.mem_append, not_pending_prepared, not_pending_operate, or_false,
        false_or] at mem
      exact reported b found mem
  | started latest cache pass relayed =>
    obtain ⟨sequences, follows, reported⟩ := firstPass_follows relayed
    refine ⟨sequences, ?_, ?_⟩
    · rw [calls_append, calls_firstPass relayed]
      exact (prepared_follows latest cache).append follows
    · intro b found mem
      exact reported b found ((List.mem_append.mp mem).resolve_left not_pending_prepared)

/-- The strategy is asked for nothing before both listeners are there. -/
theorem Course.prepared_first (h : Course t r) {before after : List (Exchange Start)}
    {b : Backlog} {reply : Except StrategyError (Pair (List Sequence))}
    (split : t = before ++ ⟨.pending b, reply⟩ :: after) :
    ∃ latest cache, prepared latest cache <+: before := by
  have asked : ⟨.pending b, reply⟩ ∈ t := split ▸ List.mem_append_right _ List.mem_cons_self
  have front (latest : Pair Header) (cache : HeaderCache) (rest : List (Exchange Start))
      (same : t = prepared latest cache ++ rest) : prepared latest cache <+: before := by
    obtain ⟨more, rfl, _⟩ | ⟨more, longer, later⟩ :=
      List.append_eq_append_iff.mp (same.symm.trans split)
    · exact ⟨more, rfl⟩
    · cases more with
      | nil => exact ⟨[], by rw [longer, List.append_nil, List.append_nil]⟩
      | cons x more =>
        obtain ⟨rfl, _⟩ := List.cons.inj later
        have early : ⟨.pending b, reply⟩ ∈ prepared latest cache :=
          longer ▸ List.mem_append_right _ List.mem_cons_self
        exact absurd early not_pending_prepared
  cases h with
  | noSrcHeader e | noDstHeader header e => simp at asked
  | noSrcEvents latest cache e => simp [fetched] at asked
  | noDstEvents latest cache e => simp [fetched, listening, not_pending_operate] at asked
  | notRelayed latest cache pass undone e relayed undo =>
    exact ⟨latest, cache, front latest cache _ rfl⟩
  | started latest cache pass relayed => exact ⟨latest, cache, front latest cache _ rfl⟩

/-! ## The listeners of a start -/

/-- A listener on a chain has the other chain as its counterparty. -/
def Request.IsWired : Request → Prop
  | .listen s counterparty => counterparty = s.other
  | _ => True

theorem onChains_asks {α : Type} {p : Request → Prop} (all : ∀ s c, p (.chain s c))
    (d : Dialogue Chains α) : (onChains d).Asks p := by
  induction d with
  | done a => trivial
  | ask q next ih => exact ⟨all q.1 q.2, ih⟩

theorem orElseUndo_asks {α : Type} {p : Request → Prop}
    {d : ExceptT StrategyError (Dialogue Start) α} {undo : Dialogue Start Unit}
    (first : d.run.Asks p) (rest : undo.Asks p) : (orElseUndo d undo).run.Asks p :=
  Dialogue.asks_bind first fun
    | .ok _ => trivial
    | .error _ => Dialogue.asks_bind rest fun _ => trivial

theorem startListener_wired (s : Side) : (startListener s s.other).run.Asks Request.IsWired :=
  ⟨trivial, fun
    | .error _ => trivial
    | .ok _ => ⟨rfl, fun _ => trivial⟩⟩

theorem drop_wired (s : Side) : (drop s).Asks Request.IsWired :=
  ⟨trivial, fun _ => ⟨trivial, fun _ => ⟨trivial, fun _ => trivial⟩⟩⟩

theorem dropHandle_wired : RelayHandle.drop.Asks Request.IsWired :=
  Dialogue.asks_bind ⟨trivial, fun _ => ⟨trivial, fun _ => trivial⟩⟩ fun _ =>
    Dialogue.asks_bind (drop_wired .src) fun _ => drop_wired .dst

theorem start_wired (ids : Pair ChainId) : (start ids).run.Asks Request.IsWired := by
  have headers : (fetchHeaders ids).run.Asks Request.IsWired :=
    Dialogue.asks_bind (onChains_asks (fun _ _ => trivial) _) fun _ => trivial
  have pass : firstPass.run.Asks Request.IsWired := firstPass_asks.mono fun
    | .chain .., _ | .pending _, _ | .relay .., _ => trivial
  refine Dialogue.asks_exceptBind headers fun cache => ⟨trivial, fun _ => ?_⟩
  refine Dialogue.asks_exceptBind (startListener_wired .src) fun _ => ?_
  refine Dialogue.asks_exceptBind (orElseUndo_asks (startListener_wired .dst) (drop_wired _))
    fun _ => ?_
  exact orElseUndo_asks pass dropHandle_wired

/-- A failed start has signalled and waited for every listener that it had started. -/
theorem Course.cleaned {e : StrategyError} (h : Course t (.error e)) {s c : Side}
    (spawned : ⟨.listen s c, ()⟩ ∈ t) : ⟨.signal s, ()⟩ ∈ t ∧ ⟨.join s, ()⟩ ∈ t := by
  cases h with
  | noSrcHeader e | noDstHeader header e => simp at spawned
  | noSrcEvents latest cache e => simp [fetched] at spawned
  | noDstEvents latest cache e =>
    cases s with
    | src => simp [operate, Task.HandleOp.events, Exchange.ofTouch]
    | dst => simp [fetched, listening, operate, Task.HandleOp.events, Exchange.ofTouch] at spawned
  | notRelayed latest cache pass undone e relayed undo =>
    obtain rfl := RelayHandle.drop_admits.mp undo
    cases s <;> simp [operate, Task.HandleOp.events, Exchange.ofTouch]

/-- A start that succeeds has started both listeners, and has told neither to stop. -/
theorem Course.kept (h : Course t (.ok ())) (s : Side) : (⟨.listen s s.other, ()⟩ ∈ t) ∧
    ∀ e ∈ t, e.request ≠ .signal s ∧ e.request ≠ .release s := by
  cases h with
  | started latest cache pass relayed =>
    refine ⟨List.mem_append_left _ ?_, fun e mem => ?_⟩
    · cases s <;> simp [prepared, listening]
    · obtain mem | mem := List.mem_append.mp mem
      · have all : ∀ e ∈ prepared latest cache, e.request ≠ .signal s ∧ e.request ≠ .release s := by
          simp [prepared, fetched, listening]
        exact all e mem
      · have called : e.request.mayFail := firstPass_asks.of_admits relayed e mem
        constructor <;> intro same <;> simp [same, Request.mayFail] at called

/-! ## Every start -/

/-- What is promised of a start that went through the exchanges `t` with the result `r`, and has
left the stations as they are in `stations`. -/
structure Orderly (t : List (Exchange Start)) (r : Except StrategyError Unit)
    (stations : Stations) : Prop where
  /-- The calls are made in order, up to the first failure, and the strategy is told to relay
  what it has reported as pending. -/
  follows : ∃ sequences, Follows (agenda sequences) (calls t) r ∧ Reported sequences t
  prepared_first : ∀ before b reply after, t = before ++ ⟨.pending b, reply⟩ :: after →
    ∀ s, ⟨.chain s .subscribe, .ok ()⟩ ∈ before ∧ ⟨.listen s s.other, ()⟩ ∈ before
  /-- The listeners are those that the start has started. -/
  spawned : ∀ s, (stations.get s).HasListener ↔ ⟨.listen s s.other, ()⟩ ∈ t
  cleaned_up : ∀ e, r = .error e → ∀ s, (stations.get s).HasListener →
    ⟨.signal s, ()⟩ ∈ t ∧ (stations.get s).Ended
  left_alone : r = .ok () → ∀ s, (stations.get s).HasListener ∧ (stations.get s).Untold ∧
    ∀ e ∈ t, e.request ≠ .signal s ∧ e.request ≠ .release s

/-- **Every start** is orderly, whatever the chains and the strategy reply, and whatever the chains
and the listeners do in the meantime. -/
theorem start_orderly {trace : List Happening} {stations : Stations}
    (admitted : (start ids).run.Admits (callerExchanges trace) r)
    (run : Stations.run? .initial trace = some stations) :
    Orderly (callerExchanges trace) r stations := by
  have course := start_course admitted
  have runAt (s : Side) := Stations.run?_absent s run
  have spawned (s : Side) :
      (stations.get s).HasListener ↔ ⟨.listen s s.other, ()⟩ ∈ callerExchanges trace := by
    rw [Station.hasListener_run (runAt s)]
    constructor
    · rintro (none | ⟨chain, counterparty, mem⟩)
      · exact none.elim
      obtain ⟨x, mem, means⟩ | ⟨_, same, _⟩ := mem_eventsAt_cases mem
      · obtain rfl := Exchange.eq_of_stationEvent?_listen means
        obtain rfl : counterparty = s.other := (start_wired ids).of_admits admitted _ mem
        exact mem
      · cases same
    · exact fun mem => .inr ⟨s, s.other, mem_eventsAt_of_caller mem rfl⟩
  exact {
    follows := course.follows
    prepared_first := by
      rintro before b reply after split s
      obtain ⟨latest, cache, front⟩ := course.prepared_first split
      constructor <;> refine front.subset ?_ <;> cases s <;> simp [prepared, listening]
    spawned
    cleaned_up := by
      rintro e rfl s there
      obtain ⟨signalled, joined⟩ := course.cleaned ((spawned s).mp there)
      exact ⟨signalled, Station.ended_of_joined (runAt s) (mem_eventsAt_of_caller joined rfl)⟩
    left_alone := by
      rintro rfl s
      obtain ⟨listened, quiet⟩ := course.kept s
      refine ⟨(spawned s).mpr listened, ?_, quiet⟩
      refine Station.untold_run (runAt s) (fun event mem tells => ?_) trivial
      obtain ⟨x, asked, means⟩ | ⟨_, rfl, _⟩ := mem_eventsAt_cases mem
      · obtain rfl | rfl := Exchange.eq_of_tells means tells
        · exact (quiet _ asked).1 rfl
        · exact (quiet _ asked).2 rfl
      · exact tells.elim }

/-- The packets cannot be relayed, with one listener in its handler and the other in a step. Both
have ended when that is reported. -/
theorem start_orderly_with_refused_packets :
    let ids : Pair ChainId := ⟨⟨"ibc-0", 0⟩, ⟨"ibc-1", 1⟩⟩
    let header (n : UInt64) : Header := ⟨⟨0, n⟩, ⟨"/header", []⟩⟩
    let cache := (HeaderCache.empty.insert ids.src (header 3)).insert ids.dst (header 5)
    let refused := StrategyError.relay (.sendFailed ids.dst "out of gas")
    let batch : EventBatch := ⟨ids.src, ⟨0, 4⟩, []⟩
    let act (s : Side) (e : Task.ThreadEvent) : Happening := .station s (.task e)
    let started : List Happening :=
      [.caller ⟨.chain .src .latestHeader, .ok (header 3)⟩,
        .caller ⟨.chain .dst .latestHeader, .ok (header 5)⟩, .caller ⟨.share cache, ()⟩,
        .caller ⟨.chain .src .subscribe, .ok ()⟩, .caller ⟨.listen .src .dst, ()⟩,
        act .src .poll, act .src .enter,
        .caller ⟨.chain .dst .subscribe, .ok ()⟩, .caller ⟨.listen .dst .src, ()⟩,
        .caller ⟨.pending .packets, .ok ⟨[1, 2], []⟩⟩, .station .src (.emit batch),
        .station .src (.handle ⟨.src, .dst, batch⟩), act .dst .poll, act .dst .enter,
        .caller ⟨.relay .packets ⟨[1, 2], []⟩, .error refused⟩]
    let trace : List Happening := started ++
      [.caller ⟨.signal .src, ()⟩, .caller ⟨.signal .dst, ()⟩,
        .caller ⟨.signal .src, ()⟩, .caller ⟨.release .src, ()⟩, .station .src (.handled true),
        act .src .poll, .station .dst .timeout, act .dst .poll, act .dst .stop,
        act .src .stop, act .src .exit, .caller ⟨.join .src, ()⟩,
        .caller ⟨.signal .dst, ()⟩, .caller ⟨.release .dst, ()⟩, act .dst .exit,
        .caller ⟨.join .dst, ()⟩]
    ∃ stations, Stations.run? .initial trace = some stations ∧
      Orderly (callerExchanges trace) (.error refused) stations ∧
      ∀ s, (stations.get s).HasListener := by
  intro ids header cache refused batch act started trace
  obtain ⟨stations, run⟩ := Option.isSome_iff_exists.mp
    (show (Stations.run? .initial trace).isSome by decide)
  have orderly : Orderly (callerExchanges trace) (.error refused) stations :=
    start_orderly (show (start ids).run.Admits _ _ from
      ⟨_, _, rfl, _, _, rfl, _, _, rfl, _, _, rfl, _, _, rfl, _, _, rfl, _, _, rfl, _, _, rfl,
        _, _, rfl, _, _, rfl, _, _, rfl, _, _, rfl, _, _, rfl, _, _, rfl, _, _, rfl, _, _, rfl,
        _, _, rfl, rfl, rfl⟩) run
  refine ⟨stations, run, orderly, fun s => (orderly.spawned s).mpr ?_⟩
  cases s <;> simp [trace, started, callerExchanges]

end Strategy

end ChannelRelay
