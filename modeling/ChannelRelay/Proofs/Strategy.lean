import ChannelRelay.Proofs.HeaderSeek
import ChannelRelay.Proofs.Stations

/-!
# The parts of a start

What starting a strategy consists of, and the ways it can go.

* `fetchHeaders_error`, `startListener_error`, `relayPending_cases`, `orElseUndo_error`: how each
  part of a start fails, with their companions for success;
* `drop_admits`, `RelayHandle.drop_admits`: what letting go of listeners consists of;
* `Course`, `start_course`: the ways a start can go.
-/

namespace ChannelRelay

/-- An exchange with the chains alone. -/
def Exchange.onChain (e : Exchange Chains) : Exchange Start :=
  ⟨.chain e.request.1 e.request.2, e.reply⟩

/-- The exchange by which the caller does something with the handle of a listener. -/
def Exchange.ofTouch (s : Side) : Task.HandleEvent → Exchange Start
  | .signal => ⟨.signal s, ()⟩
  | .release => ⟨.release s, ()⟩
  | .joined => ⟨.join s, ()⟩
  | .observe stopped => ⟨.isStopped s, stopped⟩

@[simp] theorem Exchange.stationEvent?_ofTouch (s : Side) (e : Task.HandleEvent) :
    (ofTouch s e).stationEvent? = some (s, .touch e) := by
  cases e <;> rfl

namespace Strategy

variable {ids : Pair ChainId} {t : List (Exchange Start)} {s : Side}

/-! ## The parts of a start -/

theorem onChains_admits {α : Type} {d : Dialogue Chains α} {a : α} :
    (onChains d).Admits t a ↔ ∃ u, t = u.map Exchange.onChain ∧ d.Admits u a := by
  induction d generalizing t with
  | done b =>
    constructor
    · rintro ⟨rfl, rfl⟩
      exact ⟨[], rfl, rfl, rfl⟩
    · rintro ⟨_, rfl, rfl, rfl⟩
      exact ⟨rfl, rfl⟩
  | ask q next ih =>
    constructor
    · rintro ⟨r, rest, rfl, later⟩
      obtain ⟨u, rfl, h⟩ := (ih r).mp later
      exact ⟨⟨q, r⟩ :: u, rfl, r, u, rfl, h⟩
    · rintro ⟨_, rfl, r, u, rfl, h⟩
      exact ⟨r, u.map Exchange.onChain, rfl, (ih r).mpr ⟨u, rfl, h⟩⟩

theorem fetchHeaders_admits {r : Except StrategyError HeaderCache} :
    (fetchHeaders ids).run.Admits t r ↔ ∃ u synced, t = u.map Exchange.onChain ∧
      r = synced.mapError .relay ∧ (HeaderCache.synced ids).run.Admits u synced := by
  constructor
  · intro h
    obtain ⟨synced, _, _, rfl, asked, rfl, rfl⟩ := Dialogue.admits_bind.mp h
    obtain ⟨u, rfl, admitted⟩ := onChains_admits.mp asked
    exact ⟨u, synced, List.append_nil _, rfl, admitted⟩
  · rintro ⟨u, synced, rfl, rfl, admitted⟩
    exact Dialogue.admits_bind.mpr
      ⟨synced, _, [], (List.append_nil _).symm, onChains_admits.mpr ⟨u, rfl, admitted⟩, rfl, rfl⟩

theorem fetchHeaders_error {failure : StrategyError}
    (h : (fetchHeaders ids).run.Admits t (.error failure)) : ∃ e, failure = .relay e ∧
      (t = [⟨.chain .src .latestHeader, .error e⟩] ∨ ∃ header,
        t = [⟨.chain .src .latestHeader, .ok header⟩, ⟨.chain .dst .latestHeader, .error e⟩]) := by
  obtain ⟨u, synced, rfl, same, admitted⟩ := fetchHeaders_admits.mp h
  cases synced with
  | ok cache => cases same
  | error e =>
    cases same
    obtain ⟨after, refused⟩ := Handshake.synced_admits_error.mp admitted
    cases refused with
    | noSource => exact ⟨e, rfl, .inl rfl⟩
    | noDestination header => exact ⟨e, rfl, .inr ⟨header, rfl⟩⟩

theorem fetchHeaders_ok {cache : HeaderCache} (h : (fetchHeaders ids).run.Admits t (.ok cache)) :
    ∃ latest : Pair Header, t = [⟨.chain .src .latestHeader, .ok latest.src⟩,
      ⟨.chain .dst .latestHeader, .ok latest.dst⟩] := by
  obtain ⟨u, synced, rfl, same, admitted⟩ := fetchHeaders_admits.mp h
  cases synced with
  | error e => cases same
  | ok cache =>
    obtain ⟨latest, rfl, _⟩ := Handshake.synced_admits_ok.mp admitted
    exact ⟨latest, rfl⟩

theorem subscribe_admits {chain : Side} {r : Except StrategyError Unit} :
    (subscribe chain).run.Admits t r ↔ ∃ reply : Except RelayError Unit,
      t = [⟨.chain chain .subscribe, reply⟩] ∧ r = reply.mapError .relay := by
  constructor
  · intro h
    obtain ⟨reply, _, _, rfl, asked, rfl, rfl⟩ := Dialogue.admits_bind.mp h
    obtain rfl := Dialogue.admits_request.mp asked
    exact ⟨reply, rfl, rfl⟩
  · rintro ⟨reply, rfl, rfl⟩
    exact Dialogue.admits_bind.mpr ⟨reply, _, [], rfl, Dialogue.admits_request.mpr rfl, rfl, rfl⟩

/-- The chain is subscribed to, and there is a listener on it. -/
def listening (chain counterparty : Side) : List (Exchange Start) :=
  [⟨.chain chain .subscribe, .ok ()⟩, ⟨.listen chain counterparty, ()⟩]

theorem startListener_error {chain counterparty : Side} {failure : StrategyError}
    (h : (startListener chain counterparty).run.Admits t (.error failure)) :
    ∃ e, failure = .relay e ∧ t = [⟨.chain chain .subscribe, .error e⟩] := by
  obtain ⟨_, same, refused⟩ | ⟨_, _, _, rfl, _, started⟩ := Dialogue.admits_exceptBind.mp h
  · cases same
    obtain ⟨reply, rfl, same⟩ := subscribe_admits.mp refused
    cases reply with
    | ok _ => cases same
    | error e =>
      cases same
      exact ⟨e, rfl, rfl⟩
  · obtain ⟨_, same, _⟩ := Dialogue.admits_exceptLift.mp started
    cases same

theorem startListener_ok {chain counterparty : Side} {u : Unit}
    (h : (startListener chain counterparty).run.Admits t (.ok u)) :
    t = listening chain counterparty := by
  obtain ⟨_, same, _⟩ | ⟨_, _, _, rfl, subscribed, started⟩ := Dialogue.admits_exceptBind.mp h
  · cases same
  obtain ⟨reply, rfl, same⟩ := subscribe_admits.mp subscribed
  obtain ⟨_, _, listened⟩ := Dialogue.admits_exceptLift.mp started
  obtain rfl := Dialogue.admits_request.mp listened
  cases reply with
  | error e => cases same
  | ok _ => rfl

theorem relayPending_cases {b : Backlog} {r : Except StrategyError Unit}
    (h : (relayPending b).run.Admits t r) :
    (∃ e, t = [⟨.pending b, .error e⟩] ∧ r = .error e) ∨
      ∃ sequences, t = [⟨.pending b, .ok sequences⟩, ⟨.relay b sequences, r⟩] := by
  obtain ⟨e, rfl, asked⟩ | ⟨sequences, _, _, rfl, asked, relayed⟩ :=
    Dialogue.admits_exceptBind.mp h
  · obtain rfl := Dialogue.admits_request.mp asked
    exact .inl ⟨e, rfl, rfl⟩
  · obtain rfl := Dialogue.admits_request.mp asked
    obtain rfl := Dialogue.admits_request.mp relayed
    exact .inr ⟨sequences, rfl⟩

theorem orElseUndo_error {α : Type} {d : ExceptT StrategyError (Dialogue Start) α}
    {undo : Dialogue Start Unit} {failure : StrategyError}
    (h : (orElseUndo d undo).run.Admits t (.error failure)) :
    ∃ first rest, t = first ++ rest ∧ d.run.Admits first (.error failure) ∧
      undo.Admits rest () := by
  obtain ⟨result, first, _, rfl, ran, after⟩ := Dialogue.admits_bind.mp h
  cases result with
  | ok a => cases after.2
  | error e =>
    obtain ⟨_, undone, _, rfl, undid, rfl, same⟩ := Dialogue.admits_bind.mp after
    cases same
    exact ⟨first, undone, by rw [List.append_nil], ran, undid⟩

theorem orElseUndo_ok {α : Type} {d : ExceptT StrategyError (Dialogue Start) α}
    {undo : Dialogue Start Unit} {a : α} (h : (orElseUndo d undo).run.Admits t (.ok a)) :
    d.run.Admits t (.ok a) := by
  obtain ⟨result, first, _, rfl, ran, after⟩ := Dialogue.admits_bind.mp h
  cases result with
  | ok a =>
    obtain ⟨rfl, same⟩ := after
    cases same
    rwa [List.append_nil]
  | error e =>
    obtain ⟨_, _, _, _, _, _, same⟩ := Dialogue.admits_bind.mp after
    cases same

/-- The exchanges of an operation on the handle of a listener. -/
def operate (op : Task.HandleOp) (s : Side) : List (Exchange Start) :=
  op.events.map (Exchange.ofTouch s)

theorem drop_admits : (drop s).Admits t () ↔ t = operate .drop s := by
  constructor
  · rintro ⟨_, _, rfl, _, _, rfl, _, _, rfl, rfl, _⟩
    rfl
  · rintro rfl
    exact ⟨_, _, rfl, _, _, rfl, _, _, rfl, rfl, rfl⟩

theorem shutdownAndWait_admits :
    (shutdownAndWait s).Admits t () ↔ t = operate .shutdownAndWait s := by
  constructor
  · rintro ⟨_, _, rfl, _, _, rfl, _, _, rfl, _, _, rfl, rfl, _⟩
    rfl
  · rintro rfl
    exact ⟨_, _, rfl, _, _, rfl, _, _, rfl, _, _, rfl, rfl, rfl⟩

end Strategy

namespace RelayHandle

open Strategy (operate)

variable {t : List (Exchange Start)}

theorem shutdown_admits :
    shutdown.Admits t () ↔ t = operate .shutdown .src ++ operate .shutdown .dst := by
  constructor
  · rintro ⟨_, _, rfl, _, _, rfl, rfl, _⟩
    rfl
  · rintro rfl
    exact ⟨_, _, rfl, _, _, rfl, rfl, rfl⟩

/-- Both listeners are signalled, and then let go of. -/
theorem drop_admits :
    drop.Admits t () ↔ t = operate .shutdown .src ++ operate .shutdown .dst ++
      (operate .drop .src ++ operate .drop .dst) := by
  unfold drop
  constructor
  · intro h
    obtain ⟨_, _, _, rfl, signalled, h⟩ := Dialogue.admits_bind.mp h
    obtain ⟨_, _, _, rfl, src, dst⟩ := Dialogue.admits_bind.mp h
    rw [shutdown_admits.mp signalled, Strategy.drop_admits.mp src, Strategy.drop_admits.mp dst]
  · rintro rfl
    rw [Dialogue.admits_bind_append (shutdown_admits.mpr rfl),
      Dialogue.admits_bind_append (Strategy.drop_admits.mpr rfl)]
    exact Strategy.drop_admits.mpr rfl

theorem shutdownAndWait_admits :
    shutdownAndWait.Admits t () ↔
      t = operate .shutdownAndWait .src ++ operate .shutdownAndWait .dst := by
  unfold shutdownAndWait
  constructor
  · intro h
    obtain ⟨_, _, _, rfl, src, dst⟩ := Dialogue.admits_bind.mp h
    rw [Strategy.shutdownAndWait_admits.mp src, Strategy.shutdownAndWait_admits.mp dst]
  · rintro rfl
    rw [Dialogue.admits_bind_append (Strategy.shutdownAndWait_admits.mpr rfl)]
    exact Strategy.shutdownAndWait_admits.mpr rfl

end RelayHandle

namespace Strategy

variable {ids : Pair ChainId} {t : List (Exchange Start)} {r : Except StrategyError Unit}

/-! ## The ways a start can go -/

/-- The latest headers of both chains are fetched, and shared. -/
def fetched (latest : Pair Header) (cache : HeaderCache) : List (Exchange Start) :=
  [⟨.chain .src .latestHeader, .ok latest.src⟩, ⟨.chain .dst .latestHeader, .ok latest.dst⟩,
    ⟨.share cache, ()⟩]

/-- All that comes before the strategy is asked for anything. -/
def prepared (latest : Pair Header) (cache : HeaderCache) : List (Exchange Start) :=
  fetched latest cache ++ listening .src .dst ++ listening .dst .src

/-- A start comes to an end in one of these ways. -/
inductive Course : List (Exchange Start) → Except StrategyError Unit → Prop
  | noSrcHeader (e : RelayError) :
      Course [⟨.chain .src .latestHeader, .error e⟩] (.error (.relay e))
  | noDstHeader (header : Header) (e : RelayError) :
      Course [⟨.chain .src .latestHeader, .ok header⟩, ⟨.chain .dst .latestHeader, .error e⟩]
        (.error (.relay e))
  | noSrcEvents (latest : Pair Header) (cache : HeaderCache) (e : RelayError) :
      Course (fetched latest cache ++ [⟨.chain .src .subscribe, .error e⟩]) (.error (.relay e))
  | noDstEvents (latest : Pair Header) (cache : HeaderCache) (e : RelayError) :
      Course (fetched latest cache ++ listening .src .dst ++
        ⟨.chain .dst .subscribe, .error e⟩ :: operate .drop .src) (.error (.relay e))
  | notRelayed (latest : Pair Header) (cache : HeaderCache) (pass undone : List (Exchange Start))
      (e : StrategyError) (relayed : firstPass.run.Admits pass (.error e))
      (undo : RelayHandle.drop.Admits undone ()) :
      Course (prepared latest cache ++ (pass ++ undone)) (.error e)
  | started (latest : Pair Header) (cache : HeaderCache) (pass : List (Exchange Start))
      (relayed : firstPass.run.Admits pass (.ok ())) :
      Course (prepared latest cache ++ pass) (.ok ())

theorem start_course (h : (start ids).run.Admits t r) : Course t r := by
  obtain ⟨_, rfl, noHeaders⟩ | ⟨cache, _, _, rfl, synced, afterSync⟩ :=
    Dialogue.admits_exceptBind.mp h
  · obtain ⟨e, rfl, rfl | ⟨header, rfl⟩⟩ := fetchHeaders_error noHeaders
    · exact .noSrcHeader e
    · exact .noDstHeader header e
  obtain ⟨latest, rfl⟩ := fetchHeaders_ok synced
  obtain ⟨_, _, _, rfl, shared, afterShare⟩ := Dialogue.admits_exceptLift_bind.mp afterSync
  obtain rfl := Dialogue.admits_request.mp shared
  obtain ⟨_, rfl, noSrc⟩ | ⟨_, _, _, rfl, src, afterSrc⟩ :=
    Dialogue.admits_exceptBind.mp afterShare
  · obtain ⟨e, rfl, rfl⟩ := startListener_error noSrc
    exact .noSrcEvents latest cache e
  obtain rfl := startListener_ok src
  obtain ⟨_, rfl, noDst⟩ | ⟨_, _, _, rfl, dst, afterDst⟩ := Dialogue.admits_exceptBind.mp afterSrc
  · obtain ⟨_, _, rfl, refused, undo⟩ := orElseUndo_error noDst
    obtain ⟨e, rfl, rfl⟩ := startListener_error refused
    obtain rfl := drop_admits.mp undo
    exact .noDstEvents latest cache e
  obtain rfl := startListener_ok (orElseUndo_ok dst)
  cases r with
  | error e =>
    obtain ⟨pass, undone, rfl, relayed, undo⟩ := orElseUndo_error afterDst
    exact .notRelayed latest cache pass undone e relayed undo
  | ok _ => exact .started latest cache _ (orElseUndo_ok afterDst)

end Strategy

end ChannelRelay
