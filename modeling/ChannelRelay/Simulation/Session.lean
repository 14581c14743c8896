import ChannelRelay.Config.Document
import ChannelRelay.Handshake.Run
import ChannelRelay.Simulation.Strategy

/-!
# Sessions

A session holds two scripted chains, a header cache, the batch of the last step and, at
times, a running strategy. Each operation of a session exercises one part of the relayer
and has a result; the calls it made to the chains are in the log. An operation in which a
call breaks off has no other result than that, and leaves what it would leave if the call
had failed. Some operations are given settings as a document, over defaults without
waiting.
-/

namespace ChannelRelay.Simulation

/-- A strategy that has been started. -/
structure Running where
  /-- Whether it was started with the roles of the chains exchanged. -/
  swapped : Bool
  cache : HeaderCache
  listeners : Pair Listener

structure Session where
  world : World
  cache : HeaderCache := .empty
  batch : Batch := .empty
  running : Option Running := none

/-- What a session shows of a chain. -/
structure Snapshot where
  state : ChannelState
  latestState : Option ChannelState
  headerHeight : Height
  latestHeight : Height
  clientHeight : Height
  headerBudget : Nat

def ScriptedChain.snapshot (c : ScriptedChain) : Snapshot :=
  ⟨c.state, c.latestState, c.headerHeight, c.latestHeight, c.clientHeight, c.headerBudget⟩

/-- Settings of an operation, by section and name. -/
abbrev Settings := Document.Entries Document.Value

inductive Operation where
  | change (s : Side) (changes : List ScriptedChain.Change)
  | state
  | validatePaths
  /-- Forget the cached headers. -/
  | forgetHeaders
  | syncHeaders
  | refresh
  | latestHeader (id : ChainId)
  | queryContext (id : ChainId)
  | headersFor
  | headersForBoth
  | updateHeaders (settings : Settings)
  | queryPair (heights : Pair Height)
  | finality (states : Pair ChannelState)
  | step (order : ChannelOrder) (settings : Settings)
  | putBatch (batch : Batch)
  | send (settings : Settings)
  | createChannel (ordered : Bool) (settings : Settings)
  | runStrategy (strategy : ScriptedStrategy) (settings : Settings)
  /-- Emit events on the chain of a side of the session. -/
  | emit (s : Side) (height : Height) (events : List Event)
  | isStopped
  /-- Wait a while for the listeners to end by themselves. -/
  | waitStopped
  | shutdown
  | shutdownAndWait

inductive Outcome where
  | done
  | snapshots (chains : Pair Snapshot)
  | paths (ends : Pair PathEnd)
  | header (h : Header)
  | context (c : QueryContext)
  | headers (hs : List Header)
  | bothHeaders (hs : Pair (List Header))
  | channels (cs : Pair ProvenChannel)
  | answer (b : Bool)
  | batch (b : Batch)
  | channelCreated
  | started (result : Except StrategyError Unit) (calls : List MethodCall)
  | handled (report : Handled)
  /-- The strategy was shut down; whether both listeners had ended then. -/
  | stopped (ended : Bool)
  /-- The strategy was shut down, with so many handled batches nobody looked at. -/
  | unread (n : Nat)
  | relayError (e : RelayError)
  | handshakeError (e : HandshakeError)
  | configError (e : ConfigError)
  | notRunning
  | closed
  | unfinished
  | breach (b : Breach)

namespace Session

def ofRelay {α : Type} (f : α → Outcome) : Except RelayError α → Outcome
  | .ok a => f a
  | .error e => .relayError e

def ofHandshake {α : Type} (f : α → Outcome) : Except HandshakeError α → Outcome
  | .ok a => f a
  | .error e => .handshakeError e

/-- The configuration of a session: by default there is next to no waiting in it. -/
def baseConfig : Config :=
  let c : Config := default
  { c with
    handshake := { c.handshake with failureCooldown := .zero }
    headerSync := { c.headerSync with retryDelay := .zero }
    eventListener := { c.eventListener with pollInterval := .millisecond } }

/-- Goes on with the configuration that the settings of an operation make. -/
def configured (s : Session) (settings : Settings) (f : Config → Outcome × Session) :
    Outcome × Session :=
  match Config.ofDocument baseConfig settings with
  | .ok config => f config
  | .error .unreadable => (.configError .decode, s)
  | .error (.breach b) => (.breach b, s)

/-- A dialogue that leaves the cached headers alone. -/
def ask {α : Type} (s : Session) (swapped : Bool) (d : Dialogue Chains α) (f : α → Outcome) :
    Outcome × Session :=
  let (a, world) := s.world.run swapped d
  (f a, { s with world })

/-- A dialogue that may replace the cached headers. -/
def sync {α : Type} (s : Session) (swapped : Bool) (d : Syncing α) (f : α → Outcome) :
    Outcome × Session :=
  let ((a, cache), world) := s.world.run swapped (d.run s.cache)
  (f a, { s with world, cache })

/-- A dialogue that makes a new cache, or fails and leaves the old one. -/
def replaceCache (s : Session) (swapped : Bool) (d : Relay RelayError HeaderCache) :
    Outcome × Session :=
  match s.world.run swapped d.run with
  | (.ok cache, world) => (.done, { s with world, cache })
  | (.error e, world) => (.relayError e, { s with world })

/-- A dialogue that makes the next batch, or fails and leaves the old one. -/
def replaceBatch (s : Session) (swapped : Bool) (d : Relay HandshakeError Batch) :
    Outcome × Session :=
  match s.world.run swapped d.run with
  | (.ok batch, world) => (.batch batch, { s with world, batch })
  | (.error e, world) => (.handshakeError e, { s with world })

/-- The events by which a listener gets as far as it can without being given anything:
one whose subscription is closed ends. -/
def settle (l : Listener) : Listener :=
  (l.run? [.task .poll, .task .enter, .disconnect, .task .stop, .task .exit]).getD l

/-- The events by which a listener ends that is shut down. -/
def shutDown (l : Listener) : Listener :=
  let signalled := (l.touch? .signal).getD l
  (signalled.run? [.task .poll, .task .stop, .task .exit]).getD l

def startStrategy (s : Session) (swapped : Bool) (strategy : ScriptedStrategy) :
    Outcome × Session :=
  let (result, st) := (Strategy.start (s.world.ids swapped)).run.run Startup.partner
    { world := s.world, swapped, strategy }
  let running :=
    match result, st.listeners with
    | .ok (), ⟨some src, some dst⟩ => some ⟨swapped, st.cache, ⟨settle src, settle dst⟩⟩
    | _, _ => none
  (.started result st.calls, { s with world := st.world, running })

/-- Starts a strategy. One that is running is dropped first. -/
def runStrategy (s : Session) (swapped : Bool) (strategy : ScriptedStrategy)
    (settings : Settings) : Outcome × Session :=
  let s := { s with running := none }
  s.configured settings fun _ => s.startStrategy swapped strategy

/-- The listener takes the batch and has it handled. -/
def deliver (s : Session) (r : Running) (side : Side) (batch : EventBatch) :
    Outcome × Session :=
  let role := World.sideOf r.swapped side
  let listener := r.listeners.get role
  let call := listener.callFor batch
  let ((report, cache), world) := s.world.run r.swapped
    ((handleBatch (s.world.ids r.swapped) call).run r.cache)
  let events :=
    [.emit batch, .task .poll, .task .enter, .handle call, .handled report.result.isOk]
  match listener.run? events with
  | some l =>
    (.handled report,
      { s with world, running := some { r with cache, listeners := r.listeners.set role l } })
  | none => (.closed, s)

def emit (s : Session) (side : Side) (height : Height) (events : List Event) :
    Outcome × Session :=
  match s.running with
  | none => (.notRunning, s)
  | some r =>
    let chain := s.world.chains.get side
    if chain.closed then (.closed, s)
    else s.deliver r side ⟨chain.id, height, events⟩

/-- An operation on the running strategy. -/
def withRunning (s : Session) (f : Running → Outcome × Session) : Outcome × Session :=
  match s.running with
  | none => (.notRunning, s)
  | some r => f r

def bothStopped (ls : Pair Listener) : Bool := ls.src.task.isStopped && ls.dst.task.isStopped

/-- Shuts the strategy down. Both listeners end, so nothing of it is left. -/
def stop (s : Session) (f : Bool → Outcome) : Outcome × Session :=
  s.withRunning fun r => (f (bothStopped (r.listeners.map shutDown)), { s with running := none })

/-- The turns that a handshake can take at most: each one but the last asks the source for
a header. -/
def turnBound (s : Session) (swapped : Bool) : Nat :=
  (s.world.chains.get (World.sideOf swapped .src)).headerBudget + 1

def createChannel (s : Session) (swapped ordered : Bool) (config : Config) :
    Outcome × Session :=
  s.ask swapped
    (Handshake.createChannel (s.world.parties swapped) ordered config (s.turnBound swapped))
    fun
      | some result => ofHandshake (fun _ => .channelCreated) result
      | none => .unfinished

/-- What one operation does, with the roles of the chains exchanged or not. -/
def perform (s : Session) (swapped : Bool) : Operation → Outcome × Session
  | .change side changes =>
    let chain := changes.foldl ScriptedChain.change (s.world.chains.get side)
    (.done, { s with world := { s.world with chains := s.world.chains.set side chain } })
  | .state => (.snapshots (s.world.chains.map ScriptedChain.snapshot), s)
  | .validatePaths =>
    (ofRelay .paths (ChannelRelay.validatePaths (s.world.parties swapped)), s)
  | .forgetHeaders => (.done, { s with cache := .empty })
  | .syncHeaders => s.replaceCache swapped (HeaderCache.synced (s.world.ids swapped))
  | .refresh =>
    s.sync swapped (Syncing.refresh (s.world.ids swapped)) (ofRelay fun _ => .done)
  | .latestHeader id => (ofRelay .header (s.cache.latestHeader id), s)
  | .queryContext id => (ofRelay .context (s.cache.queryContext id), s)
  | .headersFor =>
    s.ask swapped (s.cache.headersFor (s.world.ids swapped) .src).run (ofRelay .headers)
  | .headersForBoth =>
    s.ask swapped (s.cache.headersForBoth (s.world.ids swapped)).run (ofRelay .bothHeaders)
  | .updateHeaders settings =>
    s.configured settings fun config =>
      s.sync swapped (Handshake.updateHeaders (s.world.ids swapped) config.headerSync)
        (ofHandshake .bothHeaders)
  | .queryPair heights =>
    s.ask swapped (Handshake.queryChannels heights).run (ofRelay .channels)
  | .finality states =>
    let observed := states.map fun state => ScriptedChain.proven state ⟨0, 1⟩
    s.ask swapped (Handshake.checkFinality observed).run (ofHandshake .answer)
  | .step order settings =>
    s.configured settings fun config =>
      s.replaceBatch swapped (Handshake.step (s.world.parties swapped) order config.headerSync)
  | .putBatch batch => (.batch batch, { s with batch })
  | .send settings =>
    s.configured settings fun config =>
      let (batch, world) := s.world.run swapped (s.batch.send config.tx)
      (.batch batch, { s with world, batch })
  | .createChannel ordered settings =>
    s.configured settings fun config => s.createChannel swapped ordered config
  | .runStrategy strategy settings => s.runStrategy swapped strategy settings
  | .emit side height events => s.emit side height events
  | .isStopped | .waitStopped => s.withRunning fun r => (.answer (bothStopped r.listeners), s)
  | .shutdown => s.stop .stopped
  | .shutdownAndWait => s.stop fun _ => .unread 0

/-- Runs one operation. If a call broke off, that is the outcome. -/
def run (s : Session) (swapped : Bool) (op : Operation) : Outcome × Session :=
  let (outcome, next) := s.perform swapped op
  match next.world.breach with
  | some b => (.breach b, { next with world := { next.world with breach := none } })
  | none => (outcome, next)

/-- The lines that were added to the log since it had `length` lines. -/
def callsSince (s : Session) (length : Nat) : List String :=
  (s.world.log.take (s.world.log.length - length)).reverse

/-- Runs the operations in order, each with its result and the calls it made. -/
def runAll (s : Session) : List (Bool × Operation) → List (Outcome × List String)
  | [] => []
  | (swapped, op) :: rest =>
    let (outcome, next) := s.run swapped op
    (outcome, next.callsSince s.world.log.length) :: next.runAll rest

end Session

end ChannelRelay.Simulation
