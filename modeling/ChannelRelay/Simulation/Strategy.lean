import ChannelRelay.Listener
import ChannelRelay.Simulation.World
import ChannelRelay.Strategy

/-!
# A scripted strategy

A strategy for trying the relayer out. Its script says which sequences are pending,
whether it updates the clients before it relays, and which of its methods fails. It
keeps a list of the methods that were called.
-/

namespace ChannelRelay.Simulation

structure ScriptedStrategy where
  packets : Pair (List Sequence) := ⟨[], []⟩
  acknowledgements : Pair (List Sequence) := ⟨[], []⟩
  /-- The method that fails. -/
  failing : Option String := none
  updatesClients : Bool := false

namespace ScriptedStrategy

def pendingMethod : Backlog → String
  | .packets => "unrelayed_sequences"
  | .acknowledgements => "unrelayed_acknowledgements"

def relayMethod : Backlog → String
  | .packets => "relay_packets"
  | .acknowledgements => "relay_acknowledgements"

/-- The side whose chain the error of a failing method names. -/
def faultySide (method : String) : Side :=
  if method = "unrelayed_sequences" ∨ method = "relay_packets" then .src else .dst

def check (st : ScriptedStrategy) (ids : Pair ChainId) (method : String) :
    Except StrategyError Unit :=
  if st.failing = some method then
    .error (.relay (.query (ids.get (faultySide method)) method "scripted failure"))
  else
    .ok ()

def backlog (st : ScriptedStrategy) : Backlog → Pair (List Sequence)
  | .packets => st.packets
  | .acknowledgements => st.acknowledgements

/-- The message that relays one sequence. -/
def relayMessage (b : Backlog) (sequence : Sequence) : Message :=
  .ofText (match b with | .packets => "/recv_packet" | .acknowledgements => "/acknowledgement")
    (Decimal.write sequence)

/-- The messages that bring the client on the receiving chain up to date. -/
def clientUpdates (cache : HeaderCache) (ids : Pair ChainId) (sender : Side) :
    Relay RelayError (List Message) := do
  let headers ← cache.headersFor ids sender
  let signer : Signer ← call sender.other .signer
  call sender.other (.updateClient headers signer)

/-- Relays the sequences of one side to the other, in one transaction. -/
def relayFrom (st : ScriptedStrategy) (cache : HeaderCache) (ids : Pair ChainId) (b : Backlog)
    (sender : Side) (sequences : List Sequence) : Relay RelayError Unit := do
  if sequences.isEmpty then
    return ()
  let updates : List Message ←
    if st.updatesClients then clientUpdates cache ids sender else pure []
  let messages := updates ++ sequences.map (relayMessage b)
  call sender.other (.submit ⟨messages, .fresh 0⟩)

/-- Relays the sequences of both sides. -/
def relayBoth (st : ScriptedStrategy) (cache : HeaderCache) (ids : Pair ChainId) (b : Backlog)
    (sequences : Pair (List Sequence)) : Relay RelayError Unit := do
  st.relayFrom cache ids b .src sequences.src
  st.relayFrom cache ids b .dst sequences.dst

end ScriptedStrategy

/-! ## Starting it -/

/-- One call of a method of the strategy. -/
structure MethodCall where
  method : String
  sequences : Pair (List Sequence)
  deriving DecidableEq, Repr

/-- What there is while a strategy is being started. -/
structure Startup where
  world : World
  swapped : Bool
  strategy : ScriptedStrategy
  cache : HeaderCache := .empty
  calls : List MethodCall := []
  listeners : Pair (Option Listener) := ⟨none, none⟩

namespace Startup

def ids (st : Startup) : Pair ChainId := st.world.ids st.swapped

def record (st : Startup) (method : String) (sequences : Pair (List Sequence)) : Startup :=
  { st with calls := st.calls ++ [⟨method, sequences⟩] }

/-- Something is done with the handle of a listener. -/
def touchListener (st : Startup) (s : Side) (e : Task.HandleEvent) : Startup :=
  { st with
    listeners := st.listeners.set s
      ((st.listeners.get s).map fun l => (l.touch? e).getD l) }

/-- A listener on a subscription that may be closed already. -/
def newListener (st : Startup) (chain counterparty : Side) : Listener where
  chain := chain
  counterparty := counterparty
  subscription := { closed := (st.world.chains.get (World.sideOf st.swapped chain)).closed }

/-- The strategy relays what it was given, unless it is scripted to fail. -/
def relay (st : Startup) (b : Backlog) (sequences : Pair (List Sequence)) :
    Except StrategyError Unit × Startup :=
  let st := st.record (ScriptedStrategy.relayMethod b) sequences
  match st.strategy.check st.ids (ScriptedStrategy.relayMethod b) with
  | .error e => (.error e, st)
  | .ok () =>
    let (result, world) := st.world.run st.swapped
      (st.strategy.relayBoth st.cache st.ids b sequences).run
    (result.mapError StrategyError.relay, { st with world })

def pending (st : Startup) (b : Backlog) :
    Except StrategyError (Pair (List Sequence)) × Startup :=
  let st := st.record (ScriptedStrategy.pendingMethod b) ⟨[], []⟩
  ((st.strategy.check st.ids (ScriptedStrategy.pendingMethod b)).map
    fun _ => st.strategy.backlog b, st)

/-- The chains, the strategy and the listeners as partner of the start. -/
def partner : Dialogue.Partner Start Startup
  | .chain s c, st =>
    let (reply, world) := st.world.call (World.sideOf st.swapped s) c
    (reply, { st with world })
  | .share cache, st => ((), { st with cache })
  | .listen chain counterparty, st =>
    let l := st.newListener chain counterparty
    ((), { st with listeners := st.listeners.set chain (some l) })
  | .pending b, st => st.pending b
  | .relay b sequences, st => st.relay b sequences
  | .signal s, st => ((), st.touchListener s .signal)
  | .release s, st => ((), st.touchListener s .release)
  | .join s, st => ((), { st with listeners := st.listeners.set s none })
  | .isStopped s, st => ((st.listeners.get s).any fun l => l.task.isStopped, st)

end Startup

/-! ## Handling events -/

/-- What the handler reports about one batch. -/
structure Handled where
  chain : ChainId
  counterparty : ChainId
  batch : EventBatch
  /-- The events it went through, with the packet sequence each carries. -/
  events : List (String × Option String)
  latestHeader : Option Height
  result : Except StrategyError Unit

/-- Goes through the events that a call of the handler is about, up to one that fails. -/
def handleEvents (ids : Pair ChainId) (call : HandlerCall) :
    List Event → Syncing (List (String × Option String) × Except StrategyError Unit)
  | [] => return ([], .ok ())
  | e :: rest => do
    let seen := (e.kind, e.attribute? "packet_sequence")
    if e.kind = "fail" then
      return ([seen], .error (.relay (.subscription (ids.get call.chain))))
    if e.kind = "refresh" then
      if let .error cause ← Syncing.refreshFrom ids call.chain then
        return ([seen], .error (.relay cause))
    let (more, result) ← handleEvents ids call rest
    return (seen :: more, result)

/-- Handles one batch. -/
def handleBatch (ids : Pair ChainId) (call : HandlerCall) : Syncing Handled := do
  let (events, result) ← handleEvents ids call call.batch.events
  let cache ← get
  return {
    chain := ids.get call.chain
    counterparty := ids.get call.counterparty
    batch := call.batch
    events := events
    latestHeader := (cache.get? (ids.get call.chain)).map Header.height
    result := result }

end ChannelRelay.Simulation
