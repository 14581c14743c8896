import ChannelRelay.HeaderCache

/-!
# Starting a relaying strategy

A strategy decides which packets and acknowledgements are relayed. The relayer starts it:
it fetches the latest headers of both chains, starts a listener on the events of each,
and lets the strategy relay what is pending. If that fails, the listeners that run
already are shut down, and have ended before the failure is reported. If it succeeds,
both listeners go on, and the `RelayHandle` is what they are shut down with.
-/

namespace ChannelRelay

inductive StrategyError where
  | relay (cause : RelayError)
  deriving DecidableEq, Repr

instance : Failure StrategyError where
  texts | .relay cause => "relayer error" :: Failure.texts cause

/-- What a strategy relays. -/
inductive Backlog where
  | packets
  | acknowledgements
  deriving DecidableEq, Repr

namespace Strategy

/-- What the relayer does and asks while it starts a strategy. -/
inductive Request where
  | chain (s : Side) (c : ChainCall)
  /-- Put the headers where the strategy and the listeners share them. -/
  | share (cache : HeaderCache)
  /-- Start the listener on the subscription to `chain`. -/
  | listen (chain counterparty : Side)
  /-- Ask the strategy what is still to be relayed from each side. -/
  | pending (b : Backlog)
  /-- Have the strategy relay it. -/
  | relay (b : Backlog) (sequences : Pair (List Sequence))
  /-- Send a listener the shutdown signal. -/
  | signal (s : Side)
  /-- Give up the means to signal a listener. -/
  | release (s : Side)
  /-- Wait until a listener has ended. -/
  | join (s : Side)
  /-- Ask whether a listener has stopped. -/
  | isStopped (s : Side)
  deriving DecidableEq

end Strategy

/-- A strategy, the two chains, and the listeners that are started for them. -/
abbrev Start : Interface where
  Request := Strategy.Request
  Reply
    | .chain _ c => Except RelayError c.Result
    | .pending _ => Except StrategyError (Pair (List Sequence))
    | .relay .. => Except StrategyError Unit
    | .isStopped _ => Bool
    | .share _ | .listen .. | .signal _ | .release _ | .join _ => Unit

namespace Strategy

/-- One request. -/
def request (q : Request) : Dialogue Start (Start.Reply q) := Dialogue.request (I := Start) q

/-- A dialogue with the chains alone. -/
def onChains {α : Type} : Dialogue Chains α → Dialogue Start α
  | .done a => .done a
  | .ask q next => .ask (I := Start) (.chain q.1 q.2) fun r => onChains (next r)

/-- Shuts a listener down and waits for its end. -/
def shutdownAndWait (s : Side) : Dialogue Start Unit := do
  request (.signal s)
  request (.join s)
  request (.signal s)
  request (.release s)

/-- Lets go of a listener, which shuts it down and waits for its end. -/
def drop (s : Side) : Dialogue Start Unit := do
  request (.signal s)
  request (.release s)
  request (.join s)

end Strategy

namespace RelayHandle

open Strategy

/-- Signals both listeners and waits for neither. -/
def shutdown : Dialogue Start Unit := do
  request (.signal .src)
  request (.signal .dst)

/-- Whether both listeners have stopped. -/
def isStopped : Dialogue Start Bool := do
  if ← request (.isStopped .src) then
    request (.isStopped .dst)
  else
    return false

/-- Shuts the listeners down, one after the other. -/
def shutdownAndWait : Dialogue Start Unit := do
  Strategy.shutdownAndWait .src
  Strategy.shutdownAndWait .dst

/-- Lets go of the handle. Both listeners are signalled before either is waited for. -/
def drop : Dialogue Start Unit := do
  shutdown
  Strategy.drop .src
  Strategy.drop .dst

end RelayHandle

namespace Strategy

/-- The latest headers of both chains. -/
def fetchHeaders (ids : Pair ChainId) : ExceptT StrategyError (Dialogue Start) HeaderCache :=
  ExceptT.mk do
    return (← onChains (HeaderCache.synced ids).run).mapError StrategyError.relay

def subscribe (chain : Side) : ExceptT StrategyError (Dialogue Start) Unit :=
  ExceptT.mk do
    let subscribed : Except RelayError Unit ← request (.chain chain .subscribe)
    return subscribed.mapError StrategyError.relay

/-- Subscribes to the events of `chain` and starts their listener. -/
def startListener (chain counterparty : Side) :
    ExceptT StrategyError (Dialogue Start) Unit := do
  subscribe chain
  request (.listen chain counterparty)

/-- Has everything of one kind relayed that is pending. -/
def relayPending (b : Backlog) : ExceptT StrategyError (Dialogue Start) Unit := do
  let sequences : Pair (List Sequence) ← ExceptT.mk (request (.pending b))
  ExceptT.mk (request (.relay b sequences))

/-- Relays what is pending when the strategy starts: packets, then acknowledgements. -/
def firstPass : ExceptT StrategyError (Dialogue Start) Unit := do
  relayPending .packets
  relayPending .acknowledgements

/-- Runs `d`; if it fails, `undo` follows before the failure is reported. -/
def orElseUndo {α : Type} (d : ExceptT StrategyError (Dialogue Start) α)
    (undo : Dialogue Start Unit) : ExceptT StrategyError (Dialogue Start) α :=
  ExceptT.mk do
    match ← d.run with
    | .ok a => return .ok a
    | .error e =>
      undo
      return .error e

/-- Starts the strategy. On success both listeners go on running. -/
def start (ids : Pair ChainId) : ExceptT StrategyError (Dialogue Start) Unit := do
  let cache ← fetchHeaders ids
  request (.share cache)
  startListener .src .dst
  orElseUndo (startListener .dst .src) (drop .src)
  orElseUndo firstPass RelayHandle.drop

end Strategy

end ChannelRelay
