import ChannelRelay.Backoff
import ChannelRelay.Batch
import ChannelRelay.Handshake.Error
import ChannelRelay.Handshake.Table
import ChannelRelay.HeaderCache

/-!
# One step of the handshake

A step looks at both ends of the channel at the heights of the chains' latest headers,
looks again at the chains' latest heights, and, if nothing has moved in between, builds
the messages of the step that the two states call for.
-/

namespace ChannelRelay.Handshake

/-- Why the update headers could not be had. -/
inductive SyncFailure where
  | setup (e : RelayError)
  | refresh (e : RelayError)
  deriving DecidableEq, Repr

/-- The delays between the attempts of a header sync: one less than attempts. -/
def syncBackoff (config : HeaderSyncConfig) : Backoff where
  growth := .constant config.retryDelay
  ceiling := config.maxRetryDelay
  retries := config.maxAttempts.toNat - 1

/-- One attempt to get the update headers of both chains. From the second attempt on the
latest headers are fetched anew; a failure to do so ends the attempts. -/
def syncAttempt (ids : Pair ChainId) (index : Nat) :
    Syncing (Attempt SyncFailure (Pair (List Header))) := do
  if 1 < index then
    if let .error e ← Syncing.refresh ids then
      return .failure (.refresh e)
  match ← (← get).headersForBoth ids |>.run with
  | .ok headers => return .success headers
  | .error e => return .again (.setup e)

def syncError (given : GivenUp SyncFailure) : HandshakeError :=
  match given.error with
  | .refresh e => .headerRefresh e
  | .setup e => .maxRetry "failed to build update headers" given.tries given.totalDelay e

/-- The update headers of both chains, with the cache refreshed between attempts. -/
def updateHeaders (ids : Pair ChainId) (config : HeaderSyncConfig) :
    Syncing (Except HandshakeError (Pair (List Header))) := do
  return (← retry (syncBackoff config) (syncAttempt ids)).mapError syncError

/-- Both ends of the channel, each at a height of its own chain. -/
def queryChannels (heights : Pair Height) : Relay RelayError (Pair ProvenChannel) := do
  let src : ProvenChannel ← call .src (.channel heights.src)
  let dst : ProvenChannel ← call .dst (.channel heights.dst)
  return ⟨src, dst⟩

/-- Both ends of the channel at the latest heights of their chains. -/
def queryLatestChannels : Relay RelayError (Pair ProvenChannel) := do
  let src : Height ← call .src .latestHeight
  let dst : Height ← call .dst .latestHeight
  queryChannels ⟨src, dst⟩

/-- Whether both observed states are still those of the latest heights. -/
def checkFinality (observed : Pair ProvenChannel) : Relay HandshakeError Bool :=
  Relay.wrapError .query do
    let latest ← queryLatestChannels
    return observed.src.state == latest.src.state && observed.dst.state == latest.dst.state

/-- The handshake message itself, built by the chain that acts. -/
def handshakeMessage (action : StepAction) (order : ChannelOrder) (counterparty : PathEnd)
    (seen : ProvenChannel) (signer : Signer) : Relay RelayError Message :=
  match action.message with
  | .openInit => call action.side (.openInit order counterparty signer)
  | .openTry => call action.side (.openTry order counterparty seen signer)
  | .openAck => call action.side (.openAck counterparty seen signer)
  | .openConfirm => call action.side (.openConfirm seen signer)

/-- The messages for the chain that acts: the updates of its client, if the step asks for
them and any header is missing there, then the handshake message. -/
def stepMessages (action : StepAction) (order : ChannelOrder) (counterparty : PathEnd)
    (seen : ProvenChannel) (headers : List Header) : Relay RelayError (List Message) := do
  let signer : Signer ← call action.side .signer
  let updates : List Message ←
    if action.updateClient && !headers.isEmpty then
      call action.side (.updateClient headers signer)
    else
      pure []
  let message : Message ← handshakeMessage action order counterparty seen signer
  return updates ++ [message]

/-- The batch of a step: the acting chain gets messages about the other end, as observed. -/
def stepBatch (action : StepAction) (order : ChannelOrder) (paths : Pair PathEnd)
    (observed : Pair ProvenChannel) (headers : Pair (List Header)) :
    Relay RelayError Batch := do
  let other := action.side.other
  let messages ← stepMessages action order (paths.get other) (observed.get other)
    (headers.get other)
  return {
    messages := .seen action.side messages []
    last := action.last
    trackingId := action.message.text }

/-- The heights to query the chains at. -/
def pinnedHeights (cache : HeaderCache) (ids : Pair ChainId) :
    Except RelayError (Pair Height) := do
  let src ← cache.queryContext ids.src
  let dst ← cache.queryContext ids.dst
  return ⟨src.height, dst.height⟩

/-- The update headers for both chains, and the cache they were built from. -/
def syncedHeaders (ids : Pair ChainId) (config : HeaderSyncConfig) :
    Relay HandshakeError (Pair (List Header) × HeaderCache) := do
  let cache ← Relay.wrapError .headerRefresh (HeaderCache.synced ids)
  ExceptT.mk do
    let (result, cache) ← (updateHeaders ids config).run cache
    return result.map (·, cache)

/-- What to submit next. The batch is empty while an end is still changing. -/
def step (parties : Pair Party) (order : ChannelOrder) (config : HeaderSyncConfig) :
    Relay HandshakeError Batch := do
  let paths ← Relay.ofExcept ((validatePaths parties).mapError .invalidPath)
  let ids := parties.map Party.id
  let (headers, cache) ← syncedHeaders ids config
  let heights ← Relay.ofExcept ((pinnedHeights cache ids).mapError .relay)
  let observed ← Relay.wrapError .query (queryChannels heights)
  if !(← checkFinality observed) then
    return .empty
  match nextStep (observed.map ProvenChannel.state) with
  | none => throw (.unexpectedStates observed.src.state observed.dst.state)
  | some action => Relay.wrapError .relay (stepBatch action order paths observed headers)

end ChannelRelay.Handshake
