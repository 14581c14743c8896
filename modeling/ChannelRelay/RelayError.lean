import ChannelRelay.ChainId
import ChannelRelay.Height

/-!
# What can go wrong between the relayer and a chain
-/

namespace ChannelRelay

inductive RelayError where
  | query (chain : ChainId) (what reason : String)
  | sendFailed (chain : ChainId) (reason : String)
  | headerConstruction (chain : ChainId) (reason : String)
  | nonMonotonicHeaders (chain : ChainId) (previous next : Height)
  | missingHeader (chain : ChainId)
  | missingPath (chain : ChainId)
  | pathChainMismatch (expected actual : ChainId)
  | identicalChains (chain : ChainId)
  | subscription (chain : ChainId)
  deriving DecidableEq, Repr

namespace RelayError

def text : RelayError → String
  | query chain what reason => s!"failed to query {what} on chain {chain}: {reason}"
  | sendFailed chain reason => s!"transaction rejected by chain {chain}: {reason}"
  | headerConstruction chain reason =>
    s!"failed to build update headers for chain {chain}: {reason}"
  | nonMonotonicHeaders chain previous next =>
    s!"update headers for chain {chain} are not strictly increasing: {previous} followed by {next}"
  | missingHeader chain => s!"no latest header known for chain {chain}"
  | missingPath chain => s!"no path end configured for chain {chain}"
  | pathChainMismatch expected actual =>
    s!"path end is configured for chain {actual} but was attached to chain {expected}"
  | identicalChains chain => s!"both ends of the path refer to the same chain {chain}"
  | subscription chain => s!"event subscription for chain {chain} was closed"

instance : Failure RelayError := ⟨fun e => [e.text]⟩

/-- Whether a chain rejected a transaction, as opposed to a fault on the way to it. -/
def isSendError : RelayError → Bool
  | sendFailed .. => true
  | _ => false

end RelayError

end ChannelRelay
