import ChannelRelay.Channel
import ChannelRelay.Dialogue
import ChannelRelay.Message
import ChannelRelay.Path
import ChannelRelay.Signer

/-!
# Calls to a chain

Everything the relayer asks of a chain. A chain answers each call with a result or with
an error, and may answer the same call differently every time. The interface `Chains`
puts each call to one side of a path.
-/

namespace ChannelRelay

inductive ChainCall where
  /-- Deliver the events of the chain from now on. -/
  | subscribe
  /-- Submit one transaction and wait until it is committed. -/
  | submit (tx : Transaction)
  | signer
  | latestHeight
  | latestHeader
  /-- The height of the other chain that the client on this chain trusts, as of `height`. -/
  | clientHeight (height : Height)
  /-- The headers that bring a client of this chain from `trusted` to `target`. -/
  | headersForUpdate (trusted : Height) (target : Header)
  /-- The end of this chain's channel, as of `height`. -/
  | channel (height : Height)
  | openInit (order : ChannelOrder) (counterparty : PathEnd) (signer : Signer)
  | openTry (order : ChannelOrder) (counterparty : PathEnd) (seen : ProvenChannel)
      (signer : Signer)
  | openAck (counterparty : PathEnd) (seen : ProvenChannel) (signer : Signer)
  | openConfirm (seen : ProvenChannel) (signer : Signer)
  /-- One message per header, for the client of the other chain on this chain. -/
  | updateClient (headers : List Header) (signer : Signer)
  deriving DecidableEq

namespace ChainCall

/-- What a chain returns when the call succeeds. -/
def Result : ChainCall → Type
  | subscribe | submit _ => Unit
  | signer => Signer
  | latestHeight | clientHeight _ => Height
  | latestHeader => Header
  | headersForUpdate .. => List Header
  | channel _ => ProvenChannel
  | openInit .. | openTry .. | openAck .. | openConfirm .. => Message
  | updateClient .. => List Message

end ChainCall

/-- The two chains of a path. -/
abbrev Chains : Interface where
  Request := Side × ChainCall
  Reply q := Except RelayError q.2.Result

/-- A dialogue with the two chains that ends with a result or with a failure `ε`. -/
abbrev Relay (ε α : Type) := ExceptT ε (Dialogue Chains) α

/-- One call to one side. Its error is the failure. -/
def call (s : Side) (c : ChainCall) : Relay RelayError c.Result :=
  ExceptT.mk (Dialogue.request (I := Chains) (s, c))

/-- A result that needs no call. -/
def Relay.ofExcept {ε α : Type} (r : Except ε α) : Relay ε α := ExceptT.mk (pure r)

/-- A dialogue whose failures are reported as failures of another kind. -/
def Relay.wrapError {ε δ α : Type} (wrap : ε → δ) (d : Relay ε α) : Relay δ α :=
  ExceptT.mk do return (← ExceptT.run d).mapError wrap

end ChannelRelay
