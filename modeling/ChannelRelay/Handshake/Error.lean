import ChannelRelay.Config
import ChannelRelay.Path

/-!
# How a handshake can fail
-/

namespace ChannelRelay

/-- What a report says about one end of a channel. -/
structure ChannelAddress where
  chainId : ChainId
  channelId : ChannelId
  portId : PortId
  deriving DecidableEq, Repr

def PathEnd.address (p : PathEnd) : ChannelAddress := ⟨p.chainId, p.channelId, p.portId⟩

def ChannelAddress.text (a : ChannelAddress) : String :=
  s!"[{a.chainId}]chan\x7b{a.channelId}\x7dport\x7b{a.portId}\x7d"

inductive HandshakeError where
  | relay (cause : RelayError)
  | invalidPath (cause : RelayError)
  | invalidConfig (cause : ConfigError)
  | maxRetry (description : String) (tries : Nat) (totalDelay : Duration) (cause : RelayError)
  | headerRefresh (cause : RelayError)
  | query (cause : RelayError)
  | unexpectedStates (src dst : ChannelState)
  | failed (ends : Pair ChannelAddress) (failures : UInt64)
  deriving DecidableEq, Repr

namespace HandshakeError

instance : Failure HandshakeError where
  texts
    | relay cause => "relayer error" :: Failure.texts cause
    | invalidPath cause => "invalid path configuration" :: Failure.texts cause
    | invalidConfig cause => "invalid relayer configuration" :: Failure.texts cause
    | maxRetry description tries totalDelay cause =>
      (s!"error after maximum retry of {tries} and total delay of {totalDelay.seconds}s: " ++
        description) :: Failure.texts cause
    | headerRefresh cause => "failed to refresh the latest headers" :: Failure.texts cause
    | query cause => "failed to query the channel ends" :: Failure.texts cause
    | unexpectedStates src dst =>
      [s!"unexpected channel states {src} <=> {dst}: no handshake step leads from this pair"]
    | failed ends failures =>
      [s!"channel handshake failed after {failures} consecutive failures: " ++
        s!"{ends.src.text} -> {ends.dst.text}"]

/-- Whether no later step can get the handshake going again. -/
def isFatal : HandshakeError → Bool
  | unexpectedStates .. => true
  | _ => false

end HandshakeError

end ChannelRelay
