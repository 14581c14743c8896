import ChannelRelay.Channel
import ChannelRelay.Side

/-!
# The steps of the opening handshake

From the states of the two ends follows who acts next and with which message. Pairs of
states that the handshake never goes through have no step.
-/

namespace ChannelRelay

structure StepAction where
  /-- The side whose chain gets the message. -/
  side : Side
  message : HandshakeMessage
  /-- Whether the client on that chain is brought up to date first. -/
  updateClient : Bool
  /-- Whether this step completes the handshake. -/
  last : Bool
  deriving DecidableEq, Repr

/-- The states a step starts from, and the step. -/
def handshakeSteps : List (Pair ChannelState × StepAction) := [
  (⟨.uninitialized, .uninitialized⟩, ⟨.src, .openInit, false, false⟩),
  (⟨.uninitialized, .init⟩, ⟨.src, .openTry, true, false⟩),
  (⟨.init, .uninitialized⟩, ⟨.dst, .openTry, true, false⟩),
  (⟨.tryOpen, .init⟩, ⟨.dst, .openAck, true, false⟩),
  (⟨.init, .tryOpen⟩, ⟨.src, .openAck, true, false⟩),
  (⟨.tryOpen, .opened⟩, ⟨.src, .openConfirm, true, true⟩),
  (⟨.opened, .tryOpen⟩, ⟨.dst, .openConfirm, true, true⟩)]

def nextStep (states : Pair ChannelState) : Option StepAction := handshakeSteps.lookup states

end ChannelRelay
