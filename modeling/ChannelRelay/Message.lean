import ChannelRelay.Bytes
import ChannelRelay.Height

/-!
# Messages, headers and transactions

A message is an opaque value with the URL of its type. A header of a chain is carried
as a message and known by its height. A transaction is a list of messages under the
tracking id of the operation that made them.
-/

namespace ChannelRelay

structure Message where
  typeUrl : String
  value : Bytes
  deriving DecidableEq

namespace Message

/-- The message whose value is the UTF-8 text `value`. -/
def ofText (typeUrl value : String) : Message := ⟨typeUrl, Bytes.ofText value⟩

/-- Bytes of `n` written in groups of seven bits. -/
def varintLength (n : Nat) : Nat := if n < 128 then 1 else 1 + varintLength (n / 128)
termination_by n

/-- Bytes of a length-delimited field with `n` bytes of content: tag, length and content.
An empty field is left out. -/
def fieldLength (n : Nat) : Nat := if n = 0 then 0 else 1 + varintLength n + n

/-- The size of the message in a transaction. -/
def encodedLength (m : Message) : Nat :=
  fieldLength m.typeUrl.utf8ByteSize + fieldLength m.value.length

/-- The type of a message that brings a header to the client of the other chain. -/
def updateClientUrl : String := "/ibc.core.client.v1.MsgUpdateClient"

end Message

/-- A light-client header. -/
structure Header where
  height : Height
  raw : Message
  deriving DecidableEq

def Header.text (h : Header) : String := h.raw.typeUrl ++ "@" ++ h.height.text

/-- Tells the transactions of one operation from those of another. Ids drawn fresh are
numbered; two draws differ. -/
inductive TrackingId where
  | fresh (serial : Nat)
  | named (name : String)
  deriving DecidableEq, Repr

structure Transaction where
  messages : List Message
  trackingId : TrackingId
  deriving DecidableEq

end ChannelRelay
