import ChannelRelay.Bytes
import ChannelRelay.Height
import ChannelRelay.Identifier

/-!
# Channel ends

The state a chain keeps for its end of a channel, the proof that comes with it when
it is queried, and the vocabulary of the opening handshake.
-/

namespace ChannelRelay

/-- How far an end has come. A channel that does not exist is `uninitialized`. -/
inductive ChannelState where
  | uninitialized
  | init
  | tryOpen
  | opened
  | closed
  deriving DecidableEq, Repr

namespace ChannelState

def text : ChannelState → String
  | uninitialized => "UNINITIALIZED"
  | init => "INIT"
  | tryOpen => "TRYOPEN"
  | opened => "OPEN"
  | closed => "CLOSED"

instance : ToString ChannelState := ⟨text⟩

def rank : ChannelState → Nat
  | uninitialized => 0
  | init => 1
  | tryOpen => 2
  | opened => 3
  | closed => 4

/-- The first state is the second or lies before it. -/
def atMost (a b : ChannelState) : Bool := a.rank ≤ b.rank

end ChannelState

/-- Whether the packets of a channel arrive in the order they were sent. -/
inductive ChannelOrder where
  | unordered
  | ordered
  deriving DecidableEq, Repr

namespace ChannelOrder

def text : ChannelOrder → String
  | unordered => "ORDER_UNORDERED"
  | ordered => "ORDER_ORDERED"

instance : ToString ChannelOrder := ⟨text⟩

def number : ChannelOrder → Nat
  | unordered => 1
  | ordered => 2

def ofBool (ordered : Bool) : ChannelOrder := if ordered then .ordered else .unordered

instance : Inhabited ChannelOrder := ⟨.unordered⟩

end ChannelOrder

/-- The version of the application protocol spoken over a channel. -/
structure ChannelVersion where
  text : String
  deriving DecidableEq, Repr

instance : Inhabited ChannelVersion := ⟨⟨""⟩⟩

/-- The version of the token transfer application. -/
def ChannelVersion.ics20 : ChannelVersion := ⟨"ics20-1"⟩

/-- The other end, as one end of a channel names it. -/
structure Counterparty where
  portId : PortId
  channelId : Option ChannelId
  deriving DecidableEq, Repr

instance : Inhabited Counterparty := ⟨⟨PortId.initial, none⟩⟩

structure ChannelEnd where
  state : ChannelState
  order : ChannelOrder
  remote : Counterparty
  connectionHops : List ConnectionId
  version : ChannelVersion
  deriving DecidableEq, Repr

instance : Inhabited ChannelEnd := ⟨⟨.uninitialized, default, default, [], default⟩⟩

/-- A channel end as a query returned it, with the proof of its existence and the
height that proof was made at. -/
structure ProvenChannel where
  channel : ChannelEnd
  proof : Bytes
  proofHeight : Option Height
  deriving DecidableEq

instance : Inhabited ProvenChannel := ⟨⟨default, [], none⟩⟩

def ProvenChannel.state (c : ProvenChannel) : ChannelState := c.channel.state

/-- The number of a packet on its channel. -/
abbrev Sequence := UInt64

def Sequence.sort (seqs : List Sequence) : List Sequence := seqs.mergeSort fun a b => decide (a ≤ b)

/-- The four messages of the opening handshake. -/
inductive HandshakeMessage where
  | openInit
  | openTry
  | openAck
  | openConfirm
  deriving DecidableEq, Repr

namespace HandshakeMessage

def all : List HandshakeMessage := [openInit, openTry, openAck, openConfirm]

def typeUrl : HandshakeMessage → String
  | openInit => "/ibc.core.channel.v1.MsgChannelOpenInit"
  | openTry => "/ibc.core.channel.v1.MsgChannelOpenTry"
  | openAck => "/ibc.core.channel.v1.MsgChannelOpenAck"
  | openConfirm => "/ibc.core.channel.v1.MsgChannelOpenConfirm"

def text : HandshakeMessage → String
  | openInit => "ChannelOpenInit"
  | openTry => "ChannelOpenTry"
  | openAck => "ChannelOpenAck"
  | openConfirm => "ChannelOpenConfirm"

instance : ToString HandshakeMessage := ⟨text⟩

end HandshakeMessage

end ChannelRelay
