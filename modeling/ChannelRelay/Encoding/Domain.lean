import ChannelRelay.Encoding.Datum
import ChannelRelay.HeaderCache

/-!
# The encoded forms of domain values

Identifiers, signers and versions are their texts. The version of a chain identifier is
not written: it is read off the text again.
-/

namespace ChannelRelay

instance : Encoded ChainId where
  encode id := .text id.text
  decode d := d.text?.map ChainId.ofString

instance {kind : IdentifierKind} : Encoded (Identifier kind) where
  encode id := .text id.text
  decode d := d.text?.map Identifier.mk

instance : Encoded Signer where
  encode s := .text s.address
  decode d := d.text?.map Signer.mk

instance : Encoded ChannelVersion where
  encode v := .text v.text
  decode d := d.text?.map ChannelVersion.mk

namespace ChannelState

def all : List ChannelState := [uninitialized, init, tryOpen, opened, closed]

def name : ChannelState → String
  | uninitialized => "Uninitialized"
  | init => "Init"
  | tryOpen => "TryOpen"
  | opened => "Open"
  | closed => "Closed"

def ofName? (name : String) : Option ChannelState := all.find? (·.name == name)

end ChannelState

instance : Encoded ChannelState where
  encode s := .text s.name
  decode d := d.choice?.bind ChannelState.ofName?

namespace ChannelOrder

def name : ChannelOrder → String
  | unordered => "Unordered"
  | ordered => "Ordered"

def ofName? (name : String) : Option ChannelOrder := [unordered, ordered].find? (·.name == name)

end ChannelOrder

instance : Encoded ChannelOrder where
  encode o := .text o.name
  decode d := d.choice?.bind ChannelOrder.ofName?

instance : Encoded Height where
  encode h := .record [
    ("revision_number", encode h.revisionNumber),
    ("revision_height", encode h.revisionHeight)]
  decode d := do
    match ← d.fields? [("revision_number", .required), ("revision_height", .required)] with
    | [number, height] => return ⟨← decode number, ← decode height⟩
    | _ => none

instance : Encoded Counterparty where
  encode c := .record [("port_id", encode c.portId), ("channel_id", encode c.channelId)]
  decode d := do
    match ← d.fields? [("port_id", .required), ("channel_id", .optional)] with
    | [port, channel] => return ⟨← decode port, ← decode channel⟩
    | _ => none

instance : Encoded ChannelEnd where
  encode c := .record [
    ("state", encode c.state),
    ("ordering", encode c.order),
    ("remote", encode c.remote),
    ("connection_hops", encode c.connectionHops),
    ("version", encode c.version)]
  decode d := do
    match ← d.fields? [("state", .required), ("ordering", .required), ("remote", .required),
      ("connection_hops", .required), ("version", .required)] with
    | [state, order, remote, hops, version] =>
      return ⟨← decode state, ← decode order, ← decode remote, ← decode hops, ← decode version⟩
    | _ => none

instance : Encoded PathEnd where
  encode p := .record [
    ("chain_id", encode p.chainId),
    ("client_id", encode p.clientId),
    ("connection_id", encode p.connectionId),
    ("channel_id", encode p.channelId),
    ("port_id", encode p.portId),
    ("version", encode p.version)]
  decode d := do
    match ← d.fields? [("chain_id", .required), ("client_id", .required),
      ("connection_id", .required), ("channel_id", .required), ("port_id", .required),
      ("version", .trailing)] with
    | [chain, client, connection, channel, port, version] =>
      return ⟨← decode chain, ← decode client, ← decode connection, ← decode channel,
        ← decode port, ← decode version⟩
    | _ => none

instance : Encoded QueryContext where
  encode c := .record [("chain_id", encode c.chainId), ("height", encode c.height)]
  decode d := do
    match ← d.fields? [("chain_id", .required), ("height", .required)] with
    | [chain, height] => return ⟨← decode chain, ← decode height⟩
    | _ => none

end ChannelRelay
