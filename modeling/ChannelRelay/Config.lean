import ChannelRelay.Duration
import ChannelRelay.Failure

/-!
# Configuration

Bounds and delays of the relayer, in four sections. Every field has a default. Four
of them must not be zero, which `Config.validate` checks in the order of the sections.
-/

namespace ChannelRelay

/-- Bounds of the handshake. -/
structure HandshakeConfig where
  /-- So many failed submissions in a row end the handshake. -/
  maxFailures : UInt64 := 3
  /-- How long to wait after a failed submission. -/
  failureCooldown : Duration := { nanos := 5000000000 }
  deriving DecidableEq, Repr

/-- Bounds on the attempts to build update headers. -/
structure HeaderSyncConfig where
  /-- All attempts, the first included. -/
  maxAttempts : UInt32 := 5
  retryDelay : Duration := { nanos := 400000000 }
  maxRetryDelay : Duration := { nanos := 5000000000 }
  deriving DecidableEq, Repr

/-- Bounds on one transaction. -/
structure TxConfig where
  maxMsgNum : UInt64 := 30
  /-- In bytes. -/
  maxTxSize : UInt64 := 2097152
  deriving DecidableEq, Repr

structure EventListenerConfig where
  pollInterval : Duration := { nanos := 100000000 }
  deriving DecidableEq, Repr

structure Config where
  handshake : HandshakeConfig := {}
  headerSync : HeaderSyncConfig := {}
  tx : TxConfig := {}
  eventListener : EventListenerConfig := {}
  deriving DecidableEq, Repr

instance : Inhabited Config := ⟨{}⟩

inductive ConfigError where
  | io
  | decode
  | encode
  | invalidValue (field reason : String)
  deriving DecidableEq, Repr

instance : Failure ConfigError where
  texts
    | .io => ["config I/O error"]
    | .decode | .encode => ["invalid configuration"]
    | .invalidValue field reason => [s!"invalid value for `{field}`: {reason}"]

/-- Checks the values that their types alone do not rule out. -/
def Config.validate (c : Config) : Except ConfigError Unit :=
  if c.handshake.maxFailures = 0 then
    .error (.invalidValue "handshake.max_failures" "must be at least 1")
  else if c.headerSync.maxAttempts = 0 then
    .error (.invalidValue "header_sync.max_attempts" "must be at least 1")
  else if c.tx.maxMsgNum = 0 then
    .error (.invalidValue "tx.max_msg_num" "must be at least 1")
  else if c.tx.maxTxSize = 0 then
    .error (.invalidValue "tx.max_tx_size" "must be at least 1 byte")
  else
    .ok ()

end ChannelRelay
