import ChannelRelay.Config
import ChannelRelay.Document.Reader
import ChannelRelay.Document.Writer
import ChannelRelay.Duration.Text

/-!
# Configurations as documents

A document gives any of the settings, by section and name; the others stay as they
are. A section is a table, or an array of its settings in order. A name that is
no setting makes the document no configuration. The entries of a document are read in
its own order. A configuration is written with all its settings.

How a document is spelled, and how a duration is, are the concern of `Document` and
`Duration`, which stand for the libraries of these two formats.
-/

namespace ChannelRelay

namespace Document

/-- An integer below `bound` that is not negative. -/
def natural? (bound : Nat) : Value → Option Nat
  | .integer n => if 0 ≤ n ∧ n < bound then some n.toNat else none
  | _ => none

def word64 (v : Value) : Reading UInt64 := .ofOption ((natural? (UInt64.size) v).map Nat.toUInt64)

def word32 (v : Value) : Reading UInt32 := .ofOption ((natural? (UInt32.size) v).map Nat.toUInt32)

def duration : Value → Reading Duration
  | .text s => Duration.parse s
  | _ => throw .unreadable

/-- A setting by its name, with the change that a value makes to what is being configured. -/
structure Setting (α : Type) where
  name : String
  assign : α → Value → Reading α

/-- The setting that is read by `read` and put in its place by `put`. -/
def Setting.of {α β : Type} (name : String) (read : Value → Reading β) (put : α → β → α) :
    Setting α :=
  ⟨name, fun a v => (read v).map (put a)⟩

/-- Reads one entry of a table. -/
def readEntry {α : Type} (settings : List (Setting α)) (a : α) (e : String × Value) :
    Reading α :=
  match settings.find? fun setting => setting.name == e.1 with
  | some setting => setting.assign a e.2
  | none => throw .unreadable

/-- Reads a section: a table without other entries, or an array, whose surplus items are
ignored. What it does not give stays as in `base`. -/
def readSection {α : Type} (settings : List (Setting α)) (base : α) : Value → Reading α
  | .table entries => entries.foldlM (readEntry settings) base
  | .array items =>
    (settings.zip items).foldlM (fun a given => given.1.assign a given.2) base
  | _ => throw .unreadable

end Document

open Document

def HandshakeConfig.settings : List (Setting HandshakeConfig) := [
  .of "max_failures" word64 fun c maxFailures => { c with maxFailures },
  .of "failure_cooldown" duration fun c failureCooldown => { c with failureCooldown }]

def HeaderSyncConfig.settings : List (Setting HeaderSyncConfig) := [
  .of "max_attempts" word32 fun c maxAttempts => { c with maxAttempts },
  .of "retry_delay" duration fun c retryDelay => { c with retryDelay },
  .of "max_retry_delay" duration fun c maxRetryDelay => { c with maxRetryDelay }]

def TxConfig.settings : List (Setting TxConfig) := [
  .of "max_msg_num" word64 fun c maxMsgNum => { c with maxMsgNum },
  .of "max_tx_size" word64 fun c maxTxSize => { c with maxTxSize }]

def EventListenerConfig.settings : List (Setting EventListenerConfig) := [
  .of "poll_interval" duration fun c pollInterval => { c with pollInterval }]

namespace Config

def sections : List (Setting Config) := [
  ⟨"handshake", fun c v => do
    return { c with handshake := ← readSection HandshakeConfig.settings c.handshake v }⟩,
  ⟨"header_sync", fun c v => do
    return { c with headerSync := ← readSection HeaderSyncConfig.settings c.headerSync v }⟩,
  ⟨"tx", fun c v => do return { c with tx := ← readSection TxConfig.settings c.tx v }⟩,
  ⟨"event_listener", fun c v => do
    return {
      c with eventListener := ← readSection EventListenerConfig.settings c.eventListener v }⟩]

/-- The configuration that a document makes of `base`. -/
def ofDocument (base : Config) (entries : Entries Value) : Reading Config :=
  entries.foldlM (readEntry sections) base

/-- All settings of a configuration. -/
def toSections (c : Config) : List Section := [
  ⟨"handshake", [
    ("max_failures", .integer c.handshake.maxFailures.toNat),
    ("failure_cooldown", .text c.handshake.failureCooldown.text)]⟩,
  ⟨"header_sync", [
    ("max_attempts", .integer c.headerSync.maxAttempts.toNat),
    ("retry_delay", .text c.headerSync.retryDelay.text),
    ("max_retry_delay", .text c.headerSync.maxRetryDelay.text)]⟩,
  ⟨"tx", [
    ("max_msg_num", .integer c.tx.maxMsgNum.toNat),
    ("max_tx_size", .integer c.tx.maxTxSize.toNat)]⟩,
  ⟨"event_listener", [
    ("poll_interval", .text c.eventListener.pollInterval.text)]⟩]

end Config

end ChannelRelay
