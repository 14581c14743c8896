import ChannelRelay.ChainCall
import ChannelRelay.Config

/-!
# Batches

The messages that one step submits to either chain. Each side is cut into transactions
that are submitted in order, up to the first that fails; the two sides do not depend on
each other.
-/

namespace ChannelRelay

/-- What became of the messages for one side. -/
inductive SendOutcome where
  | notSent
  | accepted
  | rejected
  deriving DecidableEq, Repr

def SendOutcome.text : SendOutcome → String
  | notSent => "not sent"
  | accepted => "accepted"
  | rejected => "rejected"

structure Batch where
  messages : Pair (List Message) := ⟨[], []⟩
  /-- Whether the handshake is over once this batch is accepted. -/
  last : Bool := false
  trackingId : String := "relay_msgs"
  outcomes : Pair SendOutcome := ⟨.notSent, .notSent⟩
  deriving DecidableEq

namespace Batch

def empty : Batch := {}

def isReady (b : Batch) : Bool := !b.messages.src.isEmpty || !b.messages.dst.isEmpty

/-- Something was accepted and nothing rejected. -/
def succeeded (b : Batch) : Bool :=
  (b.outcomes.src == .accepted || b.outcomes.dst == .accepted) &&
    b.outcomes.src != .rejected && b.outcomes.dst != .rejected

end Batch

/-- Messages on the way into transactions. -/
structure Cutting where
  /-- The transactions that are complete, last one first. -/
  closed : List (List Message) := []
  /-- The messages of the transaction that has been begun, last one first. -/
  current : List Message := []
  /-- The number of those messages. -/
  count : Nat := 0
  /-- Their size in bytes. -/
  size : Nat := 0

namespace Cutting

/-- A transaction is closed by the message that brings it to `maxNum` messages or to
`maxSize` bytes. -/
def add (maxNum maxSize : Nat) (c : Cutting) (m : Message) : Cutting :=
  let count := c.count + 1
  let size := c.size + m.encodedLength
  if maxNum ≤ count || maxSize ≤ size then
    { closed := (m :: c.current).reverse :: c.closed }
  else
    { c with current := m :: c.current, count, size }

/-- The transactions, the one that has been begun included. -/
def transactions (c : Cutting) : List (List Message) :=
  (if c.current.isEmpty then c.closed else c.current.reverse :: c.closed).reverse

end Cutting

/-- Cuts messages into transactions. -/
def splitMessages (maxNum maxSize : Nat) (messages : List Message) : List (List Message) :=
  (messages.foldl (Cutting.add maxNum maxSize) {}).transactions

/-- Submits transactions until one fails. The answer tells whether all were accepted. -/
def submitAll (s : Side) (trackingId : TrackingId) :
    List (List Message) → Dialogue Chains Bool
  | [] => return true
  | messages :: rest => do
    match ← Dialogue.request (I := Chains) (s, .submit ⟨messages, trackingId⟩) with
    | .ok () => submitAll s trackingId rest
    | .error _ => return false

def sendSide (s : Side) (messages : List Message) (trackingId : String) (config : TxConfig) :
    Dialogue Chains SendOutcome := do
  if messages.isEmpty then
    return .notSent
  let transactions := splitMessages config.maxMsgNum.toNat config.maxTxSize.toNat messages
  if ← submitAll s (.named trackingId) transactions then
    return .accepted
  return .rejected

/-- Submits the batch, source first, and notes what became of it. -/
def Batch.send (b : Batch) (config : TxConfig) : Dialogue Chains Batch := do
  let src ← sendSide .src b.messages.src b.trackingId config
  let dst ← sendSide .dst b.messages.dst b.trackingId config
  return { b with outcomes := ⟨src, dst⟩ }

end ChannelRelay
