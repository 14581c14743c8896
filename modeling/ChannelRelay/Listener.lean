import ChannelRelay.Event
import ChannelRelay.Side
import ChannelRelay.Task

/-!
# Event listeners

A subscription holds the batches of events that its chain has emitted, in order, until
they are taken. A listener is a task whose every step takes the next batch and has it
handled, or waits in vain for a while. The failure of a handler is ignored. The listener
ends when it is shut down, or when the subscription is closed and nothing is left in it.
-/

namespace ChannelRelay

/-- The batches on the way from a chain to the listener on it. -/
structure Subscription where
  /-- Emitted and not yet taken, oldest first. -/
  pending : List EventBatch := []
  /-- Whether the chain emits no more. -/
  closed : Bool := false
  deriving DecidableEq, Repr

namespace Subscription

def emit? (sub : Subscription) (batch : EventBatch) : Option Subscription :=
  if sub.closed then none else some { sub with pending := sub.pending ++ [batch] }

def close (sub : Subscription) : Subscription := { sub with closed := true }

end Subscription

/-- One call of the handler of events: the chain that emitted the batch, the other chain, and
the batch. -/
structure HandlerCall where
  chain : Side
  counterparty : Side
  batch : EventBatch
  deriving DecidableEq, Repr

namespace Listener

inductive Event where
  /-- The chain emits a batch. -/
  | emit (batch : EventBatch)
  /-- The chain closes the subscription. -/
  | close
  /-- The listener takes the next batch and calls the handler. -/
  | handle (call : HandlerCall)
  | handled (succeeded : Bool)
  /-- The wait for a batch is over. One may come at that very moment. -/
  | timeout
  /-- The subscription turned out to be closed, with nothing left in it. -/
  | disconnect
  /-- An event of the task. The outcome of a step follows from the subscription and the
  handler and is no such event. -/
  | task (e : Task.ThreadEvent)
  deriving DecidableEq, Repr

end Listener

structure Listener where
  /-- The chain it listens to. -/
  chain : Side
  counterparty : Side
  subscription : Subscription := {}
  task : Task := {}
  /-- The call that has not come back yet. -/
  handling : Option HandlerCall := none
  deriving DecidableEq, Repr

namespace Listener

/-- The call by which the listener has a batch handled. -/
def callFor (l : Listener) (batch : EventBatch) : HandlerCall := ⟨l.chain, l.counterparty, batch⟩

/-- The listener after its step ended. -/
def finish? (l : Listener) (outcome : StepOutcome) : Option Listener := do
  return { l with task := ← l.task.advance? (.finish outcome) }

/-- Whether a step has begun that has not taken a batch. -/
def isWaiting (l : Listener) : Bool := l.task.phase == .stepping && l.handling.isNone

/-- The listener after an event, if the event can happen. -/
def next? (l : Listener) : Event → Option Listener
  | .emit batch => do return { l with subscription := ← l.subscription.emit? batch }
  | .close => some { l with subscription := l.subscription.close }
  | .handle call =>
    match l.subscription.pending with
    | [] => none
    | batch :: pending =>
      if l.isWaiting ∧ call = l.callFor batch then
        some { l with subscription := { l.subscription with pending }, handling := some call }
      else none
  | .handled succeeded =>
    if l.handling.isSome then
      { l with handling := none }.finish? (if succeeded then .proceed else .ignored)
    else none
  | .timeout => if l.isWaiting then l.finish? .proceed else none
  | .disconnect =>
    if l.isWaiting ∧ l.subscription.pending = [] ∧ l.subscription.closed then
      l.finish? .fatal
    else none
  | .task (.finish _) => none
  | .task e => do return { l with task := ← l.task.advance? e }

/-- The listener after something was done with its handle, if that can happen. -/
def touch? (l : Listener) (e : Task.HandleEvent) : Option Listener := do
  return { l with task := ← l.task.touch? e }

def run? (l : Listener) : List Event → Option Listener
  | [] => some l
  | e :: rest => (l.next? e).bind fun l => l.run? rest

end Listener

end ChannelRelay
