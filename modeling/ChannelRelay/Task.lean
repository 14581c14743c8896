/-!
# Background tasks

A task runs steps until one tells it to stop, or until it finds a shutdown signal. It
looks for the signal before every step. Its handle may send the signal any number of
times, ask whether the task has stopped, wait for its end, and be let go of.

The signal goes through a channel with room for one. Sending never waits: it does nothing
while a signal is pending, or after the task has ended. A task whose handle can send no
more finds that out when it looks for a signal and there is none.

`Task.next?` is the protocol between the task and its handle, one event at a time, in
whatever order the two sides act; `Task.run?` follows a list of events.
-/

namespace ChannelRelay

/-- How a step ended. -/
inductive StepOutcome where
  | proceed
  /-- An error that the task gets over. -/
  | ignored
  /-- An error that ends the task. -/
  | fatal
  | abort
  deriving DecidableEq, Repr

/-- Whether no step follows. -/
def StepOutcome.isFinal : StepOutcome → Bool
  | proceed | ignored => false
  | fatal | abort => true

namespace Task

/-- Where the task is in its loop. -/
inductive Phase where
  /-- About to look for a signal. -/
  | polling
  /-- Found no signal, and is about to begin a step. -/
  | cleared
  | stepping
  /-- Past the last step, and not yet marked as stopped. -/
  | leaving
  /-- Marked as stopped, and about to end. -/
  | stopped
  | ended
  deriving DecidableEq, Repr

/-- What the task does. -/
inductive ThreadEvent where
  /-- It looks for a signal. -/
  | poll
  /-- It begins a step. -/
  | enter
  | finish (outcome : StepOutcome)
  /-- It marks itself as stopped. -/
  | stop
  /-- It ends, and its side of the channel is closed. -/
  | exit
  deriving DecidableEq, Repr

/-- What is done with the handle of the task. -/
inductive HandleEvent where
  /-- The shutdown signal is sent. -/
  | signal
  /-- The handle is gone, and no signal can be sent any more. -/
  | release
  /-- The handle was asked whether the task has stopped, with this answer. -/
  | observe (stopped : Bool)
  /-- A wait for the end of the task is over. -/
  | joined
  deriving DecidableEq, Repr

inductive Event where
  | thread (e : ThreadEvent)
  | handle (e : HandleEvent)
  deriving DecidableEq, Repr

end Task

structure Task where
  phase : Task.Phase := .polling
  /-- A signal has been sent and not yet been found. -/
  signalled : Bool := false
  released : Bool := false
  deriving DecidableEq, Repr

namespace Task

/-- Whether the task is marked as stopped. -/
def isStopped (t : Task) : Bool := t.phase == .stopped || t.phase == .ended

/-- The task after it did something, if it can do that. -/
def advance? (t : Task) : ThreadEvent → Option Task
  | .poll =>
    if t.phase = .polling then
      if t.signalled then some { t with phase := .leaving, signalled := false }
      else if t.released then some { t with phase := .leaving }
      else some { t with phase := .cleared }
    else none
  | .enter => if t.phase = .cleared then some { t with phase := .stepping } else none
  | .finish outcome =>
    if t.phase = .stepping then
      some { t with phase := if outcome.isFinal then .leaving else .polling }
    else none
  | .stop => if t.phase = .leaving then some { t with phase := .stopped } else none
  | .exit => if t.phase = .stopped then some { t with phase := .ended } else none

/-- The task after something was done with its handle, if that can happen. -/
def touch? (t : Task) : HandleEvent → Option Task
  | .signal =>
    if t.released then none
    else if t.phase = .ended then some t
    else some { t with signalled := true }
  | .release => if t.released then none else some { t with released := true }
  | .observe stopped => if stopped = t.isStopped then some t else none
  | .joined => if t.phase = .ended then some t else none

/-- The task after an event, if the event can happen. -/
def next? (t : Task) : Event → Option Task
  | .thread e => t.advance? e
  | .handle e => t.touch? e

def run? (t : Task) : List Event → Option Task
  | [] => some t
  | e :: rest => (t.next? e).bind fun t => t.run? rest

/-- What can be done with the handle of a task. -/
inductive HandleOp where
  | shutdown
  | isStopped (answer : Bool)
  /-- Waits for the end of the task. -/
  | join
  | shutdownAndWait
  /-- Lets go of the handle, which shuts the task down and waits for its end. -/
  | drop
  deriving DecidableEq, Repr

/-- The events of an operation, in order. The ones that take the handle release it. -/
def HandleOp.events : HandleOp → List HandleEvent
  | shutdown => [.signal]
  | isStopped answer => [.observe answer]
  | join => [.joined, .signal, .release]
  | shutdownAndWait => [.signal, .joined, .signal, .release]
  | drop => [.signal, .release, .joined]

end Task

end ChannelRelay
