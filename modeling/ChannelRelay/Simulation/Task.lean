import ChannelRelay.Task

/-!
# Running a task along a plan

A plan says how each step of a task ends. A step may also be held until it is let go on;
a shutdown may be sent while the first such step is held. After the plan every step
aborts.
-/

namespace ChannelRelay.Simulation

inductive PlannedStep where
  | ends (outcome : StepOutcome)
  | held
  deriving DecidableEq, Repr

structure TaskReport where
  steps : Nat
  stopped : Bool
  stoppedWhileHeld : Option Bool
  deriving DecidableEq, Repr

namespace TaskReport

/-- The task after events that can happen. -/
def follow (t : Task) (events : List Task.Event) : Task := (t.run? events).getD t

/-- The report on a task that has left its loop. -/
def ended (t : Task) (steps : Nat) (held : Option Bool) : TaskReport :=
  ⟨steps, (follow t [.thread .stop]).isStopped, held⟩

/-- Goes on from the top of the loop, after `steps` steps. With `shutdown`, the signal is
sent twice during the next held step. -/
def along (shutdown : Bool) (t : Task) (steps : Nat) (held : Option Bool)
    (plan : List PlannedStep) : TaskReport :=
  let polled := follow t [.thread .poll]
  if polled.phase = .leaving then
    ended polled steps held
  else
    let entered := follow polled [.thread .enter]
    match plan with
    | [] => ended (follow entered [.thread (.finish .abort)]) (steps + 1) held
    | .ends outcome :: rest =>
      let finished := follow entered [.thread (.finish outcome)]
      if outcome.isFinal then ended finished (steps + 1) held
      else along shutdown finished (steps + 1) held rest
    | .held :: rest =>
      if shutdown then
        let signalled := follow entered [.handle .signal, .handle .signal]
        along false (follow signalled [.thread (.finish .proceed)]) (steps + 1)
          (some entered.isStopped) rest
      else
        along false (follow entered [.thread (.finish .proceed)]) (steps + 1) held rest

def ofPlan (plan : List PlannedStep) (shutdown : Bool) : TaskReport :=
  along shutdown {} 0 none plan

end TaskReport

end ChannelRelay.Simulation
