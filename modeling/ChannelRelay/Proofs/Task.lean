import ChannelRelay.Task
import Mathlib.Data.List.Basic

/-!
# The protocol of a background task

A task and its handle act in any order. An execution is any list of events that can happen one
after the other, from a task that has just been started; the steps end as they please, and the
handle carries out any operations.

* `Step`: everything that one event can do to a task, and `run?_cons`, `run?_append` for runs;
* `run_invariant`, `run_bound`: what every event keeps, a whole run keeps;
* `undisturbed_run`: a task that nobody tells to stop runs its steps up to the first final one;
* `warned_run`: a task that is told to stop begins one more step at most;
* `task_protocol`: what holds of every execution.
-/

namespace ChannelRelay.Task

/-- Whether the task has not left its loop. -/
def Phase.isLooping : Phase → Bool
  | polling | cleared | stepping => true
  | leaving | stopped | ended => false

/-! ## One event -/

/-- What one event does to a task. -/
inductive Step (t : Task) : Event → Task → Prop where
  | found (polling : t.phase = .polling) (signalled : t.signalled = true) :
      Step t (.thread .poll) { t with phase := .leaving, signalled := false }
  | abandoned (polling : t.phase = .polling) (quiet : t.signalled = false)
      (released : t.released = true) : Step t (.thread .poll) { t with phase := .leaving }
  | cleared (polling : t.phase = .polling) (quiet : t.signalled = false)
      (held : t.released = false) : Step t (.thread .poll) { t with phase := .cleared }
  | entered (cleared : t.phase = .cleared) :
      Step t (.thread .enter) { t with phase := .stepping }
  | finished (outcome : StepOutcome) (stepping : t.phase = .stepping) :
      Step t (.thread (.finish outcome))
        { t with phase := if outcome.isFinal then .leaving else .polling }
  | marked (leaving : t.phase = .leaving) :
      Step t (.thread .stop) { t with phase := .stopped }
  | exited (stopped : t.phase = .stopped) :
      Step t (.thread .exit) { t with phase := .ended }
  | signalled (held : t.released = false) (running : t.phase ≠ .ended) :
      Step t (.handle .signal) { t with signalled := true }
  | unheard (held : t.released = false) (ended : t.phase = .ended) :
      Step t (.handle .signal) t
  | released (held : t.released = false) :
      Step t (.handle .release) { t with released := true }
  | observed : Step t (.handle (.observe t.isStopped)) t
  | joined (ended : t.phase = .ended) : Step t (.handle .joined) t

theorem step_of_advance? {t u : Task} {e : ThreadEvent} (h : t.advance? e = some u) :
    Step t (.thread e) u := by
  cases e with
  | poll =>
    simp only [advance?] at h
    split at h
    · rename_i polling
      split at h
      · cases h
        exact .found polling ‹_›
      · rename_i quiet
        split at h
        · cases h
          exact .abandoned polling (by simpa using quiet) ‹_›
        · rename_i held
          cases h
          exact .cleared polling (by simpa using quiet) (by simpa using held)
    · cases h
  | enter =>
    simp only [advance?] at h
    split at h
    · cases h
      exact .entered ‹_›
    · cases h
  | finish outcome =>
    simp only [advance?] at h
    split at h
    · cases h
      exact .finished outcome ‹_›
    · cases h
  | stop =>
    simp only [advance?] at h
    split at h
    · cases h
      exact .marked ‹_›
    · cases h
  | exit =>
    simp only [advance?] at h
    split at h
    · cases h
      exact .exited ‹_›
    · cases h

theorem step_of_touch? {t u : Task} {e : HandleEvent} (h : t.touch? e = some u) :
    Step t (.handle e) u := by
  cases e with
  | signal =>
    simp only [touch?] at h
    split at h
    · cases h
    · rename_i held
      split at h
      · cases h
        exact .unheard (by simpa using held) ‹_›
      · cases h
        exact .signalled (by simpa using held) ‹_›
  | release =>
    simp only [touch?] at h
    split at h
    · cases h
    · rename_i held
      cases h
      exact .released (by simpa using held)
  | observe stopped =>
    simp only [touch?] at h
    split at h
    · rename_i same
      cases h
      exact same ▸ .observed
    · cases h
  | joined =>
    simp only [touch?] at h
    split at h
    · cases h
      exact .joined ‹_›
    · cases h

theorem step_of_next? {t u : Task} {e : Event} (h : t.next? e = some u) : Step t e u := by
  cases e with
  | thread e => exact step_of_advance? h
  | handle e => exact step_of_touch? h

/-! ## Runs -/

theorem run?_cons {t u : Task} {e : Event} {rest : List Event} :
    t.run? (e :: rest) = some u ↔ ∃ v, t.next? e = some v ∧ v.run? rest = some u := by
  simp only [run?, Option.bind_eq_some_iff]

theorem run?_append {t u : Task} {first rest : List Event} :
    t.run? (first ++ rest) = some u ↔ ∃ v, t.run? first = some v ∧ v.run? rest = some u := by
  induction first generalizing t with
  | nil => simp [run?]
  | cons e first ih =>
    simp only [List.cons_append, run?_cons, ih]
    constructor
    · rintro ⟨w, step, v, front, back⟩
      exact ⟨v, ⟨w, step, front⟩, back⟩
    · rintro ⟨v, ⟨w, step, front⟩, back⟩
      exact ⟨w, step, v, front, back⟩

theorem run_invariant {P : Task → Prop} (keeps : ∀ {t e u}, Step t e u → P t → P u)
    {t u : Task} {events : List Event} (run : t.run? events = some u) (h : P t) : P u := by
  induction events generalizing t with
  | nil =>
    cases run
    exact h
  | cons e rest ih =>
    obtain ⟨v, next, run⟩ := run?_cons.mp run
    exact ih run (keeps (step_of_next? next) h)

/-- If every event that `cost` counts takes one from `fuel`, and every event that `gain` counts
adds at most `n` to it, then so it is over a whole run. -/
theorem run_bound (P : Task → Prop) (fuel : Task → Nat) (cost gain : Event → Bool) (n : Nat)
    (pays : ∀ {t e u}, Step t e u → P t → P u ∧
      (if cost e then 1 else 0) + fuel u ≤ fuel t + n * (if gain e then 1 else 0))
    {t u : Task} {events : List Event} (run : t.run? events = some u) (h : P t) :
    events.countP cost + fuel u ≤ fuel t + n * events.countP gain := by
  induction events generalizing t with
  | nil =>
    cases run
    simp
  | cons e rest ih =>
    obtain ⟨v, next, run⟩ := run?_cons.mp run
    obtain ⟨kept, paid⟩ := pays (step_of_next? next) h
    have later := ih run kept
    rw [List.countP_cons, List.countP_cons, Nat.mul_add]
    omega

/-- The steps that are begun. -/
def stepsBegun (events : List Event) : Nat := events.countP (· == .thread .enter)

/-- How the steps ended that are over. -/
def outcomes (events : List Event) : List StepOutcome :=
  events.filterMap fun
    | .thread (.finish outcome) => some outcome
    | _ => none

/-- What is done with the handle. -/
def handleEvents (events : List Event) : List HandleEvent :=
  events.filterMap fun
    | .handle e => some e
    | .thread _ => none

/-- What the task does by itself. -/
def ownEvents (events : List Event) : Nat :=
  events.countP fun
    | .thread _ => true
    | .handle _ => false

theorem mem_handleEvents {events : List Event} {e : HandleEvent} :
    e ∈ handleEvents events ↔ .handle e ∈ events := by
  unfold handleEvents
  rw [List.mem_filterMap]
  constructor
  · rintro ⟨f | f, mem, same⟩
    · cases same
    · cases same
      exact mem
  · intro mem
    exact ⟨_, mem, rfl⟩

/-! ## A task that has left its loop -/

theorem Step.left {t u : Task} {e : Event} (h : Step t e u) (left : t.phase.isLooping = false) :
    u.phase.isLooping = false ∧ e ≠ .thread .enter := by
  cases h with
  | found polling | abandoned polling | cleared polling => simp [polling, Phase.isLooping] at left
  | entered cleared => simp [cleared, Phase.isLooping] at left
  | finished outcome stepping => simp [stepping, Phase.isLooping] at left
  | marked | exited => exact ⟨rfl, nofun⟩
  | signalled | unheard | released | observed | joined => exact ⟨left, nofun⟩

/-- A task that has left its loop begins no step. -/
theorem left_run {t u : Task} {events : List Event} (run : t.run? events = some u)
    (left : t.phase.isLooping = false) : stepsBegun events = 0 := by
  have bound := run_bound (fun t => t.phase.isLooping = false) (fun _ => 0)
    (· == .thread .enter) (fun _ => false) 0
    (fun {t e u} step left => by
      obtain ⟨kept, other⟩ := step.left left
      exact ⟨kept, by simp [other]⟩) run left
  simpa [stepsBegun] using bound

theorem Step.isStopped {t u : Task} {e : Event} (h : Step t e u) (stopped : t.isStopped = true) :
    u.isStopped = true := by
  cases h with
  | found polling | abandoned polling | cleared polling => simp [Task.isStopped, polling] at stopped
  | entered cleared => simp [Task.isStopped, cleared] at stopped
  | finished outcome stepping => simp [Task.isStopped, stepping] at stopped
  | marked leaving => simp [Task.isStopped, leaving] at stopped
  | exited => rfl
  | signalled | unheard | released | observed | joined => exact stopped

theorem Step.ended {t u : Task} {e : Event} (h : Step t e u) (ended : t.phase = .ended) :
    u.phase = .ended := by
  cases h with
  | found phase | abandoned phase | cleared phase | entered phase | finished _ phase
  | marked phase | exited phase => cases phase.symm.trans ended
  | signalled | unheard | released | observed | joined => exact ended

theorem Step.of_observe {t u : Task} {answer : Bool} (h : Step t (.handle (.observe answer)) u) :
    answer = t.isStopped ∧ u = t := by
  cases h with
  | observed => exact ⟨rfl, rfl⟩

theorem isLooping_of_isStopped {t : Task} (stopped : t.isStopped = true) :
    t.phase.isLooping = false := by
  cases phase : t.phase <;> simp [Task.isStopped, phase, Phase.isLooping] at stopped ⊢

/-- After a wait for its end is over, the task has ended for good. -/
theorem ended_of_joined {t u : Task} {events : List Event} (run : t.run? events = some u)
    (joined : .handle .joined ∈ events) : u.phase = .ended := by
  obtain ⟨before, after, rfl⟩ := List.append_of_mem joined
  obtain ⟨v, _, run⟩ := run?_append.mp run
  obtain ⟨w, next, run⟩ := run?_cons.mp run
  refine run_invariant (P := fun t => t.phase = .ended) Step.ended run ?_
  cases step_of_next? next with
  | joined ended => exact ended

/-! ## A task that is told to stop -/

/-- Whether the task will find a reason to leave its loop when it next looks for one. -/
def Warned (t : Task) : Prop :=
  t.signalled = true ∨ t.released = true ∨ t.phase.isLooping = false

/-- The steps that a task which is told to stop may still begin: the one it is cleared for. -/
def pendingSteps (t : Task) : Nat := if t.phase = .cleared then 1 else 0

theorem Step.warned {t u : Task} {e : Event} (h : Step t e u) (warned : t.Warned) :
    u.Warned ∧ (if e == .thread .enter then 1 else 0) + u.pendingSteps ≤ t.pendingSteps := by
  cases h with
  | found | abandoned => exact ⟨.inr (.inr rfl), by simp [pendingSteps]⟩
  | cleared polling quiet held => simp [Warned, polling, quiet, held, Phase.isLooping] at warned
  | entered cleared =>
    refine ⟨?_, by simp [pendingSteps, cleared]⟩
    simpa [Warned, cleared, Phase.isLooping] using warned
  | finished outcome stepping =>
    refine ⟨?_, by cases outcome <;> simp [pendingSteps, StepOutcome.isFinal]⟩
    obtain signalled | released | left := warned
    · exact .inl signalled
    · exact .inr (.inl released)
    · simp [stepping, Phase.isLooping] at left
  | marked | exited => exact ⟨.inr (.inr rfl), by simp [pendingSteps]⟩
  | signalled => exact ⟨.inl rfl, by simp [pendingSteps]⟩
  | released => exact ⟨.inr (.inl rfl), by simp [pendingSteps]⟩
  | unheard | observed | joined => exact ⟨warned, by simp⟩

/-- A task that is told to stop begins at most the step that it is cleared for. -/
theorem warned_run {t u : Task} {events : List Event} (run : t.run? events = some u)
    (warned : t.Warned) : stepsBegun events ≤ t.pendingSteps := by
  have bound := run_bound Warned pendingSteps (· == .thread .enter) (fun _ => false) 0
    (fun {t e u} step warned => by
      obtain ⟨kept, paid⟩ := step.warned warned
      exact ⟨kept, by simpa using paid⟩) run warned
  simp only [Nat.zero_mul] at bound
  exact Nat.le_trans (Nat.le_add_right ..) bound

/-- Sending the signal needs no more than the handle, and warns the task. -/
theorem warned_of_signal {t u : Task} (h : t.touch? .signal = some u) :
    u.Warned ∧ u.phase = t.phase := by
  cases step_of_touch? h with
  | signalled => exact ⟨.inl rfl, rfl⟩
  | unheard _ ended => exact ⟨.inr (.inr (by rw [ended]; rfl)), rfl⟩

theorem signal_of_held {t : Task} (held : t.released = false) :
    ∃ u, t.touch? .signal = some u := by
  simp only [touch?, held]
  split
  · cases ‹false = true›
  · split <;> exact ⟨_, rfl⟩

/-! ## A task that is left alone -/

/-- Whether the handle tells the task to stop while nobody has waited for its end. -/
def tellsToStop : List HandleEvent → Bool
  | [] => false
  | .joined :: _ => false
  | .observe _ :: rest => tellsToStop rest
  | .signal :: _ => true
  | .release :: _ => true

theorem tellsToStop_of_prefix {first all : List HandleEvent} (h : first <+: all)
    (quiet : tellsToStop all = false) : tellsToStop first = false := by
  obtain ⟨rest, rfl⟩ := h
  induction first with
  | nil => rfl
  | cons e first ih =>
    cases e with
    | joined => rfl
    | observe stopped => exact ih quiet
    | signal | release => cases quiet

/-- Whether the operation tells the task to stop. One that first waits for its end does not. -/
def HandleOp.shutsDown : HandleOp → Bool
  | shutdown | shutdownAndWait | drop => true
  | isStopped _ | join => false

theorem tellsToStop_of_ops {ops : List HandleOp} (quiet : ∀ op ∈ ops, op.shutsDown = false) :
    tellsToStop (ops.flatMap HandleOp.events) = false := by
  induction ops with
  | nil => rfl
  | cons op ops ih =>
    have first := quiet op List.mem_cons_self
    cases op with
    | isStopped answer => exact ih fun op mem => quiet op (List.mem_cons_of_mem _ mem)
    | join => rfl
    | shutdown | shutdownAndWait | drop => cases first

/-- Whether a step has begun that is not over. -/
def busySteps (t : Task) : Nat := if t.phase = .stepping then 1 else 0

/-- A task in its loop, of which `n` steps are over and which nobody tells to stop: no step
follows one that is final, and it leaves its loop after such a step only. -/
theorem undisturbed_run {plan : Nat → StepOutcome} {n : Nat} {t u : Task} {events : List Event}
    (run : t.run? events = some u) (looping : t.phase.isLooping = true)
    (quiet : t.signalled = false) (held : t.released = false)
    (untold : tellsToStop (handleEvents events) = false)
    (planned : ∀ k outcome, (outcomes events)[k]? = some outcome → outcome = plan (n + k)) :
    (∀ m, n ≤ m → (plan m).isFinal = true → n + t.busySteps + stepsBegun events ≤ m + 1) ∧
    (u.phase.isLooping = false →
      ∃ m, (plan m).isFinal = true ∧ n + t.busySteps + stepsBegun events = m + 1) := by
  induction events generalizing n t with
  | nil =>
    cases run
    refine ⟨fun m reached _ => ?_, fun left => absurd (looping.symm.trans left) nofun⟩
    have one : u.busySteps ≤ 1 := by unfold busySteps; split <;> omega
    simp only [stepsBegun, List.countP_nil]
    omega
  | cons e rest ih =>
    obtain ⟨v, next, run⟩ := run?_cons.mp run
    cases step_of_next? next with
    | found _ signalled => cases quiet.symm.trans signalled
    | abandoned _ _ released => cases held.symm.trans released
    | cleared polling =>
      have later := ih run rfl quiet held untold planned
      simpa [busySteps, polling, stepsBegun] using later
    | entered cleared =>
      have later := ih run rfl quiet held untold planned
      simpa [busySteps, cleared, stepsBegun, Nat.add_assoc, Nat.add_comm 1] using later
    | finished outcome stepping =>
      obtain rfl : outcome = plan n := planned 0 outcome rfl
      have begun : stepsBegun (.thread (.finish (plan n)) :: rest) = stepsBegun rest := rfl
      have one : t.busySteps = 1 := if_pos stepping
      rw [begun, one]
      by_cases final : (plan n).isFinal = true
      · -- The task has left its loop, so no step follows.
        rw [if_pos final] at run
        rw [left_run run rfl]
        exact ⟨fun m reached _ => by omega, fun _ => ⟨n, final, rfl⟩⟩
      · rw [if_neg final] at run
        obtain ⟨bound, ending⟩ := ih (n := n + 1) run rfl quiet held untold fun k outcome nth => by
          rw [planned (k + 1) outcome nth]
          congr 1
          omega
        refine ⟨fun m reached isFinal => ?_, ending⟩
        have passed : m ≠ n := fun same => final (same ▸ isFinal)
        exact bound m (by omega) isFinal
    | marked phase | exited phase | joined phase => simp [phase, Phase.isLooping] at looping
    | signalled | unheard | released => cases untold
    | observed => exact ih run looping quiet held untold planned

/-- What a task has to do next: it is never stuck before its end. -/
theorem goes_on (t : Task) (outcome : StepOutcome) (running : t.phase ≠ .ended) :
    ∃ e u, t.advance? e = some u ∧ ∀ o, e = .finish o → o = outcome := by
  cases phase : t.phase with
  | polling =>
    refine ⟨.poll, ?_⟩
    simp only [advance?, phase, if_true]
    split
    · exact ⟨_, rfl, nofun⟩
    · split <;> exact ⟨_, rfl, nofun⟩
  | cleared => exact ⟨.enter, _, if_pos phase, nofun⟩
  | stepping =>
    refine ⟨.finish outcome, _, if_pos phase, ?_⟩
    rintro o ⟨⟩
    rfl
  | leaving => exact ⟨.stop, _, if_pos phase, nofun⟩
  | stopped => exact ⟨.exit, _, if_pos phase, nofun⟩
  | ended => exact absurd phase running

/-- How much a task can do without beginning another step. -/
def Phase.fuel : Phase → Nat
  | polling => 3
  | cleared => 2
  | stepping => 4
  | leaving => 2
  | stopped => 1
  | ended => 0

/-- A task does three things for each step, and at most three more. -/
theorem ownEvents_le {t u : Task} {events : List Event} (run : t.run? events = some u) :
    ownEvents events ≤ t.phase.fuel + 3 * stepsBegun events := by
  have bound := run_bound (fun _ => True) (fun t => t.phase.fuel)
    (fun e => match e with | .thread _ => true | .handle _ => false) (· == .thread .enter) 3
    (fun {t e u} step _ => by
      refine ⟨trivial, ?_⟩
      cases step with
      | finished outcome stepping =>
        cases outcome <;> simp [stepping, Phase.fuel, StepOutcome.isFinal]
      | found phase | abandoned phase | cleared phase | entered phase | marked phase
      | exited phase => simp [phase, Phase.fuel]
      | signalled | unheard | released | observed | joined => simp) run trivial
  exact Nat.le_trans (Nat.le_add_right ..) bound

/-! ## Executions -/

/-- Whether the operation waits for the end of the task. -/
def HandleOp.waits : HandleOp → Bool
  | join | shutdownAndWait | drop => true
  | shutdown | isStopped _ => false

theorem joined_mem_events {op : HandleOp} (waits : op.waits = true) : .joined ∈ op.events := by
  cases op with
  | join | shutdownAndWait | drop => decide
  | shutdown | isStopped => cases waits

/-- A task whose `k`-th step ends as `plan k`, and a handle with which the operations `ops` are
carried out one after the other, have acted so far in the order of `events`; `t` is the task by
now. Some of the operations may be still to come, and one may be under way. -/
structure Execution (plan : Nat → StepOutcome) (ops : List HandleOp) (events : List Event)
    (t : Task) : Prop where
  run : ({} : Task).run? events = some t
  planned : ∀ k outcome, (outcomes events)[k]? = some outcome → outcome = plan k
  handled : handleEvents events <+: ops.flatMap HandleOp.events

/-- These operations, the first ones with the handle, have returned by now. -/
def Returned (ops : List HandleOp) (events : List Event) : Prop :=
  ops.flatMap HandleOp.events <+: handleEvents events

/-- What a task and its handle can rely on. -/
structure Protocol (plan : Nat → StepOutcome) (ops : List HandleOp) (events : List Event)
    (t : Task) : Prop where
  /-- Unless an operation shuts the task down, no step follows a final one, and the task stops
  only after a final one. -/
  undisturbed : (∀ op ∈ ops, op.shutsDown = false) →
    (∀ m, (plan m).isFinal = true → stepsBegun events ≤ m + 1) ∧
    (t.isStopped = true → ∃ m, (plan m).isFinal = true ∧ stepsBegun events = m + 1)
  /-- Until it has ended, the task has something to do, whatever the handle does. -/
  goesOn : t.phase ≠ .ended → ∃ e u, t.advance? e = some u ∧
    ∀ outcome, e = .finish outcome → outcome = plan (outcomes events).length
  /-- It does three things for each step, and three at most to leave. -/
  ends : ownEvents events ≤ 3 * stepsBegun events + 3
  /-- After a signal, no step begins but one that the task was cleared for before. -/
  signalled : ∀ before after, events = before ++ .handle .signal :: after →
    ∃ u, ({} : Task).run? before = some u ∧ stepsBegun after ≤ if u.phase = .cleared then 1 else 0
  /-- As long as there is a handle, the signal can be sent, and the task is where it was. -/
  neverWaits : t.released = false → ∃ u, t.touch? .signal = some u ∧ u.phase = t.phase
  /-- Once the task is said to have stopped, no step is running, none begins any more, and it is
  never said to be running again. -/
  stopped : ∀ before after, events = before ++ .handle (.observe true) :: after →
    (∃ u, ({} : Task).run? before = some u ∧ u.phase.isLooping = false) ∧
    stepsBegun after = 0 ∧ ∀ answer, .handle (.observe answer) ∈ after → answer = true
  /-- An operation that waits returns after the end of the task. -/
  waited : ∀ earlier op later, ops = earlier ++ op :: later → op.waits = true →
    Returned (earlier ++ [op]) events → t.phase = .ended

variable {plan : Nat → StepOutcome} {ops : List HandleOp} {events : List Event} {t : Task}

/-- Where the task was at any event of a run, and what the event did. -/
theorem run_split {u : Task} {before after : List Event} {e : Event}
    (run : t.run? (before ++ e :: after) = some u) :
    ∃ v w, t.run? before = some v ∧ Step v e w ∧ w.run? after = some u := by
  obtain ⟨v, front, run⟩ := run?_append.mp run
  obtain ⟨w, next, back⟩ := run?_cons.mp run
  exact ⟨v, w, front, step_of_next? next, back⟩

theorem answer_of_stopped {u : Task} {answer : Bool} (run : t.run? events = some u)
    (stopped : t.isStopped = true) (asked : .handle (.observe answer) ∈ events) :
    answer = true := by
  obtain ⟨before, after, rfl⟩ := List.append_of_mem asked
  obtain ⟨v, _, front, step, _⟩ := run_split run
  rw [step.of_observe.1]
  exact run_invariant (P := fun t => t.isStopped = true) Step.isStopped front stopped

/-- **The protocol.** However the steps of a task end, whatever is done with its handle and in
whatever order the two act. -/
theorem task_protocol (x : Execution plan ops events t) : Protocol plan ops events t where
  undisturbed quiet := by
    have untold := tellsToStop_of_prefix x.handled (tellsToStop_of_ops quiet)
    obtain ⟨bound, ending⟩ := undisturbed_run (n := 0) x.run rfl rfl rfl untold
      fun k outcome nth => by rw [x.planned k outcome nth, Nat.zero_add]
    simp only [busySteps, reduceCtorEq, if_false, Nat.add_zero, Nat.zero_add] at bound ending
    exact ⟨fun m final => bound m (Nat.zero_le m) final,
      fun stopped => ending (isLooping_of_isStopped stopped)⟩
  goesOn running := goes_on t _ running
  ends := by
    have bound := ownEvents_le x.run
    rw [Nat.add_comm]
    exact bound
  signalled := by
    rintro before after rfl
    obtain ⟨u, v, front, step, back⟩ := run_split x.run
    refine ⟨u, front, ?_⟩
    cases step with
    | signalled =>
      have bound := warned_run back (.inl rfl)
      exact bound
    | unheard _ ended => exact warned_run back (.inr (.inr (by rw [ended]; rfl)))
  neverWaits held := by
    obtain ⟨u, sent⟩ := signal_of_held held
    exact ⟨u, sent, (warned_of_signal sent).2⟩
  stopped := by
    rintro before after rfl
    obtain ⟨u, v, front, step, back⟩ := run_split x.run
    obtain ⟨answered, rfl⟩ := step.of_observe
    have left := isLooping_of_isStopped answered.symm
    exact ⟨⟨v, front, left⟩, left_run back left,
      fun _ asked => answer_of_stopped back answered.symm asked⟩
  waited := by
    rintro earlier op later rfl waits returned
    refine ended_of_joined x.run (mem_handleEvents.mp (returned.subset ?_))
    exact List.mem_flatMap.mpr ⟨op, by simp, joined_mem_events waits⟩

/-- A task gets over an error and is cleared for its second step when it is told to stop: it
takes that step and no other. One that nobody tells to stop aborts in its second step, while
somebody waits for its end. -/
theorem task_protocol_second_step :
    let plan : Nat → StepOutcome := fun k => if k = 0 then .ignored else .abort
    let warned : List Event := [.thread .poll, .thread .enter, .thread (.finish .ignored),
      .thread .poll, .handle .signal, .handle .signal, .handle (.observe false), .thread .enter]
    let alone : List Event := [.thread .poll, .thread .enter, .thread (.finish .ignored),
      .thread .poll, .thread .enter, .thread (.finish .abort), .thread .stop,
      .handle (.observe true), .thread .exit, .handle .joined, .handle .signal]
    Protocol plan [.shutdown, .shutdown, .isStopped false, .drop] warned
        { phase := .stepping, signalled := true } ∧
      Protocol plan [.isStopped true, .join] alone { phase := .ended } ∧
      stepsBegun warned = 2 ∧ stepsBegun alone = 2 := by
  intro plan warned alone
  refine ⟨task_protocol ⟨rfl, ?_, ?_⟩, task_protocol ⟨rfl, ?_, ?_⟩, rfl, rfl⟩
  · rintro (_ | k) outcome nth
    · exact (Option.some.inj nth).symm
    · cases nth
  · decide
  · rintro (_ | _ | k) outcome nth
    · exact (Option.some.inj nth).symm
    · exact (Option.some.inj nth).symm
    · cases nth
  · decide

end ChannelRelay.Task
