import ChannelRelay.Proofs.Handshake.Effect
import Mathlib.Control.Monad.Basic

/-!
# Safety of the handshake

The two chains may be joined by any number of calls, in either role and with any
configuration, each of them as long as it likes.

* `Rounds.safe`: what every round of a call preserves;
* `reachable_states`: between calls the ends are in one of the states of the handshake;
* `handshake_safety`: so they are at every moment of a call, every message that is submitted
  finds its end in the state that it moves from, and success means that both ends are open.
-/

namespace ChannelRelay.Handshake

/-- The pairs of states that a handshake goes through, its end included. -/
def handshakeStates : List (Pair ChannelState) :=
  handshakeSteps.map Prod.fst ++ [⟨.opened, .opened⟩]

theorem advance_of_row {states : Pair ChannelState} {action : StepAction}
    (row : (states, action) ∈ handshakeSteps) :
    states.advance (action.side, action.message) ∈ handshakeStates ∧
      (action.last = true →
        states.advance (action.side, action.message) = ⟨.opened, .opened⟩) := by
  have all : ∀ row ∈ handshakeSteps,
      row.1.advance (row.2.side, row.2.message) ∈ handshakeStates ∧
        (row.2.last = true →
          row.1.advance (row.2.side, row.2.message) = ⟨.opened, .opened⟩) := by decide
  exact all _ row

theorem swap_mem_handshakeStates {states : Pair ChannelState} (h : states ∈ handshakeStates) :
    states.swap ∈ handshakeStates := by
  have all : ∀ states ∈ handshakeStates, states.swap ∈ handshakeStates := by decide
  exact all _ h

/-- The ends are on their way through the handshake, and a message fits the end it is for. -/
def OnTheWay (kind : Kind) (w : Actual) (e : Exchange Chains) : Prop :=
  w.states ∈ handshakeStates ∧ Finds kind w e

variable {kind : Kind} {w : Actual}

/-- Whatever the rounds, the ends stay on their way, and after the last step both are open. -/
theorem Rounds.safe {parties : Pair Party} {paths : Pair PathEnd} {order : ChannelOrder}
    {config : Config} {rounds : List Round} {last : Turn}
    (run : Rounds parties paths order config rounds last)
    (honest : Along kind (Honest kind) w (rounds.flatMap Round.exchanges))
    (begins : w.states ∈ handshakeStates) :
    Along kind (OnTheWay kind) w (rounds.flatMap Round.exchanges) ∧
      (w.afterAll kind (rounds.flatMap Round.exchanges)).states ∈ handshakeStates ∧
      (last = .ended (.ok ()) →
        (w.afterAll kind (rounds.flatMap Round.exchanges)).states = ⟨.opened, .opened⟩) := by
  induction run with
  | start => exact ⟨trivial, begins, nofun⟩
  | @turn rounds failures round before taken ih =>
    rw [List.flatMap_append, List.flatMap_singleton] at honest ⊢
    obtain ⟨honestBefore, honestRound⟩ := along_append.mp honest
    obtain ⟨along, inside, _⟩ := ih honestBefore
    obtain ⟨meets, effect⟩ := effort_effect taken honestRound
    refine ⟨along_append.mpr ⟨along, meets.mono fun w' e met => ⟨met.1 ▸ inside, met.2⟩⟩, ?_⟩
    rw [afterAll_append, states_afterAll]
    obtain ⟨rejected, nothing⟩ | ⟨sent, action, same, _, isLast, row, moved⟩ := effect
    · rw [nothing]
      refine ⟨inside, fun final => ?_⟩
      obtain ⟨batch, same, success, _⟩ := Effort.judge_ok final
      rw [same, Effort.accepted, success] at rejected
      cases rejected
    · rw [moved]
      refine ⟨(advance_of_row row).1, fun final => (advance_of_row row).2 ?_⟩
      obtain ⟨batch, same', _, lastBatch⟩ := Effort.judge_ok final
      cases same.symm.trans same'
      exact isLast ▸ lastBatch

/-- What may have become of the ends of two chains by a series of calls. A call that goes on
for ever counts after each of its rounds. -/
inductive Reachable (kind : Kind) (parties : Pair Party) (start : Actual) :
    Pair Party → Actual → Prop
  | start : Reachable kind parties start parties start
  | swap {roles : Pair Party} {w : Actual} (before : Reachable kind parties start roles w) :
      Reachable kind parties start roles.swap w.swap
  | call {roles : Pair Party} {w : Actual} {ordered : Bool} {config : Config} {n : Nat}
      {t : List (Exchange Chains)} {result : Option (Except HandshakeError Unit)}
      (before : Reachable kind parties start roles w)
      (run : (createChannel roles ordered config n).Admits t result)
      (honest : Along kind (Honest kind) w t) :
      Reachable kind parties start roles (w.afterAll kind t)

theorem createChannel_safe {parties : Pair Party} {ordered : Bool} {config : Config} {n : Nat}
    {t : List (Exchange Chains)} {result : Option (Except HandshakeError Unit)}
    (run : (createChannel parties ordered config n).Admits t result)
    (honest : Along kind (Honest kind) w t) (begins : w.states ∈ handshakeStates) :
    Along kind (OnTheWay kind) w t ∧ (w.afterAll kind t).states ∈ handshakeStates ∧
      (result = some (.ok ()) → (w.afterAll kind t).states = ⟨.opened, .opened⟩) := by
  obtain ⟨rfl, e, rfl⟩ | ⟨paths, rounds, last, _, _, admitted, rfl, rfl, _⟩ :=
    createChannel_rounds run
  · exact ⟨trivial, begins, nofun⟩
  · obtain ⟨along, inside, final⟩ := admitted.safe honest begins
    exact ⟨along, inside, fun ok => final (Turn.result?_eq_some.mp ok)⟩

theorem reachable_states {parties roles : Pair Party} {start : Actual}
    (reached : Reachable kind parties start roles w)
    (begins : start.states ∈ handshakeStates) : w.states ∈ handshakeStates := by
  induction reached with
  | start => exact begins
  | swap _ ih => exact swap_mem_handshakeStates ih
  | call _ run honest ih => exact (createChannel_safe run honest ih).2.1

/-- **Safety.** Between honest chains, from every pair of states that the handshake acts on,
and after any series of calls, no moment of a further call finds the ends in states that the
handshake does not go through, no message is submitted to an end that it does not fit, and a
call that succeeds leaves both ends open. -/
theorem handshake_safety {parties roles : Pair Party} {start : Actual}
    (begins : start.states ∈ handshakeSteps.map Prod.fst)
    (reached : Reachable kind parties start roles w) {ordered : Bool} {config : Config} {n : Nat}
    {t : List (Exchange Chains)} {result : Option (Except HandshakeError Unit)}
    (run : (createChannel roles ordered config n).Admits t result)
    (honest : Along kind (Honest kind) w t) :
    (∀ before after, t = before ++ after →
      (w.afterAll kind before).states ∈ handshakeSteps.map Prod.fst ∨
        (w.afterAll kind before).states = ⟨.opened, .opened⟩) ∧
    (∀ before e after, t = before ++ e :: after → Finds kind (w.afterAll kind before) e) ∧
    (result = some (.ok ()) → (w.afterAll kind t).states = ⟨.opened, .opened⟩) := by
  have reachedStates := reachable_states reached (List.mem_append_left _ begins)
  obtain ⟨along, inside, final⟩ := createChannel_safe run honest reachedStates
  refine ⟨?_, ?_, final⟩
  · rintro before after rfl
    have here : (w.afterAll kind before).states ∈ handshakeStates := by
      cases after with
      | nil => simpa using inside
      | cons e after => exact along.at.1
    simpa [handshakeStates] using here
  · rintro before e after rfl
    exact along.at.2

/-- A call that is left after two rounds, and one in the opposite roles that comes to the end. -/
theorem handshake_safety_across_calls :
    let world := scripted ⟨.uninitialized, .uninitialized⟩
    let start : Actual := { states := ⟨.uninitialized, .uninitialized⟩ }
    let first := createChannel (world.parties false) false {} 2
    let between := (first.run (Simulation.World.partner false) world).2
    let second := createChannel (world.parties true) true {} 2
    let middle := start.afterAll Kind.byUrl
      (first.transcript (Simulation.World.partner false) world)
    let t := second.transcript (Simulation.World.partner true) between
    middle.states = ⟨.init, .tryOpen⟩ ∧
      (∀ before e after, t = before ++ e :: after →
        Finds Kind.byUrl (middle.swap.afterAll Kind.byUrl before) e) ∧
      (middle.swap.afterAll Kind.byUrl t).states = ⟨.opened, .opened⟩ := by
  intro world start first between second middle t
  have reached :
      Reachable Kind.byUrl (world.parties false) start (world.parties true) middle.swap :=
    .swap (.call .start (Dialogue.admits_run (Simulation.World.partner false) first world)
      (by decide +kernel))
  have run := Dialogue.admits_run (Simulation.World.partner true) second between
  have success : (second.run (Simulation.World.partner true) between).1 = some (.ok ()) := by
    decide +kernel
  have honest : Along Kind.byUrl (Honest Kind.byUrl) middle.swap t := by decide +kernel
  obtain ⟨_, finds, opened⟩ := handshake_safety (by decide) reached run honest
  exact ⟨by decide +kernel, finds, opened success⟩

end ChannelRelay.Handshake
