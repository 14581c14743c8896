import ChannelRelay.Proofs.Handshake.Rounds
import Mathlib.Control.Monad.Basic

/-!
# What a success means

A handshake counts as complete on the word of the two chains alone. They may say anything, but
a run that succeeds has seen and done what completes a channel, all of it in its last round.

* `states_of_last_row`: the last step starts from an end that is open;
* `Confirms`: a round in which one end is told that the other one is open;
* `success_confirms`: the last round of every run that succeeds is such a round.
-/

namespace ChannelRelay.Handshake

/-- The last step starts from an end that is open, and confirms this to the other one. -/
theorem states_of_last_row {states : Pair ChannelState} {action : StepAction}
    (row : (states, action) ∈ handshakeSteps) (last : action.last = true) :
    action.message = .openConfirm ∧ states = .seen action.side .tryOpen .opened := by
  have all : ∀ row ∈ handshakeSteps, row.2.last = true →
      row.2.message = .openConfirm ∧ row.1 = .seen row.2.side .tryOpen .opened := by decide
  exact all _ row last

variable {parties : Pair Party} {order : ChannelOrder} {config : Config}

/-- The exchanges `t` of a round confirm the channel on the side `s`. The round sees `l`: the
end there still to be confirmed, and the other one open. It has `message` built and submits
these transactions, the message last, to the side `s` only, and all of them are accepted. -/
structure Confirms (parties : Pair Party) (config : Config) (t : List (Exchange Chains))
    (s : Side) (l : Look) (signer : Signer) (earlier : List (List Message))
    (updates : List Message) (message : Message) : Prop where
  looked : ∃ first rest, t = first ++ rest ∧ l.Taken parties config.headerSync first
  pending : (l.observed.get s).state = .tryOpen ∧ (l.latest.get s).state = .tryOpen
  opened : (l.observed.get s.other).state = .opened ∧ (l.latest.get s.other).state = .opened
  built : ⟨(s, .openConfirm (l.observed.get s.other) signer), .ok message⟩ ∈ t
  submitted : submissions t = (earlier ++ [updates ++ [message]]).map fun messages =>
    ⟨s, ⟨messages, .named HandshakeMessage.openConfirm.text⟩, .ok ()⟩

/-- Both observations of a confirmed look have seen the same states. -/
theorem Look.Confirmed.states {l : Look} (confirmed : l.Confirmed) (s : Side) :
    (l.observed.get s).state = l.states.get s ∧ (l.latest.get s).state = l.states.get s := by
  obtain ⟨src, dst⟩ := confirmed
  cases s with
  | src => exact ⟨rfl, src.symm⟩
  | dst => exact ⟨rfl, dst.symm⟩

/-- The reply to the call for the last message is that message. -/
theorem eq_of_openConfirm {e : Exchange Chains} {s : Side} {seen : ProvenChannel}
    {signer : Signer} {message : Message} (asked : e.request = (s, .openConfirm seen signer))
    (answered : e.message? = some (.openConfirm, .ok message)) :
    e = ⟨(s, .openConfirm seen signer), .ok message⟩ := by
  obtain ⟨request, reply⟩ := e
  cases asked
  cases answered
  rfl

/-- A round whose batch is the last one, and is accepted, confirms the channel. -/
theorem effort_confirms {t : List (Exchange Chains)} {sent : Batch}
    (taken : (effort parties order config).Admits t (.sent sent))
    (succeeded : sent.succeeded = true) (last : sent.last = true) :
    ∃ s l signer earlier updates message,
      Confirms parties config t s l signer earlier updates message := by
  obtain ⟨_, same, _⟩ | ⟨_, same, _⟩ |
    ⟨batch, _, stepped, sending, same, rfl, ready, step, send⟩ := effort_cases taken
  · cases same
  · cases same
  cases same
  have queries : ∀ e ∈ stepped, IsQuery e.request :=
    (asks_step parties order config.headerSync).of_admits step
  obtain ⟨l, first, rest, action, rfl, looked, confirmed, row, carried⟩ := ready_step step ready
  obtain ⟨signer, before, updates, e, message, rfl, _, asked, answered, rfl⟩ := carried
  obtain ⟨outcome, submitted, sameLast, _, rejected⟩ := rowBatch_send send
  obtain ⟨isConfirm, states⟩ := states_of_last_row row (sameLast.symm.trans last)
  rw [isConfirm] at asked answered submitted
  have seen := confirmed.states
  rw [states] at seen
  -- The message comes last in the batch, and so in the last transaction.
  have all : (transactionsOf config.tx (updates ++ [message])).flatten = updates ++ [message] :=
    flatten_splitMessages ..
  obtain ⟨earlier, ahead, cut, _⟩ :=
    last_transaction all fun tx mem => ne_nil_of_mem_splitMessages mem
  have accepted : sending = (earlier ++ [ahead ++ [message]]).map
      (submission action.side (.named HandshakeMessage.openConfirm.text) (.ok ())) := by
    obtain ⟨none, _⟩ | ⟨_, _, all⟩ | ⟨_, failed, _⟩ := sendSide_admits.mp submitted
    · simp at none
    · rw [all, cut]
    · rw [rejected failed] at succeeded
      cases succeeded
  refine ⟨action.side, l, signer, earlier, ahead, message, {
    looked := ⟨first, _, List.append_assoc .., looked⟩
    pending := ?_, opened := ?_, built := ?_, submitted := ?_ }⟩
  · have mine := seen action.side
    cases side : action.side <;> rw [side] at mine <;> exact mine
  · have theirs := seen action.side.other
    cases side : action.side <;> rw [side] at theirs <;> exact theirs
  · rw [← eq_of_openConfirm asked answered]
    simp
  · rw [submissions_append, submissions_of_queries queries, accepted, submissions_map]
    rfl

/-- **Success.** Whatever the chains do, a run that succeeds ends with a round that confirms the
channel, and nothing is submitted after the message that does so. -/
theorem success_confirms {ordered : Bool} {n : Nat} {t : List (Exchange Chains)}
    (run : (createChannel parties ordered config n).Admits t (some (.ok ()))) :
    ∃ paths rounds round s l signer earlier updates message,
      Rounds parties paths (.ofBool ordered) config (rounds ++ [round]) (.ended (.ok ())) ∧
      t = (rounds ++ [round]).flatMap Round.exchanges ∧
      Confirms parties config round.exchanges s l signer earlier updates message ∧
      (submissions t).getLast? = some
        ⟨s, ⟨updates ++ [message], .named HandshakeMessage.openConfirm.text⟩, .ok ()⟩ := by
  obtain ⟨_, _, same⟩ | ⟨paths, rounds, last, _, _, admitted, rfl, result, _⟩ :=
    createChannel_rounds run
  · cases same
  obtain rfl : last = .ended (.ok ()) := Turn.result?_eq_some.mp result.symm
  rcases List.eq_nil_or_concat rounds with rfl | ⟨before, round, rfl⟩
  · cases admitted.of_nil
  rw [List.concat_eq_append] at admitted ⊢
  obtain ⟨failures, _, taken, ⟨_, verdict⟩ | ⟨more, _⟩⟩ := admitted.split
  · obtain ⟨sent, isSent, succeeded, isLast⟩ := Effort.judge_ok verdict.symm
    rw [isSent] at taken
    obtain ⟨s, l, signer, earlier, updates, message, confirms⟩ :=
      effort_confirms taken succeeded isLast
    refine ⟨paths, before, round, s, l, signer, earlier, updates, message, admitted, rfl,
      confirms, ?_⟩
    have whole : (before ++ [round]).flatMap Round.exchanges =
        before.flatMap Round.exchanges ++ round.exchanges := by simp
    rw [whole, submissions_append, confirms.submitted, List.map_append, ← List.append_assoc]
    exact List.getLast?_concat
  · exact absurd rfl more

/-- The source is left to confirm, its client lags behind and it takes one message at a time:
the update goes in a transaction of its own, before the one that confirms. -/
theorem success_confirms_in_two_transactions :
    let start := scripted ⟨.tryOpen, .opened⟩
    let world := { start with chains.src.clientHeight := ⟨0, 8⟩ }
    let config : Config := { tx := { maxMsgNum := 1 } }
    let program := createChannel (world.parties false) false config 3
    let t := program.transcript (Simulation.World.partner false) world
    ∃ rounds round l signer earlier updates message,
      t = (rounds ++ [round]).flatMap Round.exchanges ∧
      Confirms (world.parties false) config round.exchanges .src l signer earlier updates
        message ∧
      (submissions t).length = 2 := by
  intro start world config program t
  have success : (program.run (Simulation.World.partner false) world).1 = some (.ok ()) := by
    decide +kernel
  have run := Dialogue.admits_run (Simulation.World.partner false) program world
  rw [success] at run
  obtain ⟨_, rounds, round, s, l, signer, earlier, updates, message, _, split, confirms, final⟩ :=
    success_confirms run
  have last : (submissions t).getLast?.map Submission.side = some .src := by decide +kernel
  rw [final] at last
  obtain rfl : s = .src := Option.some.inj last
  exact ⟨rounds, round, l, signer, earlier, updates, message, split, confirms,
    by decide +kernel⟩

end ChannelRelay.Handshake
