import ChannelRelay.Handshake.Step
import ChannelRelay.Proofs.Exchanges

/-!
# The messages of a step

The chain that acts is asked for its signer, then for the updates of its client if any are
missing, then for the handshake message.

* `stepMessages_admits_ok`: the exchanges that lead to messages;
* `stepMessages_admits_error`: a failure is that of the last of these calls;
* `asks_stepMessages`: nothing is submitted yet.
-/

namespace ChannelRelay

/-- The call that has a handshake message built. -/
def HandshakeMessage.builder (order : ChannelOrder) (counterparty : PathEnd)
    (seen : ProvenChannel) (signer : Signer) : HandshakeMessage → ChainCall
  | openInit => .openInit order counterparty signer
  | openTry => .openTry order counterparty seen signer
  | openAck => .openAck counterparty seen signer
  | openConfirm => .openConfirm seen signer

/-- The reply of a chain that was asked to build a handshake message. -/
def Exchange.message? : Exchange Chains → Option (HandshakeMessage × Except RelayError Message)
  | ⟨(_, .openInit ..), r⟩ => some (.openInit, r)
  | ⟨(_, .openTry ..), r⟩ => some (.openTry, r)
  | ⟨(_, .openAck ..), r⟩ => some (.openAck, r)
  | ⟨(_, .openConfirm ..), r⟩ => some (.openConfirm, r)
  | _ => none

theorem Exchange.eq_of_message?_error {e : Exchange Chains} {m : HandshakeMessage}
    {error : RelayError} (h : e.message? = some (m, .error error)) :
    e = ⟨e.request, .error error⟩ := by
  obtain ⟨⟨s, c⟩, r⟩ := e
  cases c <;> cases h <;> rfl

namespace Handshake

variable {action : StepAction} {order : ChannelOrder} {counterparty : PathEnd}
  {seen : ProvenChannel} {headers : List Header} {t : List (Exchange Chains)}

/-- The client on the acting chain is to be updated. -/
def NeedsUpdate (action : StepAction) (headers : List Header) : Prop :=
  action.updateClient && !headers.isEmpty

/-- The updates that go before the handshake message, if any. -/
def clientUpdates (action : StepAction) (headers : List Header) (signer : Signer) :
    Relay RelayError (List Message) :=
  if action.updateClient && !headers.isEmpty then
    call action.side (.updateClient headers signer)
  else
    pure []

theorem clientUpdates_of_needed (h : NeedsUpdate action headers) (signer : Signer) :
    clientUpdates action headers signer = call action.side (.updateClient headers signer) :=
  if_pos h

theorem clientUpdates_of_not_needed (h : ¬ NeedsUpdate action headers) (signer : Signer) :
    clientUpdates action headers signer = pure [] :=
  if_neg h

theorem clientUpdates_admits {signer : Signer} {r : Except RelayError (List Message)} :
    (clientUpdates action headers signer).run.Admits t r ↔
      (NeedsUpdate action headers ∧ t = [⟨(action.side, .updateClient headers signer), r⟩]) ∨
      (¬ NeedsUpdate action headers ∧ t = [] ∧ r = .ok []) := by
  by_cases h : NeedsUpdate action headers
  · rw [clientUpdates_of_needed h]
    simp only [h, true_and, not_true, false_and, or_false]
    exact Relay.admits_call
  · rw [clientUpdates_of_not_needed h]
    simp [h]

theorem stepMessages_eq (action : StepAction) (order : ChannelOrder) (counterparty : PathEnd)
    (seen : ProvenChannel) (headers : List Header) :
    stepMessages action order counterparty seen headers = do
      let signer : Signer ← call action.side .signer
      let updates ← clientUpdates action headers signer
      let message ← handshakeMessage action order counterparty seen signer
      return updates ++ [message] := by
  refine bind_congr fun signer => ?_
  by_cases h : NeedsUpdate action headers
  · rw [clientUpdates_of_needed h]
    exact if_pos h
  · rw [clientUpdates_of_not_needed h]
    exact if_neg h

theorem handshakeMessage_admits {signer : Signer} {r : Except RelayError Message} :
    (handshakeMessage action order counterparty seen signer).run.Admits t r ↔
      ∃ e : Exchange Chains, t = [e] ∧
        e.request = (action.side, action.message.builder order counterparty seen signer) ∧
        e.message? = some (action.message, r) := by
  obtain ⟨side, message, updateClient, last⟩ := action
  cases message
  all_goals
    refine Relay.admits_call.trans ⟨?_, ?_⟩
    · rintro rfl
      exact ⟨_, rfl, rfl, rfl⟩
    · rintro ⟨⟨_, _⟩, rfl, rfl, same⟩
      cases same
      rfl

theorem stepMessages_admits_ok {messages : List Message} :
    (stepMessages action order counterparty seen headers).run.Admits t (.ok messages) ↔
      ∃ signer earlier updates e message,
        t = ⟨(action.side, .signer), .ok signer⟩ :: (earlier ++ [e]) ∧
        (clientUpdates action headers signer).run.Admits earlier (.ok updates) ∧
        e.request = (action.side, action.message.builder order counterparty seen signer) ∧
        e.message? = some (action.message, .ok message) ∧
        messages = updates ++ [message] := by
  rw [stepMessages_eq]
  constructor
  · intro h
    obtain ⟨_, same, _⟩ | ⟨signer, _, rfl, h₁⟩ := Relay.admits_call_bind.mp h
    · cases same
    obtain ⟨_, same, _⟩ | ⟨updates, earlier, _, rfl, updated, h₂⟩ := Relay.admits_bind.mp h₁
    · cases same
    obtain ⟨_, same, _⟩ | ⟨message, _, _, rfl, built, rfl, same⟩ := Relay.admits_bind.mp h₂
    · cases same
    cases same
    obtain ⟨e, rfl, asked, answered⟩ := handshakeMessage_admits.mp built
    exact ⟨signer, earlier, updates, e, message, by simp, updated, asked, answered, rfl⟩
  · rintro ⟨signer, earlier, updates, e, message, rfl, updated, asked, answered, rfl⟩
    refine Relay.admits_call_bind.mpr (.inr ⟨signer, _, rfl, ?_⟩)
    refine (Relay.admits_bind_append updated).mpr ?_
    exact Relay.admits_bind.mpr (.inr ⟨message, [e], [], rfl,
      handshakeMessage_admits.mpr ⟨e, rfl, asked, answered⟩, rfl, rfl⟩)

/-- A call of which the messages of a step may fail. -/
inductive MessageCall (action : StepAction) (order : ChannelOrder) (counterparty : PathEnd)
    (seen : ProvenChannel) (headers : List Header) : ChainCall → Prop
  | signer : MessageCall action order counterparty seen headers .signer
  | update (signer : Signer) (needed : NeedsUpdate action headers) :
      MessageCall action order counterparty seen headers (.updateClient headers signer)
  | build (signer : Signer) : MessageCall action order counterparty seen headers
      (action.message.builder order counterparty seen signer)

theorem stepMessages_admits_error {e : RelayError}
    (h : (stepMessages action order counterparty seen headers).run.Admits t (.error e)) :
    ∃ earlier c, MessageCall action order counterparty seen headers c ∧
      t = earlier ++ [⟨(action.side, c), .error e⟩] := by
  rw [stepMessages_eq] at h
  obtain ⟨_, same, rfl⟩ | ⟨signer, _, rfl, h₁⟩ := Relay.admits_call_bind.mp h
  · cases same
    exact ⟨[], _, .signer, rfl⟩
  obtain ⟨_, same, failed⟩ | ⟨updates, earlier, _, rfl, _, h₂⟩ := Relay.admits_bind.mp h₁
  · cases same
    obtain ⟨needed, rfl⟩ | ⟨_, _, same⟩ := clientUpdates_admits.mp failed
    · exact ⟨[_], _, .update signer needed, rfl⟩
    · cases same
  obtain ⟨_, same, failed⟩ | ⟨message, _, _, rfl, _, rfl, same⟩ := Relay.admits_bind.mp h₂
  · cases same
    obtain ⟨e, rfl, asked, answered⟩ := handshakeMessage_admits.mp failed
    refine ⟨⟨(action.side, .signer), .ok signer⟩ :: earlier, _, .build signer, ?_⟩
    rw [← asked, ← Exchange.eq_of_message?_error answered]
    rfl
  · cases same

theorem asks_stepMessages (action : StepAction) (order : ChannelOrder) (counterparty : PathEnd)
    (seen : ProvenChannel) (headers : List Header) :
    (stepMessages action order counterparty seen headers).run.Asks IsQuery := by
  have updates (signer : Signer) : (clientUpdates action headers signer).run.Asks IsQuery := by
    by_cases h : NeedsUpdate action headers
    · rw [clientUpdates_of_needed h]
      exact Relay.asks_call nofun
    · rw [clientUpdates_of_not_needed h]
      trivial
  have message (signer : Signer) :
      (handshakeMessage action order counterparty seen signer).run.Asks IsQuery := by
    unfold handshakeMessage
    split <;> exact Relay.asks_call nofun
  rw [stepMessages_eq]
  exact Relay.asks_bind (Relay.asks_call nofun) fun signer =>
    Relay.asks_bind (updates signer) fun _ => Relay.asks_bind (message signer) fun _ => trivial

end Handshake

end ChannelRelay
