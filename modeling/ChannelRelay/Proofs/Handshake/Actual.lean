import ChannelRelay.Proofs.Handshake.Messages

/-!
# The actual states of the ends

The relayer sees replies only. What the two ends really are follows from the transactions
that the chains have accepted: each handshake message in them moves the end of its chain.

* `Actual.after`, `Actual.afterAll`: the actual states, exchange by exchange;
* `Honest`: a reply that fits the actual states, as far as it has to;
* `Cooperative`: a reply of a chain that is honest and answers whatever it is asked;
* `Along`: a condition on every exchange, each in the state that it meets;
* `states_afterAll`: the states depend on the messages that were applied, and on nothing else.
-/

namespace ChannelRelay

namespace HandshakeMessage

/-- The state that an end leaves by this message. -/
def source : HandshakeMessage → ChannelState
  | openInit => .uninitialized
  | openTry => .uninitialized
  | openAck => .init
  | openConfirm => .tryOpen

def target : HandshakeMessage → ChannelState
  | openInit => .init
  | openTry => .tryOpen
  | openAck => .opened
  | openConfirm => .opened

def move (m : HandshakeMessage) (state : ChannelState) : ChannelState :=
  if state = m.source then m.target else state

end HandshakeMessage

/-- Two ends after one of them has taken a handshake message. -/
def Pair.advance (states : Pair ChannelState) (m : Side × HandshakeMessage) : Pair ChannelState :=
  states.set m.1 (m.2.move (states.get m.1))

namespace Handshake

/-- The two ends as they are, and what the chains have said about their heights. -/
structure Actual where
  states : Pair ChannelState
  /-- The height that a chain last gave as its latest one. It counts until a transaction is
  accepted, or a header is fetched to query by. -/
  announced : Pair (Option Height) := ⟨none, none⟩
  deriving DecidableEq

def Actual.swap (w : Actual) : Actual := ⟨w.states.swap, w.announced.swap⟩

/-- Which messages are handshake messages, and which ones. The chains alone can tell. -/
abbrev Kind := Message → Option HandshakeMessage

/-- Chains that go by the URL of a message. -/
def Kind.byUrl : Kind := fun m => HandshakeMessage.all.find? fun k => k.typeUrl == m.typeUrl

section
variable (kind : Kind)

/-- The handshake messages that an exchange applies, and to which end. -/
def appliedBy : Exchange Chains → List (Side × HandshakeMessage)
  | ⟨(s, .submit tx), .ok _⟩ => (tx.messages.filterMap kind).map (s, ·)
  | _ => []

def applied (t : List (Exchange Chains)) : List (Side × HandshakeMessage) :=
  t.flatMap (appliedBy kind)

def Actual.announcedAfter (w : Actual) : Exchange Chains → Pair (Option Height)
  | ⟨(s, .latestHeight), .ok height⟩ => w.announced.set s (some height)
  | ⟨(s, .latestHeader), _⟩ => w.announced.set s none
  | ⟨(s, .submit _), .ok _⟩ => w.announced.set s none
  | _ => w.announced

def Actual.after (w : Actual) (e : Exchange Chains) : Actual where
  states := (appliedBy kind e).foldl Pair.advance w.states
  announced := w.announcedAfter e

def Actual.afterAll (w : Actual) (t : List (Exchange Chains)) : Actual := t.foldl (after kind) w

/-- None of these is a handshake message. -/
def Silent (messages : List Message) : Prop := ∀ m ∈ messages, kind m = none

instance decidableSilent (messages : List Message) : Decidable (Silent kind messages) :=
  inferInstanceAs (Decidable (∀ m ∈ messages, kind m = none))

/-- A query at the latest height tells the state as it is, and builders build what they are
asked for. Every other reply is free. -/
def Honest (w : Actual) : Exchange Chains → Prop
  | ⟨(s, .channel height), .ok seen⟩ =>
    w.announced.get s = some height → ProvenChannel.state seen = w.states.get s
  | ⟨(_, .openInit ..), .ok m⟩ => kind m = some .openInit
  | ⟨(_, .openTry ..), .ok m⟩ => kind m = some .openTry
  | ⟨(_, .openAck ..), .ok m⟩ => kind m = some .openAck
  | ⟨(_, .openConfirm ..), .ok m⟩ => kind m = some .openConfirm
  | ⟨(_, .updateClient ..), .ok ms⟩ => Silent kind ms
  | _ => True

instance (w : Actual) (e : Exchange Chains) : Decidable (Honest kind w e) := by
  unfold Honest
  split <;> first | infer_instance | exact decidableSilent kind _

/-- Headers as a client takes them, each above the one before. -/
def Increasing (headers : List Header) : Prop := headers.Pairwise fun a b => a.height < b.height

instance decidableIncreasing (headers : List Header) : Decidable (Increasing headers) :=
  inferInstanceAs (Decidable (headers.Pairwise _))

/-- The reply of a chain that answers whatever it is asked, and tells the states of the ends as
they are. It is free to reject transactions. -/
def Answers (states : Pair ChannelState) : Exchange Chains → Prop
  | ⟨(_, .submit _), _⟩ => True
  | ⟨_, .error _⟩ => False
  | ⟨(s, .channel _), .ok seen⟩ => ProvenChannel.state seen = states.get s
  | ⟨(_, .headersForUpdate ..), .ok headers⟩ => Increasing headers
  | _ => True

instance (states : Pair ChannelState) (e : Exchange Chains) : Decidable (Answers states e) := by
  unfold Answers
  split
  · exact instDecidableTrue
  · exact instDecidableFalse
  · exact decEq _ _
  · exact decidableIncreasing _
  · exact instDecidableTrue

/-- An honest chain that answers whatever it is asked. -/
def Cooperative (w : Actual) (e : Exchange Chains) : Prop :=
  Honest kind w e ∧ Answers w.states e

instance (w : Actual) (e : Exchange Chains) : Decidable (Cooperative kind w e) :=
  inferInstanceAs (Decidable (_ ∧ _))

/-- Every exchange satisfies `p` in the state it meets. -/
def Along (p : Actual → Exchange Chains → Prop) : Actual → List (Exchange Chains) → Prop
  | _, [] => True
  | w, e :: t => p w e ∧ Along p (w.after kind e) t

instance decidableAlong {p : Actual → Exchange Chains → Prop} [decide : ∀ w e, Decidable (p w e)] :
    (w : Actual) → (t : List (Exchange Chains)) → Decidable (Along kind p w t)
  | _, [] => isTrue trivial
  | w, e :: t => @instDecidableAnd _ _ (decide w e) (decidableAlong (w.after kind e) t)

end

variable {kind : Kind} {p q : Actual → Exchange Chains → Prop} {w : Actual}
  {t u : List (Exchange Chains)}

theorem afterAll_append : w.afterAll kind (t ++ u) = (w.afterAll kind t).afterAll kind u :=
  List.foldl_append

theorem along_append : Along kind p w (t ++ u) ↔
    Along kind p w t ∧ Along kind p (w.afterAll kind t) u := by
  induction t generalizing w with
  | nil => simp [Along, Actual.afterAll]
  | cons e t ih => simp [Along, Actual.afterAll, ih, and_assoc]

theorem Along.mono (h : Along kind p w t) (weaker : ∀ w e, p w e → q w e) : Along kind q w t := by
  induction t generalizing w with
  | nil => trivial
  | cons e t ih => exact ⟨weaker w e h.1, ih h.2⟩

theorem Along.at {before rest : List (Exchange Chains)} {e : Exchange Chains}
    (h : Along kind p w (before ++ e :: rest)) : p (w.afterAll kind before) e :=
  (along_append.mp h).2.1

theorem states_afterAll (w : Actual) (t : List (Exchange Chains)) :
    (w.afterAll kind t).states = (applied kind t).foldl Pair.advance w.states := by
  induction t generalizing w with
  | nil => rfl
  | cons e t ih =>
    rw [applied, List.flatMap_cons, List.foldl_append]
    exact ih (w.after kind e)

theorem applied_append : applied kind (t ++ u) = applied kind t ++ applied kind u :=
  List.flatMap_append

theorem applied_of_queries (queries : ∀ e ∈ t, IsQuery e.request) : applied kind t = [] := by
  rw [applied, List.flatMap_eq_nil_iff]
  intro e mem
  obtain ⟨⟨s, c⟩, reply⟩ := e
  cases c with
  | submit tx => exact absurd rfl (queries _ mem tx)
  | _ => rfl

/-- Queries leave the ends as they are. -/
theorem states_of_queries (queries : ∀ e ∈ t, IsQuery e.request) :
    (w.afterAll kind t).states = w.states := by
  rw [states_afterAll, applied_of_queries queries]
  rfl

/-- The reply of an honest builder. -/
theorem Honest.built {e : Exchange Chains} {m : HandshakeMessage} {message : Message}
    (h : Honest kind w e) (answer : e.message? = some (m, .ok message)) :
    kind message = some m := by
  obtain ⟨⟨s, c⟩, reply⟩ := e
  cases c <;> cases answer <;> exact h

end Handshake

end ChannelRelay
