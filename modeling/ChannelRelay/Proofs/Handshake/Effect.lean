import ChannelRelay.Proofs.Handshake.Actual
import ChannelRelay.Proofs.Handshake.Rounds

/-!
# What a round does to the ends

Between honest chains a round that is confirmed sees the two ends as they are, so that its
message fits them. The message is the last one of its batch: either the whole batch is
accepted and the message applied, or it is not applied at all.

* `Look.Taken.confirmed_states`: a confirmed look has seen the actual states;
* `sendSide_effect`: the message of a batch is applied exactly when the batch is accepted;
* `effort_effect`: the effect of a round is the row of the states it met, or nothing.
-/

namespace ChannelRelay.Handshake

variable {kind : Kind} {w : Actual} {t : List (Exchange Chains)}

/-- Whatever handshake message is submitted finds its end in the state it moves from. -/
def Finds (kind : Kind) (w : Actual) (e : Exchange Chains) : Prop :=
  ∀ s tx reply, e = ⟨(s, .submit tx), reply⟩ →
    ∀ earlier message later m, tx.messages = earlier ++ message :: later →
      kind message = some m →
        (((earlier.filterMap kind).map (s, ·)).foldl Pair.advance w.states).get s = m.source

/-- The two ends are in these states, and stay in them up to this exchange. -/
def Meets (kind : Kind) (states : Pair ChannelState) (w : Actual) (e : Exchange Chains) : Prop :=
  w.states = states ∧ Finds kind w e

theorem along_of_queries (queries : ∀ e ∈ t, IsQuery e.request) :
    Along kind (Meets kind w.states) w t := by
  generalize start : w.states = states
  induction t generalizing w with
  | nil => trivial
  | cons e t ih =>
    have first : IsQuery e.request := queries e List.mem_cons_self
    refine ⟨⟨start, ?_⟩, ih (fun e mem => queries e (List.mem_cons_of_mem _ mem)) ?_⟩
    · rintro s tx reply rfl
      exact absurd rfl (first tx)
    · rw [← start]
      exact states_of_queries (t := [e]) (by simpa using first)

/-! ## The look -/

theorem Look.Taken.queries {parties : Pair Party} {config : HeaderSyncConfig} {l : Look}
    (taken : l.Taken parties config t) : ∀ e ∈ t, IsQuery e.request := by
  intro e mem
  have looks := (asks_look parties config).of_admits (look_admits_ok.mpr taken)
  exact (looks e mem).isQuery

/-- The second observation tells the states as they are. -/
theorem Look.Taken.latest_states {parties : Pair Party} {config : HeaderSyncConfig} {l : Look}
    (taken : l.Taken parties config t) (honest : Along kind (Honest kind) w t) :
    l.latest.map ProvenChannel.state = w.states := by
  have queries := taken.queries
  obtain ⟨_, _, _, sync, _, rfl, _⟩ := taken
  have before : (w.afterAll kind sync).states = w.states :=
    states_of_queries fun e mem => queries e (List.mem_append_left _ mem)
  obtain ⟨_, _, _, _, src, dst, _⟩ := (along_append.mp honest).2
  have src : l.latest.src.state = (w.afterAll kind sync).states.src := src rfl
  have dst : l.latest.dst.state = (w.afterAll kind sync).states.dst := dst rfl
  rw [before] at src dst
  simp only [Pair.map, src, dst]

theorem Look.Taken.confirmed_states {parties : Pair Party} {config : HeaderSyncConfig} {l : Look}
    (taken : l.Taken parties config t) (honest : Along kind (Honest kind) w t)
    (confirmed : l.Confirmed) : l.states = w.states := by
  rw [← taken.latest_states honest]
  simp only [Look.states, Pair.map, confirmed.1, confirmed.2]

/-! ## The submission -/

theorem Silent.filterMap {messages : List Message} (h : Silent kind messages) :
    messages.filterMap kind = [] :=
  List.filterMap_eq_nil_iff.mpr h

variable {s : Side} {trackingId : TrackingId}

theorem appliedBy_silent {tx : List Message} (h : Silent kind tx) :
    appliedBy kind (submission s trackingId (.ok ()) tx) = [] := by
  simp [appliedBy, submission, h.filterMap]

theorem appliedBy_message {updates : List Message} {message : Message} {m : HandshakeMessage}
    (silent : Silent kind updates) (is : kind message = some m) :
    appliedBy kind (submission s trackingId (.ok ()) (updates ++ [message])) = [(s, m)] := by
  simp [appliedBy, submission, silent.filterMap, is]

theorem finds_silent {tx : List Message} (h : Silent kind tx) (reply : Except RelayError Unit) :
    Finds kind w (submission s trackingId reply tx) := by
  rintro s' tx' reply' same earlier message later m split is
  cases same
  rw [h message (by simp [show tx = _ from split])] at is
  cases is

theorem finds_message {updates : List Message} {message : Message} {m : HandshakeMessage}
    (silent : Silent kind updates) (is : kind message = some m)
    (source : w.states.get s = m.source) (reply : Except RelayError Unit) :
    Finds kind w (submission s trackingId reply (updates ++ [message])) := by
  rintro s' tx' reply' same earlier found later m' split isFound
  cases same
  obtain ⟨rfl, rfl, _⟩ | ⟨between, rfl, _⟩ := append_cons_eq_concat split.symm
  · cases is.symm.trans isFound
    rw [silent.filterMap]
    exact source
  · rw [silent found (by simp)] at isFound
    cases isFound

/-- Transactions without handshake messages go by. -/
theorem along_silent (w : Actual) (s : Side) (trackingId : TrackingId)
    {transactions : List (List Message)} (silent : ∀ tx ∈ transactions, Silent kind tx) :
    let t := transactions.map (submission s trackingId (.ok ()))
    Along kind (Meets kind w.states) w t ∧ applied kind t = [] := by
  intro t
  have nothing : applied kind t = [] := by
    rw [applied, List.flatMap_eq_nil_iff]
    intro e mem
    obtain ⟨tx, isOne, rfl⟩ := List.mem_map.mp mem
    exact appliedBy_silent (silent tx isOne)
  refine ⟨?_, nothing⟩
  clear nothing
  generalize start : w.states = states
  induction transactions generalizing w with
  | nil => trivial
  | cons tx transactions ih =>
    have first : Silent kind tx := silent tx List.mem_cons_self
    refine ⟨⟨start, finds_silent first _⟩,
      ih _ (fun tx mem => silent tx (List.mem_cons_of_mem _ mem)) ?_⟩
    rw [Actual.after, appliedBy_silent first]
    exact start

/-- Nothing is applied before the last exchange of a submission, and then the handshake
message or nothing. -/
theorem sendSide_effect {updates : List Message} {message : Message} {m : HandshakeMessage}
    {name : String} {config : TxConfig} {outcome : SendOutcome}
    (silent : Silent kind updates) (is : kind message = some m)
    (source : w.states.get s = m.source)
    (run : (sendSide s (updates ++ [message]) name config).Admits t outcome) :
    Along kind (Meets kind w.states) w t ∧
      ((outcome = .accepted ∧ applied kind t = [(s, m)]) ∨
        (outcome = .rejected ∧ applied kind t = [])) := by
  have all : (transactionsOf config (updates ++ [message])).flatten = updates ++ [message] :=
    flatten_splitMessages ..
  obtain ⟨before, rest, cut, rfl⟩ :=
    last_transaction all fun tx mem => ne_nil_of_mem_splitMessages mem
  have quiet : ∀ tx ∈ before, Silent kind tx := fun tx mem found isIn =>
    silent found (List.mem_append_left _ (List.mem_flatten.mpr ⟨tx, mem, isIn⟩))
  have quietRest : Silent kind rest := fun found isIn => silent found (List.mem_append_right _ isIn)
  -- Whatever ends the submission meets the states of its start.
  have ending (txs : List (List Message)) (e : Exchange Chains)
      (quiet : ∀ tx ∈ txs, Silent kind tx) (finds : ∀ w', w'.states = w.states → Finds kind w' e) :
      let t := txs.map (submission s (.named name) (.ok ())) ++ [e]
      Along kind (Meets kind w.states) w t ∧ applied kind t = appliedBy kind e := by
    have first := along_silent w s (.named name) quiet
    have here : (w.afterAll kind (txs.map (submission s (.named name) (.ok ())))).states =
        w.states := by
      rw [states_afterAll, first.2]
      rfl
    refine ⟨along_append.mpr ⟨first.1, ⟨here, finds _ here⟩, trivial⟩, ?_⟩
    rw [applied_append, first.2, applied]
    simp
  have finding (reply : Except RelayError Unit) (w' : Actual) (same : w'.states = w.states) :
      Finds kind w' (submission s (.named name) reply (rest ++ [message])) :=
    finds_message quietRest is (same ▸ source) reply
  obtain ⟨none, _⟩ | ⟨_, rfl, rfl⟩ | ⟨_, rfl, accepted, tx, after, e, split, rfl⟩ :=
    sendSide_admits.mp run
  · simp at none
  · rw [cut, List.map_append]
    obtain ⟨along, effect⟩ := ending _ _ quiet (finding (.ok ()))
    exact ⟨along, .inl ⟨rfl, effect.trans (appliedBy_message quietRest is)⟩⟩
  · rw [cut] at split
    obtain ⟨rfl, rfl, _⟩ | ⟨after', rfl, _⟩ := append_cons_eq_concat split.symm
    · obtain ⟨along, effect⟩ := ending _ _ quiet (finding (.error e))
      exact ⟨along, .inr ⟨rfl, effect⟩⟩
    · obtain ⟨along, effect⟩ := ending accepted
        (submission s (.named name) (.error e) tx)
        (fun tx mem => quiet tx (List.mem_append_left _ mem))
        (fun w' _ => finds_silent (quiet tx (by simp)) _)
      exact ⟨along, .inr ⟨rfl, effect⟩⟩

/-! ## The round -/

/-- A row acts on an end that is in the state its message moves from. -/
theorem source_of_row {states : Pair ChannelState} {action : StepAction}
    (row : (states, action) ∈ handshakeSteps) :
    states.get action.side = action.message.source := by
  have all : ∀ row ∈ handshakeSteps, row.1.get row.2.side = row.2.message.source := by decide
  exact all _ row

/-- A batch that is ready carries out the row of the actual states. -/
theorem step_effect {parties : Pair Party} {order : ChannelOrder} {config : HeaderSyncConfig}
    {batch : Batch} (run : (step parties order config).run.Admits t (.ok batch))
    (ready : batch.isReady = true) (honest : Along kind (Honest kind) w t) :
    ∃ action updates message, (w.states, action) ∈ handshakeSteps ∧
      batch = rowBatch action updates message ∧ Silent kind updates ∧
      kind message = some action.message := by
  obtain ⟨l, first, rest, action, rfl, taken, confirmed, row, carried⟩ := ready_step run ready
  obtain ⟨honestFirst, honestRest⟩ := along_append.mp honest
  obtain ⟨signer, earlier, updates, e, message, rfl, updated, _, answered, rfl⟩ := carried
  obtain ⟨_, honestRest⟩ := honestRest
  refine ⟨action, updates, message, taken.confirmed_states honestFirst confirmed ▸ row, rfl,
    ?_, honestRest.at.built answered⟩
  obtain ⟨_, rfl⟩ | ⟨_, _, same⟩ := clientUpdates_admits.mp updated
  · exact honestRest.1
  · cases same
    exact nofun

/-- A round leaves the ends as they are until its last exchange. What that one applies is the
row of these states if the batch is accepted, and nothing in every other case. -/
theorem effort_effect {parties : Pair Party} {order : ChannelOrder} {config : Config} {e : Effort}
    (taken : (effort parties order config).Admits t e) (honest : Along kind (Honest kind) w t) :
    Along kind (Meets kind w.states) w t ∧
      ((e.accepted = false ∧ applied kind t = []) ∨
        ∃ sent action, e = .sent sent ∧ sent.succeeded = true ∧ sent.last = action.last ∧
          (w.states, action) ∈ handshakeSteps ∧
          applied kind t = [(action.side, action.message)]) := by
  have asks := asks_step parties order config.headerSync
  obtain ⟨error, rfl, stepped⟩ | ⟨batch, rfl, _, stepped⟩ |
    ⟨batch, sent, first, rest, rfl, rfl, ready, stepped, sending⟩ := effort_cases taken
  · have queries := asks.of_admits stepped
    exact ⟨along_of_queries queries, .inl ⟨rfl, applied_of_queries queries⟩⟩
  · have queries := asks.of_admits stepped
    exact ⟨along_of_queries queries, .inl ⟨rfl, applied_of_queries queries⟩⟩
  · have queries := asks.of_admits stepped
    have before : (w.afterAll kind first).states = w.states := states_of_queries queries
    obtain ⟨action, updates, message, row, rfl, silent, is⟩ :=
      step_effect stepped ready (along_append.mp honest).1
    obtain ⟨outcome, toSide, last, accepted, rejected⟩ := rowBatch_send sending
    obtain ⟨along, effect⟩ :=
      sendSide_effect silent is (before.symm ▸ source_of_row row) toSide
    rw [before] at along
    refine ⟨along_append.mpr ⟨along_of_queries queries, along⟩, ?_⟩
    rw [applied_append, applied_of_queries queries, List.nil_append]
    obtain ⟨same, effect⟩ | ⟨same, effect⟩ := effect
    · exact .inr ⟨sent, action, rfl, accepted same, last, row, effect⟩
    · exact .inl ⟨rejected same, effect⟩

end ChannelRelay.Handshake
