import ChannelRelay.Proofs.Handshake.Look
import ChannelRelay.Simulation.World

/-!
# The decision of a step

What a step makes of what it has seen.

* `Look.Decides`: it waits unless both observations agree on both ends, gives up on a pair of
  states without a row in the table, and else carries out exactly that row;
* `step_decision`: every step that has looked decides so, and no other step submits anything
  or ends the handshake for good.
-/

namespace ChannelRelay.Handshake

/-- No pair of states has two rows. -/
theorem handshakeSteps_nodup : (handshakeSteps.map Prod.fst).Nodup := by decide

theorem nextStep_eq_some {states : Pair ChannelState} {action : StepAction} :
    nextStep states = some action ↔ (states, action) ∈ handshakeSteps := by
  unfold nextStep
  rw [List.lookup_eq_some_iff]
  constructor
  · rintro ⟨before, after, split, _⟩
    rw [split]
    simp
  · intro row
    obtain ⟨before, after, split⟩ := List.append_of_mem row
    refine ⟨before, after, split, fun other earlier => ?_⟩
    have distinct := handshakeSteps_nodup
    rw [split, List.map_append, List.map_cons, List.nodup_append] at distinct
    have := distinct.2.2 other.1 (List.mem_map_of_mem earlier) states (by simp)
    simpa using this.symm

theorem nextStep_eq_none {states : Pair ChannelState} :
    nextStep states = none ↔ ∀ action, (states, action) ∉ handshakeSteps := by
  simp only [← nextStep_eq_some, Option.eq_none_iff_forall_ne_some, ne_eq]

/-- The batch that carries out a row of the table. -/
def rowBatch (action : StepAction) (updates : List Message) (message : Message) : Batch where
  messages := .seen action.side (updates ++ [message]) []
  last := action.last
  trackingId := action.message.text

theorem rowBatch_isReady (action : StepAction) (updates : List Message) (message : Message) :
    (rowBatch action updates message).isReady = true := by
  obtain ⟨side, _, _, _⟩ := action
  cases side <;> simp [rowBatch, Batch.isReady, Pair.seen]

/-- The exchanges `rest` have the messages of a row built, and `batch` carries them: the
handshake message is the reply to the last exchange. -/
def CarriesOut (order : ChannelOrder) (l : Look) (action : StepAction)
    (rest : List (Exchange Chains)) (batch : Batch) : Prop :=
  ∃ signer earlier updates e message,
    rest = ⟨(action.side, .signer), .ok signer⟩ :: (earlier ++ [e]) ∧
    (clientUpdates action (l.headers.get action.side.other) signer).run.Admits earlier
      (.ok updates) ∧
    e.request = (action.side, action.message.builder order (l.paths.get action.side.other)
      (l.observed.get action.side.other) signer) ∧
    e.message? = some (action.message, .ok message) ∧
    batch = rowBatch action updates message

theorem stepBatch_admits_ok {order : ChannelOrder} {l : Look} {action : StepAction}
    {rest : List (Exchange Chains)} {batch : Batch} :
    (stepBatch action order l.paths l.observed l.headers).run.Admits rest (.ok batch) ↔
      CarriesOut order l action rest batch := by
  constructor
  · intro h
    obtain ⟨_, same, _⟩ | ⟨messages, _, _, rfl, built, rfl, same⟩ := Relay.admits_bind.mp h
    · cases same
    cases same
    obtain ⟨signer, earlier, updates, e, message, rfl, updated, asked, answered, rfl⟩ :=
      stepMessages_admits_ok.mp built
    exact ⟨signer, earlier, updates, e, message, by simp, updated, asked, answered, rfl⟩
  · rintro ⟨signer, earlier, updates, e, message, rfl, updated, asked, answered, rfl⟩
    exact Relay.admits_bind.mpr (.inr ⟨_, _, [], (List.append_nil _).symm,
      stepMessages_admits_ok.mpr
        ⟨signer, earlier, updates, e, message, rfl, updated, asked, answered, rfl⟩, rfl, rfl⟩)

theorem stepBatch_admits_error {order : ChannelOrder} {l : Look} {action : StepAction}
    {rest : List (Exchange Chains)} {error : RelayError}
    (h : (stepBatch action order l.paths l.observed l.headers).run.Admits rest (.error error)) :
    ∃ earlier c, MessageCall action order (l.paths.get action.side.other)
        (l.observed.get action.side.other) (l.headers.get action.side.other) c ∧
      rest = earlier ++ [⟨(action.side, c), .error error⟩] := by
  obtain ⟨_, same, failed⟩ | ⟨_, _, _, _, _, _, same⟩ := Relay.admits_bind.mp h
  · cases same
    exact stepMessages_admits_error failed
  · cases same

/-- What follows from a look, where `rest` are the exchanges of the step after it. -/
structure Look.Decides (order : ChannelOrder) (l : Look) (rest : List (Exchange Chains))
    (result : Except HandshakeError Batch) : Prop where
  /-- An end is still changing. -/
  waits : ¬ l.Confirmed → rest = [] ∧ result = .ok .empty
  /-- The handshake never goes through these states. -/
  refuses : l.Confirmed → (∀ action, (l.states, action) ∉ handshakeSteps) →
    rest = [] ∧
      result = .error (.unexpectedStates l.observed.src.state l.observed.dst.state)
  /-- Either the row of these states is carried out, or one of the calls for its messages
  fails, and the step with it. -/
  acts : l.Confirmed → ∀ action, (l.states, action) ∈ handshakeSteps →
    (∃ batch, result = .ok batch ∧ batch.isReady = true ∧ CarriesOut order l action rest batch) ∨
    (∃ error earlier c, result = .error (.relay error) ∧
      MessageCall action order (l.paths.get action.side.other)
        (l.observed.get action.side.other) (l.headers.get action.side.other) c ∧
      rest = earlier ++ [⟨(action.side, c), .error error⟩])

theorem act_decides {order : ChannelOrder} {l : Look} {rest : List (Exchange Chains)}
    {result : Except HandshakeError Batch} (h : (act order l).run.Admits rest result) :
    l.Decides order rest result := by
  unfold act at h
  by_cases confirmed : l.Confirmed
  · rw [if_pos confirmed] at h
    cases row : nextStep l.states with
    | none =>
      rw [row] at h
      refine ⟨fun moving => absurd confirmed moving, fun _ _ => h, fun _ action mem => ?_⟩
      exact absurd mem (nextStep_eq_none.mp row action)
    | some action =>
      rw [row] at h
      refine ⟨fun moving => absurd confirmed moving, fun _ rowless => ?_, fun _ other mem => ?_⟩
      · exact absurd (nextStep_eq_some.mp row) (rowless action)
      · obtain rfl : action = other := Option.some.inj (row.symm.trans (nextStep_eq_some.mpr mem))
        cases result with
        | ok batch =>
          have carried := stepBatch_admits_ok.mp (Relay.admits_wrapError_ok.mp h)
          refine .inl ⟨batch, rfl, ?_, carried⟩
          obtain ⟨_, _, updates, _, message, _, _, _, _, rfl⟩ := carried
          exact rowBatch_isReady action updates message
        | error e =>
          obtain ⟨error, rfl, failed⟩ := Relay.admits_wrapError_error.mp h
          obtain ⟨earlier, c, call, rfl⟩ := stepBatch_admits_error failed
          exact .inr ⟨error, earlier, c, rfl, call, rfl⟩
  · rw [if_neg confirmed] at h
    exact ⟨fun _ => h, fun c => absurd c confirmed, fun c => absurd c confirmed⟩

/-- A step looks and then decides, unless it cannot finish looking. -/
theorem step_cases {parties : Pair Party} {order : ChannelOrder} {config : HeaderSyncConfig}
    {t : List (Exchange Chains)} {result : Except HandshakeError Batch}
    (h : (step parties order config).run.Admits t result) :
    (∃ e, result = .error e ∧ (look parties config).run.Admits t (.error e)) ∨
    ∃ (l : Look) (first rest : List (Exchange Chains)), t = first ++ rest ∧
      l.Taken parties config first ∧ l.Decides order rest result := by
  rw [step_eq] at h
  obtain failed | ⟨l, first, rest, rfl, looked, acted⟩ := Relay.admits_bind.mp h
  · exact .inl failed
  · exact .inr ⟨l, first, rest, rfl, look_admits_ok.mp looked, act_decides acted⟩

/-- A batch that is ready carries out the row of states that were confirmed. -/
theorem ready_step {parties : Pair Party} {order : ChannelOrder} {config : HeaderSyncConfig}
    {t : List (Exchange Chains)} {batch : Batch}
    (run : (step parties order config).run.Admits t (.ok batch))
    (ready : batch.isReady = true) :
    ∃ (l : Look) (first rest : List (Exchange Chains)) (action : StepAction),
      t = first ++ rest ∧ l.Taken parties config first ∧ l.Confirmed ∧
        (l.states, action) ∈ handshakeSteps ∧ CarriesOut order l action rest batch := by
  obtain ⟨_, same, _⟩ | ⟨l, first, rest, split, taken, decided⟩ := step_cases run
  · cases same
  by_cases confirmed : l.Confirmed
  · cases found : nextStep l.states with
    | none => cases (decided.refuses confirmed (nextStep_eq_none.mp found)).2
    | some action =>
      have row := nextStep_eq_some.mp found
      obtain ⟨_, same, _, carried⟩ | ⟨_, _, _, same, _⟩ := decided.acts confirmed action row
      · cases same
        exact ⟨l, first, rest, action, split, taken, confirmed, row, carried⟩
      · cases same
  · cases (decided.waits confirmed).2
    cases ready

/-- A step that has looked, whatever it saw and whatever it was told afterwards, decides by
what it saw. A batch to submit and the end of the handshake for good come from nothing but a
look that was confirmed on both ends, and a batch without messages never counts as the last. -/
theorem step_decision {parties : Pair Party} {order : ChannelOrder} {config : HeaderSyncConfig}
    {t : List (Exchange Chains)} {result : Except HandshakeError Batch}
    (run : (step parties order config).run.Admits t result) :
    (∀ (l : Look) (first rest : List (Exchange Chains)), t = first ++ rest →
      l.Taken parties config first → l.Decides order rest result) ∧
    ((∃ batch, result = .ok batch ∧ batch.isReady = true) ∨
        (∃ e, result = .error e ∧ e.isFatal = true) →
      ∃ (l : Look) (first rest : List (Exchange Chains)), t = first ++ rest ∧
        l.Taken parties config first ∧ l.Confirmed) ∧
    (∀ batch, result = .ok batch → batch.isReady = false → batch.last = false) := by
  refine ⟨?_, ?_, ?_⟩
  · rintro l first rest rfl taken
    rw [step_eq, Relay.admits_bind_append (look_admits_ok.mpr taken)] at run
    exact act_decides run
  · intro outcome
    obtain ⟨e, rfl, failed⟩ | ⟨l, first, rest, rfl, taken, decided⟩ := step_cases run
    · obtain ⟨_, same, _⟩ | ⟨_, same, fatal⟩ := outcome
      · cases same
      · cases same
        rw [(look_error failed).1] at fatal
        cases fatal
    · by_cases confirmed : l.Confirmed
      · exact ⟨l, first, rest, rfl, taken, confirmed⟩
      · obtain ⟨_, rfl⟩ := decided.waits confirmed
        obtain ⟨_, same, ready⟩ | ⟨_, same, _⟩ := outcome
        · cases same
          cases ready
        · cases same
  · rintro batch rfl idle
    obtain ⟨e, same, _⟩ | ⟨l, first, rest, rfl, _, decided⟩ := step_cases run
    · cases same
    by_cases confirmed : l.Confirmed
    · cases row : nextStep l.states with
      | none =>
        cases (decided.refuses confirmed (nextStep_eq_none.mp row)).2
      | some action =>
        obtain ⟨_, same, ready, _⟩ | ⟨_, _, _, same, _⟩ :=
          decided.acts confirmed action (nextStep_eq_some.mp row)
        · cases same
          rw [idle] at ready
          cases ready
        · cases same
    · cases (decided.waits confirmed).2
      rfl

/-- A result that passes for a batch to submit. -/
theorem exists_ready {result : Except HandshakeError Batch}
    (h : result.toOption.any Batch.isReady = true) :
    ∃ batch, result = .ok batch ∧ batch.isReady = true := by
  cases result with
  | ok batch => exact ⟨batch, rfl, h⟩
  | error e => cases h

/-- Before the last message both ends are looked at and confirmed. -/
theorem step_decision_before_confirm :
    let world := scripted ⟨.tryOpen, .opened⟩
    let program := (step (world.parties false) .unordered {}).run
    ∃ (l : Look) (first rest : List (Exchange Chains)),
      program.transcript (Simulation.World.partner false) world = first ++ rest ∧
      l.Taken (world.parties false) {} first ∧ l.Confirmed := by
  intro world program
  have ready : (program.run (Simulation.World.partner false) world).1.toOption.any
      Batch.isReady = true := by decide +kernel
  have run := Dialogue.admits_run (Simulation.World.partner false) program world
  refine (step_decision run).2.1 (.inl ?_)
  cases outcome : (program.run (Simulation.World.partner false) world).1 with
  | ok batch => exact ⟨batch, rfl, by simpa [outcome, Except.toOption] using ready⟩
  | error e => simp [outcome, Except.toOption] at ready

end ChannelRelay.Handshake
