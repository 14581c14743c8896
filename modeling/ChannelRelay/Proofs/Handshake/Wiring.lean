import ChannelRelay.Proofs.Handshake.Pinning

/-!
# The content of a batch

A batch carries one handshake message, for the chain whose turn it is, about the other chain.

* `CarriesOut.updates`: only the acting chain is asked for updates;
* `Wired`: where everything in a batch comes from, and what its marks say;
* `ready_batch_wired`: every batch to submit is made so.
-/

namespace ChannelRelay.Handshake

/-- The row that confirms the channel is the last one. -/
theorem last_of_row {states : Pair ChannelState} {action : StepAction}
    (row : (states, action) ∈ handshakeSteps) :
    action.last = true ↔ action.message = .openConfirm := by
  have all : ∀ row ∈ handshakeSteps, row.2.last = true ↔ row.2.message = .openConfirm := by decide
  exact all _ row

variable {parties : Pair Party} {order : ChannelOrder} {config : HeaderSyncConfig} {l : Look}
  {t : List (Exchange Chains)} {batch : Batch}

theorem rowBatch_acting (action : StepAction) (updates : List Message) (message : Message) :
    (rowBatch action updates message).messages.get action.side = updates ++ [message] := by
  obtain ⟨side, _, _, _⟩ := action
  cases side <;> rfl

theorem rowBatch_other (action : StepAction) (updates : List Message) (message : Message) :
    (rowBatch action updates message).messages.get action.side.other = [] := by
  obtain ⟨side, _, _, _⟩ := action
  cases side <;> rfl

/-- The acting chain is asked for updates with the headers of the other one, and no other chain
is asked for any. -/
theorem CarriesOut.updates {action : StepAction} {rest : List (Exchange Chains)}
    (carried : CarriesOut order l action rest batch) {e : Exchange Chains} (mem : e ∈ rest)
    {s : Side} {headers : List Header} {signer : Signer}
    (isUpdate : e.request = (s, .updateClient headers signer)) :
    s = action.side ∧ headers = l.headers.get action.side.other := by
  obtain same | ⟨_, same | same⟩ := carried.request_cases mem
  · rw [isUpdate] at same
    cases same
  · rw [isUpdate] at same
    cases same
    exact ⟨rfl, rfl⟩
  · rw [isUpdate] at same
    cases found : action.message <;> rw [found] at same <;> cases same

/-- How a step with the exchanges `t` has made its batch. It has seen `l` and carries out the
row `action`; the message is about the end on the other side, and so are the updates. -/
structure Wired (parties : Pair Party) (order : ChannelOrder) (t : List (Exchange Chains))
    (batch : Batch) (l : Look) (action : StepAction) (signer : Signer) (updates : List Message)
    (message : Message) : Prop where
  row : (l.states, action) ∈ handshakeSteps
  paths : ∀ s, (parties.get s).path = some (l.paths.get s)
  /-- The ends are those of the first observation, and the headers are those of the last sync. -/
  pinned : ∃ failed last announced rest,
    PinnedBy (parties.map Party.id) t failed last l announced rest
  acting : batch.messages.get action.side = updates ++ [message]
  other : batch.messages.get action.side.other = []
  signed : ⟨(action.side, .signer), .ok signer⟩ ∈ t
  built : ∃ e, t.getLast? = some e ∧
    e.request = (action.side, action.message.builder order (l.paths.get action.side.other)
      (l.observed.get action.side.other) signer) ∧
    e.message? = some (action.message, .ok message)
  updated : NeedsUpdate action (l.headers.get action.side.other) →
    ⟨(action.side, .updateClient (l.headers.get action.side.other) signer), .ok updates⟩ ∈ t
  not_updated : ¬ NeedsUpdate action (l.headers.get action.side.other) → updates = []
  /-- No client is handed the headers of the chain that it lives on. -/
  foreign : ∀ e ∈ t, ∀ s headers signer, e.request = (s, .updateClient headers signer) →
    s = action.side ∧ headers = l.headers.get action.side.other
  last : batch.last = true ↔ action.message = .openConfirm
  trackingId : batch.trackingId = action.message.text

/-- **Content of a batch.** A batch to submit is for one side: the updates of the client there,
if the row asks for any and headers are missing, and then the message of the row, built from
what was first seen of the other chain. It counts as the last one just if it confirms. -/
theorem ready_batch_wired (run : (step parties order config).run.Admits t (.ok batch))
    (ready : batch.isReady = true) :
    ∃ l action signer updates message,
      Wired parties order t batch l action signer updates message := by
  obtain ⟨l, first, rest, action, rfl, taken, confirmed, row, carried⟩ := ready_step run ready
  have looks := (asks_look parties config).of_admits (look_admits_ok.mpr taken)
  obtain ⟨valid, failed, last, sync, announced, rfl, synced⟩ := taken
  have pinned := synced.pinnedBy announced carried.unobserving
  have carries := carried
  obtain ⟨signer, earlier, updates, e, message, rfl, updated, asked, answered, rfl⟩ := carried
  refine ⟨l, action, signer, updates, message, {
    row
    paths := fun s => ((validatePaths_eq_ok.mp valid).1 s).1
    pinned := ⟨failed, last, announced, _, by rw [List.append_assoc]; exact pinned⟩
    acting := rowBatch_acting action updates message
    other := rowBatch_other action updates message
    signed := by simp
    built := ⟨e, ?_, asked, answered⟩
    updated := fun needed => ?_
    not_updated := fun unneeded => ?_
    foreign := ?_
    last := last_of_row row
    trackingId := rfl }⟩
  · rw [← List.cons_append, ← List.append_assoc, List.getLast?_concat]
  · obtain ⟨_, rfl⟩ | ⟨unneeded, _⟩ := clientUpdates_admits.mp updated
    · exact List.mem_append_right _ (List.mem_cons_of_mem _ List.mem_cons_self)
    · exact absurd needed unneeded
  · obtain ⟨needed, _⟩ | ⟨_, _, same⟩ := clientUpdates_admits.mp updated
    · exact absurd needed unneeded
    · cases same
      rfl
  · intro e mem s headers signer isUpdate
    rcases List.mem_append.mp mem with mem | mem
    · have look := looks e mem
      rw [isUpdate] at look
      exact look.elim
    · exact carries.updates mem isUpdate

/-- A source that is to confirm, with a client that lags behind: it gets an update first. -/
theorem ready_batch_wired_before_confirm :
    let start := scripted ⟨.tryOpen, .opened⟩
    let world := { start with chains.src.clientHeight := ⟨0, 8⟩ }
    let program := (step (world.parties false) .unordered {}).run
    let t := program.transcript (Simulation.World.partner false) world
    ∃ batch l action signer updates message,
      Wired (world.parties false) .unordered t batch l action signer updates message ∧
      batch.last = true ∧ batch.messages.map List.length = ⟨2, 0⟩ := by
  intro start world program t
  have ready : (program.run (Simulation.World.partner false) world).1.toOption.any
      Batch.isReady = true := by decide +kernel
  obtain ⟨batch, outcome, ready⟩ := exists_ready ready
  have run := Dialogue.admits_run (Simulation.World.partner false) program world
  have marks : (program.run (Simulation.World.partner false) world).1.toOption.map
      (fun batch => (batch.last, batch.messages.map List.length)) = some (true, ⟨2, 0⟩) := by
    decide +kernel
  rw [outcome] at run marks
  obtain ⟨l, action, signer, updates, message, wired⟩ := ready_batch_wired run ready
  exact ⟨batch, l, action, signer, updates, message, wired,
    congrArg Prod.fst (Option.some.inj marks), congrArg Prod.snd (Option.some.inj marks)⟩

end ChannelRelay.Handshake
