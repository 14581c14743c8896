import ChannelRelay.Proofs.Handshake.FailurePolicy
import ChannelRelay.Proofs.Handshake.Progress
import ChannelRelay.Proofs.Handshake.Safety

/-!
# Completion of the handshake

Between cooperative chains every round sends a batch, and what is left of the handshake gets
shorter with every batch that is accepted. As fewer than `maxFailures` rounds pass between two
of these, the rounds of a run are bounded.

* `distance`: the number of messages from a pair of states to the end;
* `agenda`: these messages, on alternating sides;
* `Underway`: the invariant that ties rounds, failures and applied messages together;
* `handshake_completion`: the bound, the result and the messages of a run.
-/

namespace ChannelRelay.Handshake

/-- The number of messages that are left. -/
def distance : Pair ChannelState → Nat
  | ⟨.uninitialized, .uninitialized⟩ => 4
  | ⟨.init, .uninitialized⟩ | ⟨.uninitialized, .init⟩ => 3
  | ⟨.init, .tryOpen⟩ | ⟨.tryOpen, .init⟩ => 2
  | ⟨.tryOpen, .opened⟩ | ⟨.opened, .tryOpen⟩ => 1
  | _ => 0

/-- These messages, to one side and the other in turn. -/
def alternating (s : Side) : List HandshakeMessage → List (Side × HandshakeMessage)
  | [] => []
  | m :: ms => (s, m) :: alternating s.other ms

/-- The messages that are left, beginning with the side that acts next. -/
def agenda (states : Pair ChannelState) : List (Side × HandshakeMessage) :=
  match nextStep states with
  | none => []
  | some action => alternating action.side (HandshakeMessage.all.drop (4 - distance states))

/-- What a row does to the agenda, and when it was the last one. -/
theorem agenda_of_row {states : Pair ChannelState} {action : StepAction}
    (row : (states, action) ∈ handshakeSteps) :
    let next := states.advance (action.side, action.message)
    agenda states = (action.side, action.message) :: agenda next ∧
      (action.last = false → next ∈ handshakeSteps.map Prod.fst) ∧
      (action.last = true → next = ⟨.opened, .opened⟩) := by
  have all : ∀ row ∈ handshakeSteps,
      let next := row.1.advance (row.2.side, row.2.message)
      agenda row.1 = (row.2.side, row.2.message) :: agenda next ∧
        (row.2.last = false → next ∈ handshakeSteps.map Prod.fst) ∧
        (row.2.last = true → next = ⟨.opened, .opened⟩) := by decide
  exact all _ row

theorem length_agenda {states : Pair ChannelState}
    (inside : states ∈ handshakeSteps.map Prod.fst) :
    (agenda states).length = distance states ∧ 0 < distance states := by
  have all : ∀ states ∈ handshakeSteps.map Prod.fst,
      (agenda states).length = distance states ∧ 0 < distance states := by decide
  exact all _ inside

variable {kind : Kind} {w : Actual} {parties : Pair Party} {paths : Pair PathEnd}
  {order : ChannelOrder} {config : Config}

/-- A round between cooperative chains takes the first message off the agenda, or fails. -/
theorem effort_progress {t : List (Exchange Chains)} {e : Effort}
    (valid : validatePaths parties = .ok paths)
    (taken : (effort parties order config).Admits t e)
    (cooperative : Along kind (Cooperative kind) w t)
    (inside : w.states ∈ handshakeSteps.map Prod.fst) :
    ∃ sent, e = .sent sent ∧
      ((sent.succeeded = false ∧ applied kind t = []) ∨
        (sent.succeeded = true ∧ ∃ m, applied kind t = [m] ∧
          agenda w.states = m :: agenda (w.states.advance m) ∧
          (sent.last = false → w.states.advance m ∈ handshakeSteps.map Prod.fst) ∧
          (sent.last = true → w.states.advance m = ⟨.opened, .opened⟩))) := by
  obtain ⟨sent, rfl⟩ := effort_sends valid taken cooperative inside
  obtain ⟨_, ⟨rejected, nothing⟩ | ⟨_, action, same, success, last, row, moved⟩⟩ :=
    effort_effect taken (cooperative.mono fun _ _ h => h.1)
  · exact ⟨sent, rfl, .inl ⟨rejected, nothing⟩⟩
  · cases same
    exact ⟨sent, rfl, .inr ⟨success, _, moved, last ▸ agenda_of_row row⟩⟩

/-- The batches of these rounds that were accepted. -/
def acceptedCount (rounds : List Round) : Nat := (rounds.map Round.effort).countP Effort.accepted

theorem acceptedCount_concat (rounds : List Round) (round : Round) :
    acceptedCount (rounds ++ [round]) =
      acceptedCount rounds + if round.effort.accepted then 1 else 0 := by
  simp [acceptedCount, List.countP_append, List.countP_singleton]

/-- The ends after these rounds. -/
def Actual.through (kind : Kind) (w : Actual) (rounds : List Round) : Actual :=
  w.afterAll kind (rounds.flatMap Round.exchanges)

theorem through_concat (rounds : List Round) (round : Round) :
    w.through kind (rounds ++ [round]) =
      (w.through kind rounds).afterAll kind round.exchanges := by
  rw [Actual.through, List.flatMap_append, List.flatMap_singleton, afterAll_append]
  rfl

/-- The accepted batches of these rounds have taken their messages off the agenda. -/
structure Tally (kind : Kind) (w : Actual) (rounds : List Round) : Prop where
  sent : ∀ round ∈ rounds, ∃ batch, round.effort = .sent batch
  agenda_eq : agenda w.states = applied kind (rounds.flatMap Round.exchanges) ++
    agenda (w.through kind rounds).states
  count : (applied kind (rounds.flatMap Round.exchanges)).length = acceptedCount rounds

/-- One round more, which is accepted or not. -/
theorem Tally.turn {rounds : List Round} {round : Round} (tally : Tally kind w rounds)
    (valid : validatePaths parties = .ok paths)
    (taken : (effort parties order config).Admits round.exchanges round.effort)
    (cooperative : Along kind (Cooperative kind) (w.through kind rounds) round.exchanges)
    (inside : (w.through kind rounds).states ∈ handshakeSteps.map Prod.fst) :
    Tally kind w (rounds ++ [round]) ∧ ∃ sent, round.effort = .sent sent ∧
      ((sent.succeeded = false ∧ acceptedCount (rounds ++ [round]) = acceptedCount rounds ∧
          (w.through kind (rounds ++ [round])).states = (w.through kind rounds).states) ∨
        (sent.succeeded = true ∧ acceptedCount (rounds ++ [round]) = acceptedCount rounds + 1 ∧
          (sent.last = false →
            (w.through kind (rounds ++ [round])).states ∈ handshakeSteps.map Prod.fst) ∧
          (sent.last = true →
            (w.through kind (rounds ++ [round])).states = ⟨.opened, .opened⟩))) := by
  obtain ⟨sent, isSent, outcome⟩ := effort_progress valid taken cooperative inside
  have allSent : ∀ r ∈ rounds ++ [round], ∃ batch, r.effort = .sent batch := by
    intro r mem
    rcases List.mem_append.mp mem with mem | mem
    · exact tally.sent r mem
    · exact ⟨sent, List.mem_singleton.mp mem ▸ isSent⟩
  have count := acceptedCount_concat rounds round
  have moved : (w.through kind (rounds ++ [round])).states =
      (applied kind round.exchanges).foldl Pair.advance (w.through kind rounds).states := by
    rw [through_concat, states_afterAll]
  rw [isSent, Effort.accepted] at count
  obtain ⟨rejected, nothing⟩ | ⟨success, m, one, first, goesOn, ends⟩ := outcome
  · rw [nothing] at moved
    rw [rejected] at count
    refine ⟨⟨allSent, ?_, ?_⟩, sent, isSent, .inl ⟨rejected, count, moved⟩⟩
    · rw [List.flatMap_append, List.flatMap_singleton, applied_append, nothing, moved,
        List.append_nil]
      exact tally.agenda_eq
    · rw [List.flatMap_append, List.flatMap_singleton, applied_append, nothing, List.append_nil,
        tally.count, count]
      rfl
  · rw [one] at moved
    rw [success] at count
    have moved : (w.through kind (rounds ++ [round])).states =
        (w.through kind rounds).states.advance m := moved
    refine ⟨⟨allSent, ?_, ?_⟩, sent, isSent, .inr ⟨success, count, moved ▸ goesOn, moved ▸ ends⟩⟩
    · rw [List.flatMap_append, List.flatMap_singleton, applied_append, one, moved,
        List.append_assoc, List.singleton_append, ← first]
      exact tally.agenda_eq
    · rw [List.flatMap_append, List.flatMap_singleton, applied_append, one, List.length_append,
        tally.count, count]
      rfl

/-- As long as the handshake goes on, some message is left, and an accepted batch stands for
itself and the failed ones right before it. -/
theorem Rounds.underway {rounds : List Round} {failures : UInt64}
    (run : Rounds parties paths order config rounds (.again failures))
    (positive : 0 < config.handshake.maxFailures) (valid : validatePaths parties = .ok paths)
    (cooperative : Along kind (Cooperative kind) w (rounds.flatMap Round.exchanges))
    (begins : w.states ∈ handshakeSteps.map Prod.fst) :
    Tally kind w rounds ∧ (w.through kind rounds).states ∈ handshakeSteps.map Prod.fst ∧
      rounds.length ≤
        acceptedCount rounds * config.handshake.maxFailures.toNat + failures.toNat := by
  generalize same : Turn.again failures = last at run
  induction run generalizing failures with
  | start =>
    cases same
    exact ⟨⟨nofun, rfl, rfl⟩, begins, Nat.zero_le _⟩
  | @turn rounds before round run taken ih =>
    rw [List.flatMap_append, List.flatMap_singleton] at cooperative
    obtain ⟨cooperativeBefore, cooperativeRound⟩ := along_append.mp cooperative
    obtain ⟨tally, inside, bound⟩ := ih cooperativeBefore rfl
    have below := UInt64.lt_iff_toNat_lt.mp (run.counter positive).2
    have more := toNat_count_add_one (run.counter positive).2
    obtain ⟨tally', sent, isSent, outcome⟩ := tally.turn valid taken cooperativeRound inside
    refine ⟨tally', ?_⟩
    rw [isSent, Effort.judge] at same
    rw [List.length_append, List.length_singleton]
    obtain ⟨rejected, count, unmoved⟩ | ⟨success, count, goesOn, _⟩ := outcome
    · rw [judge_of_failed rejected] at same
      split at same
      · cases same
      · cases same
        rw [unmoved, count, more]
        exact ⟨inside, by omega⟩
    · rw [judge_of_succeeded success] at same
      split at same
      · cases same
      · rename_i notLast
        cases same
        rw [count, Nat.add_mul, Nat.one_mul]
        exact ⟨goesOn (by simpa using notLast), by omega⟩

/-- What becomes of a handshake that takes at most `n` rounds. -/
structure Completion (kind : Kind) (w : Actual) (paths : Pair PathEnd) (maxFailures : UInt64)
    (n : Nat) (rounds : List Round) (result : Option (Except HandshakeError Unit)) : Prop where
  sent : ∀ round ∈ rounds, ∃ batch, round.effort = .sent batch
  bound : rounds.length ≤ distance w.states * maxFailures.toNat
  ends : distance w.states * maxFailures.toNat ≤ n → result ≠ none
  success : result = some (.ok ()) ∧ (w.through kind rounds).states = ⟨.opened, .opened⟩ ↔
    acceptedCount rounds = distance w.states ∧ ∀ earlier later, rounds = earlier ++ later →
      recentFailures (earlier.map Round.effort) < maxFailures.toNat
  failure : result ≠ none → result ≠ some (.ok ()) →
    result = some (.error (.failed (paths.map PathEnd.address) maxFailures))
  messages : applied kind (rounds.flatMap Round.exchanges) <+: agenda w.states
  all_messages : result = some (.ok ()) →
    applied kind (rounds.flatMap Round.exchanges) = agenda w.states

theorem Tally.count_add_left {rounds : List Round} (tally : Tally kind w rounds)
    (begins : w.states ∈ handshakeSteps.map Prod.fst) :
    acceptedCount rounds + (agenda (w.through kind rounds).states).length =
      distance w.states := by
  rw [← (length_agenda begins).1, tally.agenda_eq, List.length_append, tally.count]

theorem Tally.count_lt {rounds : List Round} (tally : Tally kind w rounds)
    (begins : w.states ∈ handshakeSteps.map Prod.fst)
    (inside : (w.through kind rounds).states ∈ handshakeSteps.map Prod.fst) :
    acceptedCount rounds < distance w.states := by
  have total := tally.count_add_left begins
  have left := length_agenda inside
  omega

/-- Rounds that leave a message on the agenda. -/
theorem Tally.incomplete {n : Nat} {rounds : List Round} {maxFailures : UInt64}
    {result : Option (Except HandshakeError Unit)} (tally : Tally kind w rounds)
    (begins : w.states ∈ handshakeSteps.map Prod.fst)
    (inside : (w.through kind rounds).states ∈ handshakeSteps.map Prod.fst)
    (bound : rounds.length ≤ (acceptedCount rounds + 1) * maxFailures.toNat)
    (ends : distance w.states * maxFailures.toNat ≤ n → result ≠ none)
    (notOk : result ≠ some (.ok ()))
    (failure : result ≠ none →
      result = some (.error (.failed (paths.map PathEnd.address) maxFailures))) :
    Completion kind w paths maxFailures n rounds result where
  sent := tally.sent
  bound := Nat.le_trans bound (Nat.mul_le_mul_right _ (tally.count_lt begins inside))
  ends := ends
  success := ⟨fun h => absurd h.1 notOk,
    fun h => absurd h.1 (Nat.ne_of_lt (tally.count_lt begins inside))⟩
  failure := fun ended _ => failure ended
  messages := tally.agenda_eq ▸ List.prefix_append ..
  all_messages := fun ok => absurd ok notOk

/-- Before a round fewer batches have failed in a row than are allowed. -/
theorem Rounds.recentFailures_lt {earlier later : List Round} {round : Round} {last : Turn}
    (run : Rounds parties paths order config (earlier ++ round :: later) last)
    (positive : 0 < config.handshake.maxFailures) :
    recentFailures (earlier.map Round.effort) < config.handshake.maxFailures.toNat := by
  obtain ⟨failures, before, _⟩ := run.split
  obtain ⟨count, bound⟩ := before.counter positive
  rw [← count]
  exact UInt64.lt_iff_toNat_lt.mp bound

/-- The last batch was accepted, and with it the handshake is complete. -/
theorem Tally.complete {n : Nat} {before : List Round} {round : Round} {sent : Batch} {last : Turn}
    (run : Rounds parties paths order config (before ++ [round]) last)
    (positive : 0 < config.handshake.maxFailures) (tally : Tally kind w (before ++ [round]))
    (begins : w.states ∈ handshakeSteps.map Prod.fst)
    (opened : (w.through kind (before ++ [round])).states = ⟨.opened, .opened⟩)
    (isSent : round.effort = .sent sent) (success : sent.succeeded = true)
    (bound : (before ++ [round]).length ≤
      acceptedCount (before ++ [round]) * config.handshake.maxFailures.toNat) :
    Completion kind w paths config.handshake.maxFailures n (before ++ [round])
      (some (.ok ())) := by
  have count := tally.count_add_left begins
  have agenda_eq := tally.agenda_eq
  have none : agenda ⟨.opened, .opened⟩ = [] := rfl
  rw [opened, none] at count agenda_eq
  rw [List.append_nil] at agenda_eq
  have fewer (earlier later : List Round) (split : before ++ [round] = earlier ++ later) :
      recentFailures (earlier.map Round.effort) < config.handshake.maxFailures.toNat := by
    cases later with
    | nil =>
      rw [List.append_nil] at split
      rw [← split, List.map_append, List.map_singleton, isSent, recentFailures_sent,
        if_pos success]
      exact UInt64.lt_iff_toNat_lt.mp positive
    | cons next later =>
      rw [split] at run
      exact run.recentFailures_lt positive
  exact {
    sent := tally.sent
    bound := count ▸ bound
    ends := nofun
    success := ⟨fun _ => ⟨count, fewer⟩, fun _ => ⟨rfl, opened⟩⟩
    failure := fun _ notOk => absurd rfl notOk
    messages := agenda_eq ▸ List.prefix_rfl
    all_messages := fun _ => agenda_eq.symm }

theorem Rounds.ended_cases {rounds : List Round} {final : Except HandshakeError Unit}
    (run : Rounds parties paths order config rounds (.ended final)) :
    ∃ before round failures, rounds = before ++ [round] ∧
      Rounds parties paths order config before (.again failures) ∧
      (effort parties order config).Admits round.exchanges round.effort ∧
      round.effort.judge paths config.handshake.maxFailures failures = .ended final := by
  generalize ending : Turn.ended final = last at run
  cases run with
  | start => cases ending
  | turn round before taken => exact ⟨_, round, _, rfl, before, taken, rfl⟩

theorem Rounds.completion {n : Nat} {rounds : List Round} {last : Turn}
    (run : Rounds parties paths order config rounds last)
    (positive : 0 < config.handshake.maxFailures) (valid : validatePaths parties = .ok paths)
    (cooperative : Along kind (Cooperative kind) w (rounds.flatMap Round.exchanges))
    (begins : w.states ∈ handshakeSteps.map Prod.fst)
    (unfinished : last.result? = none → rounds.length = n) :
    Completion kind w paths config.handshake.maxFailures n rounds last.result? := by
  cases last with
  | again failures =>
    obtain ⟨tally, inside, bound⟩ := run.underway positive valid cooperative begins
    have below := UInt64.lt_iff_toNat_lt.mp (run.counter positive).2
    have room := Nat.mul_le_mul_right config.handshake.maxFailures.toNat
      (tally.count_lt begins inside)
    have length := unfinished rfl
    rw [Nat.succ_mul] at room
    refine tally.incomplete begins inside (by rw [Nat.add_mul]; omega) (by omega) ?_ (absurd rfl)
    intro ok
    cases ok
  | ended final =>
    obtain ⟨before, round, failures, rfl, runBefore, taken, ending⟩ := run.ended_cases
    rw [List.flatMap_append, List.flatMap_singleton] at cooperative
    obtain ⟨cooperativeBefore, cooperativeRound⟩ := along_append.mp cooperative
    obtain ⟨tally, inside, bound⟩ := runBefore.underway positive valid cooperativeBefore begins
    have more := toNat_count_add_one (runBefore.counter positive).2
    have below := UInt64.lt_iff_toNat_lt.mp (runBefore.counter positive).2
    obtain ⟨tally', sent, isSent, outcome⟩ := tally.turn valid taken cooperativeRound inside
    have length : (before ++ [round]).length ≤
        (acceptedCount before + 1) * config.handshake.maxFailures.toNat := by
      rw [List.length_append, List.length_singleton, Nat.add_mul]
      omega
    rw [isSent, Effort.judge] at ending
    obtain ⟨rejected, same, unmoved⟩ | ⟨success, count, _, opened⟩ := outcome
    · rw [judge_of_failed rejected] at ending
      split at ending
      · rename_i reached
        cases ending
        have exactly : failures + 1 = config.handshake.maxFailures := by
          rw [UInt64.le_iff_toNat_le] at reached
          rw [← UInt64.toNat_inj]
          omega
        rw [exactly]
        refine tally'.incomplete begins (unmoved ▸ inside) (same ▸ length) ?_ ?_ fun _ => rfl
        · intro _ none
          cases none
        · intro ok
          cases ok
      · cases ending
    · rw [judge_of_succeeded success] at ending
      split at ending
      · rename_i isLast
        cases ending
        exact tally'.complete run positive begins (opened isLast) isSent success (count ▸ length)
      · cases ending

/-- **Completion.** Between cooperative chains, from every pair of states that the handshake
acts on, at most `maxFailures` batches are submitted for each message that is left. The call
succeeds exactly when all of these batches are accepted before so many of them fail in a row,
and then the messages that were applied are the remaining ones in their order, on alternating
sides. Otherwise it reports the failure, and some of these messages were applied. -/
theorem handshake_completion {ordered : Bool} {n : Nat} {t : List (Exchange Chains)}
    {result : Option (Except HandshakeError Unit)} (valid : config.validate = .ok ())
    (validPaths : validatePaths parties = .ok paths)
    (begins : w.states ∈ handshakeSteps.map Prod.fst)
    (run : (createChannel parties ordered config n).Admits t result)
    (cooperative : Along kind (Cooperative kind) w t) :
    ∃ rounds last, Rounds parties paths (.ofBool ordered) config rounds last ∧
      t = rounds.flatMap Round.exchanges ∧ result = last.result? ∧
      Completion kind w paths config.handshake.maxFailures n rounds result := by
  rw [createChannel_of_valid valid validPaths] at run
  obtain ⟨rounds, last, admitted, rfl, rfl, _, unfinished⟩ := turns_rounds .start run
  exact ⟨rounds, last, admitted, rfl, rfl, admitted.completion
    (Config.positive_of_validate valid) validPaths cooperative begins unfinished⟩

/-- Two rejections in a row, and one more later, do not keep the ends from opening. -/
theorem handshake_completion_after_rejections :
    let unopened := scripted ⟨.uninitialized, .uninitialized⟩
    let world := { unopened with
      chains.src.sendOutcomes := [.rejected, .rejected, .accepted, .rejected] }
    let program := createChannel (world.parties false) false {} 12
    ∃ rounds, program.transcript (Simulation.World.partner false) world =
        rounds.flatMap Round.exchanges ∧
      acceptedCount rounds = 4 ∧ applied Kind.byUrl (rounds.flatMap Round.exchanges) =
        [(.src, .openInit), (.dst, .openTry), (.src, .openAck), (.dst, .openConfirm)] := by
  intro unopened world program
  let start : Actual := { states := ⟨.uninitialized, .uninitialized⟩ }
  have valid : validatePaths (world.parties false) = .ok scriptedPaths := rfl
  have success : (program.run (Simulation.World.partner false) world).1 = some (.ok ()) := by
    decide +kernel
  have cooperative : Along Kind.byUrl (Cooperative Kind.byUrl) start
      (program.transcript (Simulation.World.partner false) world) := by decide +kernel
  have begins : start.states ∈ handshakeSteps.map Prod.fst := by decide
  have run := Dialogue.admits_run (Simulation.World.partner false) program world
  obtain ⟨rounds, last, _, same, result, completion⟩ :=
    handshake_completion rfl valid begins run cooperative
  have opened : (start.through Kind.byUrl rounds).states = ⟨.opened, .opened⟩ := by
    rw [Actual.through, ← same]
    decide +kernel
  exact ⟨rounds, same, (completion.success.mp ⟨success, opened⟩).1,
    completion.all_messages success⟩

end ChannelRelay.Handshake
