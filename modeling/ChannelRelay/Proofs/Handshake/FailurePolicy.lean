import ChannelRelay.Proofs.Handshake.Rounds
import Mathlib.Control.Monad.Basic

/-!
# The failure policy

The count of failures that is carried from round to round is compared with the history of
the rounds.

* `Rounds.counter`: the count is that of the failed batches since the last accepted one;
* `failure_policy`: when the handshake is given up, and with which report.
-/

namespace ChannelRelay.Handshake

/-- The failed batches since the last accepted one, or since the start. -/
def recentFailures (history : List Effort) : Nat :=
  (history.reverse.takeWhile fun e => !e.accepted).countP Effort.failed

theorem recentFailures_concat (history : List Effort) (e : Effort) :
    recentFailures (history ++ [e]) =
      if e.accepted then 0 else recentFailures history + if e.failed then 1 else 0 := by
  unfold recentFailures
  rw [List.reverse_concat, List.takeWhile_cons]
  cases e.accepted with
  | true => rfl
  | false => simp [List.countP_cons]

/-! ## The count of failures -/

section
variable {paths : Pair PathEnd} {maxFailures failures : UInt64} {history : List Effort}

theorem recentFailures_sent {batch : Batch} :
    recentFailures (history ++ [.sent batch]) =
      if batch.succeeded then 0 else recentFailures history + 1 := by
  rw [recentFailures_concat]
  cases success : batch.succeeded <;> simp [Effort.accepted, Effort.failed, success]

@[simp] theorem recentFailures_waited :
    recentFailures (history ++ [.waited]) = recentFailures history := by
  rw [recentFailures_concat]
  rfl

/-- Below the bound the count has room for one more. -/
theorem toNat_count_add_one (bound : failures < maxFailures) :
    (failures + 1).toNat = failures.toNat + 1 := by
  rw [UInt64.lt_iff_toNat_lt] at bound
  have size := maxFailures.toNat_lt_size
  have one : (1 : UInt64).toNat = 1 := rfl
  rw [UInt64.toNat_add, one, Nat.mod_eq_of_lt]
  simp only [UInt64.size] at size
  omega

/-- The count goes on as the history does, and stays below the bound. -/
theorem Effort.judge_again {e : Effort} {next : UInt64}
    (count : failures.toNat = recentFailures history) (bound : failures < maxFailures)
    (h : e.judge paths maxFailures failures = .again next) :
    next.toNat = recentFailures (history ++ [e]) ∧ next < maxFailures := by
  cases e with
  | stuck e => cases h
  | waited =>
    cases h
    exact ⟨by simpa using count, bound⟩
  | sent batch =>
    rw [recentFailures_sent]
    cases success : batch.succeeded with
    | true =>
      have positive : (0 : UInt64) < maxFailures := by
        rw [UInt64.lt_iff_toNat_lt] at bound ⊢
        exact Nat.zero_lt_of_lt bound
      simp only [Effort.judge, judge_of_succeeded success] at h
      split at h
      · cases h
      · cases h
        exact ⟨rfl, positive⟩
    | false =>
      simp only [Effort.judge, judge_of_failed success] at h
      split at h
      · cases h
      · rename_i below
        cases h
        exact ⟨by rw [toNat_count_add_one bound, count]; rfl, UInt64.not_le.mp below⟩

/-- The handshake is given up over the last failure that the bound allows, and over nothing
else but a step that is stuck on such a report. -/
theorem Effort.judge_failed {e : Effort} {ends : Pair ChannelAddress} {reported : UInt64}
    (count : failures.toNat = recentFailures history) (bound : failures < maxFailures)
    (notStuck : ∀ ends failures, e ≠ .stuck (.failed ends failures)) :
    e.judge paths maxFailures failures = .ended (.error (.failed ends reported)) ↔
      (e.failed = true ∧ recentFailures (history ++ [e]) = maxFailures.toNat) ∧
        ends = paths.map PathEnd.address ∧ reported = maxFailures := by
  have room := toNat_count_add_one bound
  have reached : maxFailures ≤ failures + 1 ↔ failures + 1 = maxFailures := by
    rw [UInt64.lt_iff_toNat_lt] at bound
    rw [UInt64.le_iff_toNat_le, ← UInt64.toNat_inj, room]
    omega
  cases e with
  | stuck e =>
    refine ⟨fun h => ?_, fun h => absurd h.1.1 (by simp [Effort.failed])⟩
    cases h
    exact absurd rfl (notStuck ends reported)
  | waited => exact ⟨nofun, fun h => absurd h.1.1 (by simp [Effort.failed])⟩
  | sent batch =>
    rw [recentFailures_sent]
    cases success : batch.succeeded with
    | true =>
      refine ⟨fun h => ?_, fun h => absurd h.1.1 (by simp [Effort.failed, success])⟩
      simp only [Effort.judge, judge_of_succeeded success] at h
      split at h <;> cases h
    | false =>
      have total : recentFailures history + 1 = maxFailures.toNat ↔ failures + 1 = maxFailures := by
        rw [← count, ← room, UInt64.toNat_inj]
      simp only [Effort.judge, Effort.failed, judge_of_failed success, reached]
      by_cases last : failures + 1 = maxFailures
      · simp [last, total, success, eq_comm]
      · simp [last, total]

end

variable {parties : Pair Party} {paths : Pair PathEnd} {order : ChannelOrder} {config : Config}

theorem Rounds.counter {rounds : List Round} {failures : UInt64}
    (positive : 0 < config.handshake.maxFailures)
    (run : Rounds parties paths order config rounds (.again failures)) :
    failures.toNat = recentFailures (rounds.map Round.effort) ∧
      failures < config.handshake.maxFailures := by
  generalize same : Turn.again failures = last at run
  induction run generalizing failures with
  | start =>
    cases same
    exact ⟨rfl, positive⟩
  | turn round _ _ ih =>
    obtain ⟨count, bound⟩ := ih rfl
    rw [List.map_append]
    exact Effort.judge_again count bound same.symm

/-! ## The failure policy -/

/-- The count with which a round is entered after these. -/
def countAfter (earlier : List Round) : UInt64 := .ofNat (recentFailures (earlier.map Round.effort))

/-- How a run with this result treats the round between `earlier` and `later`. -/
structure FollowsPolicy (parties : Pair Party) (paths : Pair PathEnd) (order : ChannelOrder)
    (config : Config) (result : Option (Except HandshakeError Unit)) (earlier : List Round)
    (round : Round) (later : List Round) : Prop where
  taken : (effort parties order config).Admits round.exchanges round.effort
  counter : Rounds parties paths order config earlier (.again (countAfter earlier))
  no_overflow : recentFailures (earlier.map Round.effort) + 1 < UInt64.size
  gives_up : (later = [] ∧ ∃ ends failures, result = some (.error (.failed ends failures))) ↔
    round.effort.failed = true ∧ recentFailures ((earlier ++ [round]).map Round.effort) =
      config.handshake.maxFailures.toNat
  report : later = [] → ∀ ends failures, result = some (.error (.failed ends failures)) →
    ends = paths.map PathEnd.address ∧ failures = config.handshake.maxFailures
  stuck : ∀ e, (step parties order config.headerSync).run.Admits round.exchanges (.error e) →
    later = [] ∧ result = some (.error e)
  /-- Nothing comes after a round that ends the run. -/
  ends : ∀ final, round.effort.judge paths config.handshake.maxFailures (countAfter earlier) =
    .ended final → later = [] ∧ result = some final

theorem Rounds.followsPolicy {earlier later : List Round} {round : Round} {last : Turn}
    (positive : 0 < config.handshake.maxFailures)
    (run : Rounds parties paths order config (earlier ++ round :: later) last) :
    FollowsPolicy parties paths order config last.result? earlier round later := by
  obtain ⟨failures, before, taken, verdict⟩ := run.split
  obtain ⟨count, bound⟩ := before.counter positive
  have entered : countAfter earlier = failures := by rw [countAfter, ← count, UInt64.ofNat_toNat]
  have notStuck : ∀ ends failures, round.effort ≠ .stuck (.failed ends failures) := by
    intro ends failures same
    exact not_failed_of_stuck (same ▸ taken) ends failures rfl
  have ends (final : Except HandshakeError Unit)
      (h : round.effort.judge paths config.handshake.maxFailures failures = .ended final) :
      later = [] ∧ last.result? = some final := by
    obtain ⟨rfl, rfl⟩ | ⟨_, _, again⟩ := verdict
    · exact ⟨rfl, Turn.result?_eq_some.mpr h⟩
    · rw [h] at again
      cases again
  refine {
    taken, counter := entered ▸ before, no_overflow := ?_, gives_up := ?_, report := ?_
    stuck := ?_, ends := entered ▸ ends }
  · rw [← count, ← toNat_count_add_one bound]
    exact (failures + 1).toNat_lt_size
  · rw [List.map_append]
    constructor
    · rintro ⟨rfl, addresses, reported, failed⟩
      obtain ⟨_, rfl⟩ | ⟨more, _⟩ := verdict
      · exact ((Effort.judge_failed count bound notStuck).mp (Turn.result?_eq_some.mp failed)).1
      · exact absurd rfl more
    · intro last
      obtain ⟨rfl, failed⟩ :=
        ends _ ((Effort.judge_failed count bound notStuck).mpr ⟨last, rfl, rfl⟩)
      exact ⟨rfl, _, _, failed⟩
  · rintro rfl addresses reported failed
    obtain ⟨_, rfl⟩ | ⟨more, _⟩ := verdict
    · exact ((Effort.judge_failed count bound notStuck).mp (Turn.result?_eq_some.mp failed)).2
    · exact absurd rfl more
  · intro e h
    exact ends _ (by rw [effort_of_step_error h taken]; rfl)

theorem Config.positive_of_validate (valid : config.validate = .ok ()) :
    0 < config.handshake.maxFailures := by
  unfold Config.validate at valid
  split at valid
  · cases valid
  · rename_i nonzero
    rw [UInt64.lt_iff_toNat_lt]
    have : config.handshake.maxFailures.toNat ≠ 0 := fun zero =>
      nonzero (UInt64.toNat_inj.mp zero)
    exact Nat.pos_of_ne_zero this

/-- **When the handshake is given up.** A run is a list of rounds, and its transactions are
those of the rounds. It ends with a report of failure exactly when a batch fails that is the
last of `maxFailures` failed ones since the last accepted batch, or since the start. -/
theorem failure_policy {ordered : Bool} {n : Nat} {t : List (Exchange Chains)}
    {result : Option (Except HandshakeError Unit)} (valid : config.validate = .ok ())
    (validPaths : validatePaths parties = .ok paths)
    (run : (createChannel parties ordered config n).Admits t result) :
    ∃ rounds last, Rounds parties paths (.ofBool ordered) config rounds last ∧
      t = rounds.flatMap Round.exchanges ∧ result = last.result? ∧ rounds.length ≤ n ∧
      (result = none → rounds.length = n) ∧
      ∀ earlier round later, rounds = earlier ++ round :: later →
        FollowsPolicy parties paths (.ofBool ordered) config result earlier round later := by
  rw [createChannel_of_valid valid validPaths] at run
  obtain ⟨rounds, last, admitted, rfl, rfl, bound, unfinished⟩ := turns_rounds .start run
  refine ⟨rounds, last, admitted, rfl, rfl, bound, unfinished, ?_⟩
  rintro earlier round later rfl
  exact admitted.followsPolicy (Config.positive_of_validate valid)

/-- The path ends of two scripted chains. -/
def scriptedPaths : Pair PathEnd :=
  ⟨Simulation.ScriptedChain.defaultPath (.ofString "ibc-0") 0 none,
    Simulation.ScriptedChain.defaultPath (.ofString "ibc-1") 1 (some .ics20)⟩

/-- The default configuration allows two rejections in a row, and no third one. -/
theorem failure_policy_third_rejection :
    let unopened := scripted ⟨.uninitialized, .uninitialized⟩
    let world := { unopened with chains.src.sendOutcomes := [.rejected, .rejected, .rejected] }
    let program := createChannel (world.parties false) false {} 5
    ∃ rounds last, Rounds (world.parties false) scriptedPaths .unordered {} rounds last ∧
      program.transcript (Simulation.World.partner false) world =
        rounds.flatMap Round.exchanges ∧
      last.result? = some (.error (.failed (scriptedPaths.map PathEnd.address) 3)) ∧
      recentFailures (rounds.map Round.effort) = 3 := by
  intro unopened world program
  have valid : validatePaths (world.parties false) = .ok scriptedPaths := rfl
  have failed : (program.run (Simulation.World.partner false) world).1 =
      some (.error (.failed (scriptedPaths.map PathEnd.address) 3)) := by decide +kernel
  obtain ⟨rounds, last, admitted, same, result, _, _, policy⟩ :=
    failure_policy rfl valid (Dialogue.admits_run (Simulation.World.partner false) program world)
  refine ⟨rounds, last, admitted, same, result ▸ failed, ?_⟩
  rcases List.eq_nil_or_concat rounds with rfl | ⟨earlier, round, rfl⟩
  · rw [admitted.of_nil] at result
    cases failed.symm.trans result
  · rw [List.concat_eq_append]
    exact ((policy earlier round [] List.concat_eq_append).gives_up.mp ⟨rfl, _, _, failed⟩).2

end ChannelRelay.Handshake
