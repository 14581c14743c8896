import ChannelRelay.Handshake.Run
import ChannelRelay.Proofs.Handshake.Decision
import ChannelRelay.Proofs.Submission

/-!
# The rounds of a handshake

A run of the handshake is a list of rounds, each with its exchanges and what it came to.

* `createChannel_rounds`: the exchanges of a run are those of its rounds, one after the other;
* `Rounds.split`: each of these rounds has a run before it, and only the last one ends the run;
* `effort_cases`: what a round comes to follows from its step.
-/

namespace ChannelRelay.Handshake

/-- What a turn has come to, whatever that means for the handshake. -/
inductive Effort where
  /-- The step could not be evaluated. -/
  | stuck (e : HandshakeError)
  | waited
  /-- A batch was ready, and was sent. -/
  | sent (batch : Batch)

namespace Effort

def failed : Effort → Bool
  | sent batch => !batch.succeeded
  | _ => false

def accepted : Effort → Bool
  | sent batch => batch.succeeded
  | _ => false

/-- What it means for the handshake, after so many failures in a row. -/
def judge (paths : Pair PathEnd) (maxFailures failures : UInt64) : Effort → Turn
  | stuck e => .ended (.error e)
  | waited => .again failures
  | sent batch => Handshake.judge paths maxFailures failures batch

end Effort

/-- A turn without its judgement. -/
def effort (parties : Pair Party) (order : ChannelOrder) (config : Config) :
    Dialogue Chains Effort := do
  match ← (step parties order config.headerSync).run with
  | .error e => return .stuck e
  | .ok batch => if batch.isReady then return .sent (← batch.send config.tx) else return .waited

theorem turn_eq (parties : Pair Party) (paths : Pair PathEnd) (order : ChannelOrder)
    (config : Config) (failures : UInt64) :
    turn parties paths order config failures = do
      return (← effort parties order config).judge paths config.handshake.maxFailures failures := by
  unfold turn effort
  rw [bind_assoc]
  refine bind_congr fun result => ?_
  cases result with
  | error e => rfl
  | ok batch =>
    by_cases ready : batch.isReady
    · simp only [ready, if_true, bind_assoc, pure_bind]
      rfl
    · simp only [ready]
      rfl

structure Round where
  exchanges : List (Exchange Chains)
  effort : Effort

/-- These rounds can be gone through, one after the other, and leave this behind. -/
inductive Rounds (parties : Pair Party) (paths : Pair PathEnd) (order : ChannelOrder)
    (config : Config) : List Round → Turn → Prop
  | start : Rounds parties paths order config [] (.again 0)
  | turn {rounds : List Round} {failures : UInt64} (round : Round)
      (before : Rounds parties paths order config rounds (.again failures))
      (taken : (effort parties order config).Admits round.exchanges round.effort) :
      Rounds parties paths order config (rounds ++ [round])
        (round.effort.judge paths config.handshake.maxFailures failures)

def Turn.result? : Turn → Option (Except HandshakeError Unit)
  | again _ => none
  | ended result => some result

theorem Turn.result?_eq_some {last : Turn} {final : Except HandshakeError Unit} :
    last.result? = some final ↔ last = .ended final := by
  cases last <;> simp [Turn.result?]

variable {parties : Pair Party} {paths : Pair PathEnd} {order : ChannelOrder} {config : Config}

section
variable {maxFailures failures : UInt64} {sent : Batch}

theorem judge_of_succeeded (success : sent.succeeded = true) :
    judge paths maxFailures failures sent =
      if sent.last then .ended (.ok ()) else .again 0 :=
  if_pos success

theorem judge_of_failed (failure : sent.succeeded = false) :
    judge paths maxFailures failures sent =
      if maxFailures ≤ failures + 1 then
        .ended (.error (.failed (paths.map PathEnd.address) (failures + 1)))
      else .again (failures + 1) :=
  if_neg (by simp [failure])

theorem Effort.judge_ok {e : Effort}
    (h : e.judge paths maxFailures failures = .ended (.ok ())) :
    ∃ batch, e = .sent batch ∧ batch.succeeded = true ∧ batch.last = true := by
  cases e with
  | stuck | waited => cases h
  | sent batch =>
    cases success : batch.succeeded with
    | true =>
      rw [Effort.judge, judge_of_succeeded success] at h
      split at h
      · exact ⟨batch, rfl, success, ‹_›⟩
      · cases h
    | false =>
      rw [Effort.judge, judge_of_failed success] at h
      split at h <;> cases h

end

theorem turn_admits {failures : UInt64} {t : List (Exchange Chains)} {next : Turn}
    (h : (turn parties paths order config failures).Admits t next) :
    ∃ e, (effort parties order config).Admits t e ∧
      next = e.judge paths config.handshake.maxFailures failures := by
  rw [turn_eq] at h
  obtain ⟨e, first, _, rfl, taken, rfl, rfl⟩ := Dialogue.admits_bind.mp h
  exact ⟨e, by simpa using taken, rfl⟩

/-- A run goes on from the rounds before it by rounds of its own. -/
theorem turns_rounds {n : Nat} {failures : UInt64} {rounds : List Round}
    {t : List (Exchange Chains)} {result : Option (Except HandshakeError Unit)}
    (before : Rounds parties paths order config rounds (.again failures))
    (h : (turns parties paths order config n failures).Admits t result) :
    ∃ later last, Rounds parties paths order config (rounds ++ later) last ∧
      t = later.flatMap Round.exchanges ∧ result = last.result? ∧ later.length ≤ n ∧
      (result = none → later.length = n) := by
  induction n generalizing failures rounds t with
  | zero =>
    obtain ⟨rfl, rfl⟩ := h
    exact ⟨[], _, by simpa using before, rfl, rfl, Nat.le_refl _, fun _ => rfl⟩
  | succ n ih =>
    obtain ⟨next, first, rest, rfl, turned, h⟩ := Dialogue.admits_bind.mp h
    obtain ⟨e, taken, rfl⟩ := turn_admits turned
    have after := before.turn ⟨first, e⟩ taken
    dsimp only at after
    cases verdict : e.judge paths config.handshake.maxFailures failures with
    | ended final =>
      rw [verdict] at h after
      obtain ⟨rfl, rfl⟩ := h
      exact ⟨[⟨first, e⟩], _, after, by simp, rfl, by simp, nofun⟩
    | again failures' =>
      rw [verdict] at h after
      obtain ⟨later, last, run, rfl, same, bound, full⟩ := ih after h
      refine ⟨⟨first, e⟩ :: later, last, by simpa using run, by simp, same, ?_, fun open_ => ?_⟩
      · simpa using bound
      · simpa using full open_

/-- No step gives the handshake up by itself. -/
theorem step_error {config : HeaderSyncConfig} {t : List (Exchange Chains)} {e : HandshakeError}
    (h : (step parties order config).run.Admits t (.error e)) :
    ∀ ends failures, e ≠ .failed ends failures := by
  obtain ⟨_, same, failed⟩ | ⟨l, first, rest, rfl, _, decided⟩ := step_cases h
  · cases same
    exact (look_error failed).2
  by_cases confirmed : l.Confirmed
  · cases row : nextStep l.states with
    | none =>
      obtain ⟨_, same⟩ := decided.refuses confirmed (nextStep_eq_none.mp row)
      cases same
      exact nofun
    | some action =>
      obtain ⟨_, same, _⟩ | ⟨_, _, _, same, _⟩ :=
        decided.acts confirmed action (nextStep_eq_some.mp row)
      · cases same
      · cases same
        exact nofun
  · cases (decided.waits confirmed).2

theorem effort_cases {t : List (Exchange Chains)} {e : Effort}
    (taken : (effort parties order config).Admits t e) :
    (∃ error, e = .stuck error ∧
      (step parties order config.headerSync).run.Admits t (.error error)) ∨
    (∃ batch, e = .waited ∧ batch.isReady = false ∧
      (step parties order config.headerSync).run.Admits t (.ok batch)) ∨
    ∃ batch sent first rest, e = .sent sent ∧ t = first ++ rest ∧ batch.isReady = true ∧
      (step parties order config.headerSync).run.Admits first (.ok batch) ∧
      (batch.send config.tx).Admits rest sent := by
  obtain ⟨result, first, rest, rfl, stepped, after⟩ := Dialogue.admits_bind.mp taken
  cases result with
  | error error =>
    obtain ⟨rfl, rfl⟩ := after
    exact .inl ⟨error, rfl, by simpa using stepped⟩
  | ok batch =>
    dsimp only at after
    cases ready : batch.isReady with
    | true =>
      rw [if_pos ready] at after
      obtain ⟨sent, rest, _, rfl, sending, rfl, rfl⟩ := Dialogue.admits_bind.mp after
      exact .inr (.inr ⟨batch, sent, first, rest, rfl, by simp, ready, stepped, sending⟩)
    | false =>
      rw [if_neg (by simp [ready])] at after
      obtain ⟨rfl, rfl⟩ := after
      exact .inr (.inl ⟨batch, rfl, ready, by simpa using stepped⟩)

/-- A turn whose step fails is stuck on its error. -/
theorem effort_of_step_error {t : List (Exchange Chains)} {error : HandshakeError} {e : Effort}
    (h : (step parties order config.headerSync).run.Admits t (.error error))
    (taken : (effort parties order config).Admits t e) : e = .stuck error := by
  obtain ⟨error', rfl, stepped⟩ | ⟨batch, rfl, _, stepped⟩ |
    ⟨batch, sent, first, rest, rfl, rfl, _, stepped, _⟩ := effort_cases taken
  · obtain ⟨_, same, _⟩ := h.unique (u := []) stepped rfl
    cases same
    rfl
  · cases (h.unique (u := []) stepped rfl).2.1
  · cases (h.unique (u := []) stepped (List.append_nil _)).2.1

theorem not_failed_of_stuck {t : List (Exchange Chains)} {e : HandshakeError}
    (taken : (effort parties order config).Admits t (.stuck e)) :
    ∀ ends failures, e ≠ .failed ends failures := by
  obtain ⟨_, same, stepped⟩ | ⟨_, same, _⟩ | ⟨_, _, _, _, same, _⟩ := effort_cases taken
  · cases same
    exact step_error stepped
  · cases same
  · cases same

/-- Only the chain that acts is sent anything. -/
theorem rowBatch_send {action : StepAction} {updates : List Message} {message : Message}
    {config : TxConfig} {sent : Batch}
    {t : List (Exchange Chains)}
    (run : ((rowBatch action updates message).send config).Admits t sent) :
    ∃ outcome, (sendSide action.side (updates ++ [message]) action.message.text config).Admits t
        outcome ∧
      sent.last = action.last ∧ (outcome = .accepted → sent.succeeded = true) ∧
      (outcome = .rejected → sent.succeeded = false) := by
  obtain ⟨⟨src, dst⟩, first, rest, rfl, toSrc, toDst, rfl⟩ := Batch.send_admits.mp run
  obtain ⟨side, m, updateClient, last⟩ := action
  cases side with
  | src =>
    obtain ⟨_, rfl, rfl⟩ | ⟨more, _⟩ | ⟨more, _⟩ := sendSide_admits.mp toDst
    · rw [List.append_nil]
      exact ⟨src, toSrc, rfl, by rintro rfl; rfl, by rintro rfl; rfl⟩
    · exact absurd rfl more
    · exact absurd rfl more
  | dst =>
    obtain ⟨_, rfl, rfl⟩ | ⟨more, _⟩ | ⟨more, _⟩ := sendSide_admits.mp toSrc
    · exact ⟨dst, toDst, rfl, by rintro rfl; rfl, by rintro rfl; rfl⟩
    · exact absurd rfl more
    · exact absurd rfl more

/-! ## The rounds of a run -/

theorem Rounds.of_nil {last : Turn} (run : Rounds parties paths order config [] last) :
    last = .again 0 := by
  generalize same : [] = rounds at run
  cases run with
  | start => rfl
  | turn => simp at same

/-- Every round has a run before it, and the last one is the only one to end a run. -/
theorem Rounds.split {earlier later : List Round} {round : Round} {last : Turn}
    (run : Rounds parties paths order config (earlier ++ round :: later) last) :
    ∃ failures, Rounds parties paths order config earlier (.again failures) ∧
      (effort parties order config).Admits round.exchanges round.effort ∧
      ((later = [] ∧
          last = round.effort.judge paths config.handshake.maxFailures failures) ∨
        (later ≠ [] ∧ ∃ next,
          round.effort.judge paths config.handshake.maxFailures failures = .again next)) := by
  generalize same : earlier ++ round :: later = rounds at run
  induction run generalizing later with
  | start => cases earlier <;> cases same
  | @turn rounds failures final before taken ih =>
    obtain ⟨rfl, rfl, rfl⟩ | ⟨middle, rfl, rfl⟩ := append_cons_eq_concat same
    · exact ⟨failures, before, taken, .inl ⟨rfl, rfl⟩⟩
    · obtain ⟨count, first, taken', ⟨rfl, again⟩ | ⟨_, again⟩⟩ := ih rfl
      · exact ⟨count, first, taken', .inr ⟨by simp, failures, again.symm⟩⟩
      · exact ⟨count, first, taken', .inr ⟨by simp, again⟩⟩

theorem createChannel_of_valid (valid : config.validate = .ok ())
    (validPaths : validatePaths parties = .ok paths) (ordered : Bool) (n : Nat) :
    createChannel parties ordered config n = turns parties paths (.ofBool ordered) config n 0 := by
  unfold createChannel
  rw [valid]
  dsimp only
  rw [validPaths]

/-- A run either ends before its first round or goes through rounds. -/
theorem createChannel_rounds {ordered : Bool} {n : Nat} {t : List (Exchange Chains)}
    {result : Option (Except HandshakeError Unit)}
    (run : (createChannel parties ordered config n).Admits t result) :
    (t = [] ∧ ∃ e, result = some (.error e)) ∨
    ∃ paths rounds last, config.validate = .ok () ∧ validatePaths parties = .ok paths ∧
      Rounds parties paths (.ofBool ordered) config rounds last ∧
      t = rounds.flatMap Round.exchanges ∧ result = last.result? ∧ rounds.length ≤ n ∧
      (result = none → rounds.length = n) := by
  unfold createChannel at run
  split at run
  · exact .inl ⟨run.1, _, run.2⟩
  · rename_i valid
    split at run
    · exact .inl ⟨run.1, _, run.2⟩
    · rename_i paths validPaths
      obtain ⟨rounds, last, admitted⟩ := turns_rounds .start run
      exact .inr ⟨paths, rounds, last, valid, validPaths, admitted⟩

end ChannelRelay.Handshake
