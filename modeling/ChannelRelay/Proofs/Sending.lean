import ChannelRelay.Proofs.Submission
import ChannelRelay.Simulation.World

/-!
# What sending a batch comes to

Sending serves the two chains one after the other, and neither has a part in what becomes of
the messages for the other.

* `Attempted`: the transactions that a chain is sent, up to the first that it does not accept;
* `Attempted.unique`: they are settled by the transactions to send and the replies to them;
* `Batch.Sent`: what sending a batch over some exchanges has come to;
* `Batch.sent_of_send`: every way to send a batch comes to this.
-/

namespace ChannelRelay

/-! ## One side -/

def Submission.Accepted (x : Submission) : Prop := x.reply = .ok ()

instance (x : Submission) : Decidable x.Accepted :=
  match same : x.reply with
  | .ok () => isTrue same
  | .error _ => isFalse fun accepted => nomatch same.symm.trans accepted

/-- These are the submissions of the transactions to a side: one after the other, and none after
one that fails. -/
inductive Attempted (s : Side) (trackingId : TrackingId) :
    List (List Message) → List Submission → Prop
  | done : Attempted s trackingId [] []
  | failed (messages : List Message) (rest : List (List Message)) (e : RelayError) :
      Attempted s trackingId (messages :: rest) [⟨s, ⟨messages, trackingId⟩, .error e⟩]
  | accepted (messages : List Message) {rest : List (List Message)} {later : List Submission}
      (further : Attempted s trackingId rest later) :
      Attempted s trackingId (messages :: rest) (⟨s, ⟨messages, trackingId⟩, .ok ()⟩ :: later)

/-- As far as both go, the replies are the same. -/
def RepliesAlike (xs ys : List Submission) : Prop :=
  ∀ (n : Nat) (x y : Submission), xs[n]? = some x → ys[n]? = some y → x.reply = y.reply

theorem RepliesAlike.tail {x y : Submission} {xs ys : List Submission}
    (alike : RepliesAlike (x :: xs) (y :: ys)) : RepliesAlike xs ys :=
  fun n x y hx hy => alike (n + 1) x y hx hy

namespace Attempted

variable {s : Side} {trackingId : TrackingId} {transactions : List (List Message)}
  {xs ys : List Submission}

theorem in_order (h : Attempted s trackingId transactions xs) :
    xs.map Submission.transaction <+: transactions.map (Transaction.mk · trackingId) := by
  induction h with
  | done => exact List.prefix_rfl
  | failed messages rest e => exact ⟨rest.map (Transaction.mk · trackingId), rfl⟩
  | accepted messages _ ih => exact (List.prefix_cons_inj _).mpr ih

theorem stops (h : Attempted s trackingId transactions xs) {before after : List Submission}
    {x : Submission} (split : xs = before ++ x :: after) (fails : ¬ x.Accepted) :
    after = [] := by
  induction h generalizing before with
  | done => cases before <;> cases split
  | failed messages rest e =>
    cases before with
    | nil =>
      cases split
      rfl
    | cons first before =>
      obtain ⟨_, none⟩ := List.cons.inj split
      cases before <;> cases none
  | accepted messages _ ih =>
    cases before with
    | nil =>
      cases split
      exact absurd rfl fails
    | cons first before => exact ih (List.cons.inj split).2

theorem whole (h : Attempted s trackingId transactions xs) (all : ∀ x ∈ xs, x.Accepted) :
    xs.map Submission.transaction = transactions.map (Transaction.mk · trackingId) := by
  induction h with
  | done => rfl
  | failed messages rest e => cases all _ List.mem_cons_self
  | accepted messages _ ih =>
    exact congrArg _ (ih fun x mem => all x (List.mem_cons_of_mem _ mem))

/-- The same transactions with the same replies make the same submissions. -/
theorem unique (h : Attempted s trackingId transactions xs)
    (h' : Attempted s trackingId transactions ys) (alike : RepliesAlike xs ys) : xs = ys := by
  induction h generalizing ys with
  | done =>
    cases h'
    rfl
  | failed messages rest e =>
    cases h' with
    | failed _ _ e' =>
      cases alike 0 _ _ rfl rfl
      rfl
    | accepted => cases alike 0 _ _ rfl rfl
  | accepted messages _ ih =>
    cases h' with
    | failed => cases alike 0 _ _ rfl rfl
    | accepted _ further => rw [ih further alike.tail]

theorem onSide (h : Attempted s trackingId transactions xs) : ∀ x ∈ xs, x.side = s := by
  induction h with
  | done => nofun
  | failed messages rest e => simp
  | accepted messages _ ih => exact List.forall_mem_cons.mpr ⟨rfl, ih⟩

theorem all_accepted (s : Side) (trackingId : TrackingId) (transactions : List (List Message)) :
    Attempted s trackingId transactions
      (transactions.map fun messages => ⟨s, ⟨messages, trackingId⟩, .ok ()⟩) := by
  induction transactions with
  | nil => exact .done
  | cons messages transactions ih => exact .accepted messages ih

theorem up_to_failure (s : Side) (trackingId : TrackingId) (before rest : List (List Message))
    (messages : List Message) (e : RelayError) :
    Attempted s trackingId (before ++ messages :: rest)
      ((before.map fun messages => ⟨s, ⟨messages, trackingId⟩, .ok ()⟩) ++
        [⟨s, ⟨messages, trackingId⟩, .error e⟩]) := by
  induction before with
  | nil => exact .failed messages rest e
  | cons first before ih => exact .accepted first ih

end Attempted

/-- What becomes of the messages for a side, by the replies to what is submitted there. -/
def outcomeOf (messages : List Message) (xs : List Submission) : SendOutcome :=
  if messages = [] then .notSent
  else if ∀ x ∈ xs, x.Accepted then .accepted
  else .rejected

theorem outcomeOf_eq_accepted {messages : List Message} {xs : List Submission} :
    outcomeOf messages xs = .accepted ↔ messages ≠ [] ∧ ∀ x ∈ xs, x.Accepted := by
  unfold outcomeOf
  by_cases none : messages = []
  · simp [none]
  · by_cases all : ∀ x ∈ xs, x.Accepted
    · rw [if_neg none, if_pos all]
      exact ⟨fun _ => ⟨none, all⟩, fun _ => rfl⟩
    · simp [none, all]

theorem outcomeOf_eq_rejected {messages : List Message} {xs : List Submission} :
    outcomeOf messages xs = .rejected ↔ messages ≠ [] ∧ ¬ ∀ x ∈ xs, x.Accepted := by
  unfold outcomeOf
  by_cases none : messages = []
  · simp [none]
  · by_cases all : ∀ x ∈ xs, x.Accepted
    · rw [if_neg none, if_pos all]
      exact ⟨nofun, fun h => absurd all h.2⟩
    · simp [none, all]

theorem sendSide_attempted {s : Side} {messages : List Message} {trackingId : String}
    {config : TxConfig} {t : List (Exchange Chains)} {outcome : SendOutcome}
    (h : (sendSide s messages trackingId config).Admits t outcome) :
    Attempted s (.named trackingId) (transactionsOf config messages) (submissions t) ∧
      outcome = outcomeOf messages (submissions t) ∧
      ∀ e ∈ t, ∃ tx, e.request = (s, .submit tx) := by
  obtain ⟨rfl, rfl, rfl⟩ | ⟨more, rfl, rfl⟩ |
    ⟨more, rfl, accepted, messages', rest, e, split, rfl⟩ := sendSide_admits.mp h
  · exact ⟨.done, rfl, List.forall_mem_nil _⟩
  · rw [submissions_map]
    refine ⟨.all_accepted .., (outcomeOf_eq_accepted.mpr ⟨more, fun x mem => ?_⟩).symm, ?_⟩
    · obtain ⟨_, _, rfl⟩ := List.mem_map.mp mem
      rfl
    · intro e mem
      obtain ⟨messages, _, rfl⟩ := List.mem_map.mp mem
      exact ⟨_, rfl⟩
  · rw [submissions_append, submissions_map, split]
    refine ⟨.up_to_failure .., (outcomeOf_eq_rejected.mpr ⟨more, fun all => ?_⟩).symm, ?_⟩
    · cases all _ (List.mem_append_right _ List.mem_cons_self)
    · intro e mem
      rcases List.mem_append.mp mem with mem | mem
      · obtain ⟨messages, _, rfl⟩ := List.mem_map.mp mem
        exact ⟨_, rfl⟩
      · cases List.mem_singleton.mp mem
        exact ⟨_, rfl⟩

/-! ## Both sides -/

/-- What is submitted to the chain on side `s`. -/
def submittedTo (s : Side) (t : List (Exchange Chains)) : List Submission :=
  (submissions t).filter fun x => x.side = s

theorem submittedTo_append {t u : List (Exchange Chains)}
    (src : ∀ x ∈ submissions t, x.side = .src) (dst : ∀ x ∈ submissions u, x.side = .dst) :
    submittedTo .src (t ++ u) = submissions t ∧ submittedTo .dst (t ++ u) = submissions u := by
  unfold submittedTo
  rw [submissions_append, List.filter_append, List.filter_append]
  have here (s : Side) (xs : List Submission) (on : ∀ x ∈ xs, x.side = s) :
      (xs.filter fun x => x.side = s) = xs :=
    List.filter_eq_self.mpr fun x mem => decide_eq_true (on x mem)
  have elsewhere (s : Side) (xs : List Submission) (on : ∀ x ∈ xs, x.side = s.other) :
      (xs.filter fun x => x.side = s) = [] :=
    List.filter_eq_nil_iff.mpr fun x mem same =>
      s.other_ne ((on x mem).symm.trans (of_decide_eq_true same))
  rw [here .src _ src, here .dst _ dst, elsewhere .src _ dst, elsewhere .dst _ src]
  simp

namespace Batch

/-- The transactions that the messages for a side are to be submitted in. -/
def transactions (b : Batch) (config : TxConfig) (s : Side) : List Transaction :=
  (transactionsOf config (b.messages.get s)).map (Transaction.mk · (.named b.trackingId))

/-- Every message for the side was submitted, once and in order, and accepted. -/
def Delivered (b : Batch) (s : Side) (t : List (Exchange Chains)) : Prop :=
  (submittedTo s t).flatMap (fun x => x.transaction.messages) = b.messages.get s ∧
    ∀ x ∈ submittedTo s t, x.Accepted

variable {b sent : Batch} {config : TxConfig} {t : List (Exchange Chains)}

theorem send_attempted (h : (b.send config).Admits t sent) :
    (∀ s, Attempted s (.named b.trackingId) (transactionsOf config (b.messages.get s))
        (submittedTo s t) ∧
      sent.outcomes.get s = outcomeOf (b.messages.get s) (submittedTo s t)) ∧
    (∀ e ∈ t, ∃ s tx, e.request = (s, .submit tx)) ∧ ∃ outcomes, sent = { b with outcomes } := by
  obtain ⟨outcomes, first, rest, rfl, toSrc, toDst, rfl⟩ := send_admits.mp h
  obtain ⟨srcAttempted, srcOutcome, srcOnly⟩ := sendSide_attempted toSrc
  obtain ⟨dstAttempted, dstOutcome, dstOnly⟩ := sendSide_attempted toDst
  obtain ⟨atSrc, atDst⟩ := submittedTo_append srcAttempted.onSide dstAttempted.onSide
  refine ⟨fun s => ?_, ?_, outcomes, rfl⟩
  · cases s with
    | src =>
      rw [atSrc]
      exact ⟨srcAttempted, srcOutcome⟩
    | dst =>
      rw [atDst]
      exact ⟨dstAttempted, dstOutcome⟩
  · intro e mem
    rcases List.mem_append.mp mem with mem | mem
    · exact ⟨.src, srcOnly e mem⟩
    · exact ⟨.dst, dstOnly e mem⟩

theorem succeeded_iff : sent.succeeded = true ↔
    (∃ s, sent.outcomes.get s = .accepted) ∧ ∀ s, sent.outcomes.get s ≠ .rejected := by
  unfold succeeded
  constructor
  · intro h
    simp only [Bool.and_eq_true, Bool.or_eq_true, beq_iff_eq, bne_iff_ne] at h
    obtain ⟨⟨src | dst, srcNot⟩, dstNot⟩ := h
    · exact ⟨⟨.src, src⟩, fun s => by cases s <;> assumption⟩
    · exact ⟨⟨.dst, dst⟩, fun s => by cases s <;> assumption⟩
  · rintro ⟨⟨s, accepted⟩, noFailure⟩
    simp only [Bool.and_eq_true, Bool.or_eq_true, beq_iff_eq, bne_iff_ne]
    refine ⟨⟨?_, noFailure .src⟩, noFailure .dst⟩
    cases s with
    | src => exact .inl accepted
    | dst => exact .inr accepted

/-- The messages for a side are delivered unless one of its transactions fails. -/
theorem delivered_iff {s : Side} (h : Attempted s (.named b.trackingId)
      (transactionsOf config (b.messages.get s)) (submittedTo s t)) :
    b.Delivered s t ↔ outcomeOf (b.messages.get s) (submittedTo s t) ≠ .rejected := by
  rw [Ne, outcomeOf_eq_rejected]
  constructor
  · rintro ⟨_, all⟩ ⟨_, failure⟩
    exact failure all
  · intro noFailure
    have all : ∀ x ∈ submittedTo s t, x.Accepted := by
      by_cases none : b.messages.get s = []
      · rw [none] at h
        cases submitted : submittedTo s t with
        | nil => exact List.forall_mem_nil _
        | cons => rw [submitted] at h; cases h
      · exact Classical.not_not.mp fun failure => noFailure ⟨none, failure⟩
    refine ⟨?_, all⟩
    have flat := congrArg (List.flatMap Transaction.messages) (h.whole all)
    rw [List.flatMap_map, List.flatMap_map] at flat
    rw [flat]
    exact List.flatMap_id'.trans (flatten_splitMessages ..)

/-- What sending the batch `b` over the exchanges `t` has come to, with `sent` afterwards. -/
structure Sent (b : Batch) (config : TxConfig) (t : List (Exchange Chains)) (sent : Batch) :
    Prop where
  only_submits : ∀ e ∈ t, ∃ s tx, e.request = (s, .submit tx)
  in_order : ∀ s, (submittedTo s t).map Submission.transaction <+: b.transactions config s
  /-- Nothing follows a transaction that fails, for whatever reason. -/
  stops : ∀ s before x after, submittedTo s t = before ++ x :: after → ¬ x.Accepted → after = []
  /-- Nothing else keeps transactions back. -/
  whole : ∀ s, (∀ x ∈ submittedTo s t, x.Accepted) →
    (submittedTo s t).map Submission.transaction = b.transactions config s
  /-- Any other batch that is sent fares the same on a side where it has the same messages and
  meets the same replies, whatever happens on the other side. -/
  independent : ∀ s other t' sent', (Batch.send other config).Admits t' sent' →
    other.messages.get s = b.messages.get s → other.trackingId = b.trackingId →
    RepliesAlike (submittedTo s t') (submittedTo s t) →
    submittedTo s t' = submittedTo s t ∧ sent'.outcomes.get s = sent.outcomes.get s
  unchanged : sent.messages = b.messages ∧ sent.last = b.last ∧ sent.trackingId = b.trackingId
  outcome : ∀ s, sent.outcomes.get s = outcomeOf (b.messages.get s) (submittedTo s t)
  /-- Earlier outcomes have no part in this. -/
  afresh : ∀ earlier, (Batch.send { b with outcomes := earlier } config).Admits t sent
  succeeded : sent.succeeded = true ↔
    (∃ s, b.messages.get s ≠ []) ∧ ∀ s, b.Delivered s t

/-- **Sending.** Whatever is in the batch and whatever the chains reply. -/
theorem sent_of_send (h : (b.send config).Admits t sent) : b.Sent config t sent := by
  obtain ⟨sides, only, outcomes, rfl⟩ := send_attempted h
  refine {
    only_submits := only
    in_order := fun s => (sides s).1.in_order
    stops := fun s before x after => (sides s).1.stops
    whole := fun s => (sides s).1.whole
    independent := ?_
    unchanged := ⟨rfl, rfl, rfl⟩
    outcome := fun s => (sides s).2
    afresh := fun earlier => h
    succeeded := ?_ }
  · intro s other t' sent' h' sameMessages sameId alike
    obtain ⟨sides', _⟩ := send_attempted h'
    obtain ⟨attempted, outcome⟩ := sides' s
    rw [sameMessages, sameId] at attempted
    have same := attempted.unique (sides s).1 alike
    exact ⟨same, by rw [outcome, sameMessages, same, (sides s).2]⟩
  · rw [succeeded_iff]
    simp only [fun s => (sides s).2, fun s => delivered_iff (sides s).1]
    constructor
    · rintro ⟨⟨s, accepted⟩, noFailure⟩
      exact ⟨⟨s, (outcomeOf_eq_accepted.mp accepted).1⟩, noFailure⟩
    · rintro ⟨⟨s, more⟩, noFailure⟩
      have all : ∀ x ∈ submittedTo s t, x.Accepted :=
        Classical.not_not.mp fun failure => noFailure s (outcomeOf_eq_rejected.mpr ⟨more, failure⟩)
      exact ⟨⟨s, outcomeOf_eq_accepted.mpr ⟨more, all⟩⟩, noFailure⟩

/-- The source takes the first of three transactions and cannot be reached for the second. The
destination is served all the same, and what became of an earlier attempt is forgotten. -/
theorem sent_of_send_past_failure :
    let message (url : String) : Message := .ofText url "x"
    let batch : Batch := {
      messages := ⟨[message "/a", message "/b", message "/c"], [message "/d"]⟩
      outcomes := ⟨.accepted, .rejected⟩ }
    let world : Simulation.World := { chains :=
      ⟨{ Simulation.ScriptedChain.initial .src (.ofString "ibc-0") with
          sendOutcomes := [.accepted, .unreachable] },
        Simulation.ScriptedChain.initial .dst (.ofString "ibc-1")⟩ }
    let config : TxConfig := { maxMsgNum := 1 }
    let program := batch.send config
    let t := program.transcript (Simulation.World.partner false) world
    let sent := (program.run (Simulation.World.partner false) world).1
    program.Admits t sent ∧ batch.Sent config t sent ∧ sent.outcomes = ⟨.rejected, .accepted⟩ ∧
      (submittedTo .src t).map (fun x => x.transaction.messages) =
        [[message "/a"], [message "/b"]] ∧
      (submittedTo .dst t).map (fun x => x.transaction.messages) = [[message "/d"]] := by
  intro message batch world config program t sent
  have run := Dialogue.admits_run (Simulation.World.partner false) program world
  exact ⟨run, sent_of_send run, by decide +kernel, by decide +kernel, by decide +kernel⟩

end Batch

end ChannelRelay
