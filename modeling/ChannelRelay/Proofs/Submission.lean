import ChannelRelay.Batch
import ChannelRelay.Proofs.Exchanges

/-!
# The submission of a batch

The messages for a chain are cut into transactions, and these are submitted in order.

* `flatten_splitMessages`, `ne_nil_of_mem_splitMessages`: cutting keeps every message in its
  place, and makes no transaction without messages;
* `submissions`: the transactions that are submitted along some exchanges;
* `submitAll_admits`: a prefix of the transactions is accepted, and the submission stops at
  the first one that fails;
* `sendSide_admits`, `Batch.send_admits`: what this means for a side and for a batch.
-/

namespace ChannelRelay

/-! ## Cutting -/

namespace Cutting

/-- The messages so far, those of the transaction that has been begun included. -/
def messages (c : Cutting) : List Message := c.closed.reverse.flatten ++ c.current.reverse

theorem messages_add (maxNum maxSize : Nat) (c : Cutting) (m : Message) :
    (c.add maxNum maxSize m).messages = c.messages ++ [m] := by
  unfold add
  dsimp only
  split <;> simp [messages]

theorem messages_foldl (maxNum maxSize : Nat) (c : Cutting) (ms : List Message) :
    (ms.foldl (add maxNum maxSize) c).messages = c.messages ++ ms := by
  induction ms generalizing c with
  | nil => simp
  | cons m ms ih => simp [ih, messages_add]

theorem flatten_transactions (c : Cutting) : c.transactions.flatten = c.messages := by
  unfold transactions messages
  split
  · rename_i none
    simp [List.isEmpty_iff.mp none]
  · simp

/-- No transaction that is complete is empty. -/
def Solid (c : Cutting) : Prop := ∀ tx ∈ c.closed, tx ≠ []

theorem Solid.add {c : Cutting} (h : c.Solid) (maxNum maxSize : Nat) (m : Message) :
    (c.add maxNum maxSize m).Solid := by
  unfold Cutting.add
  dsimp only
  split
  · intro tx mem
    rcases List.mem_cons.mp mem with rfl | mem
    · simp
    · exact h tx mem
  · exact h

theorem Solid.foldl {c : Cutting} (h : c.Solid) (maxNum maxSize : Nat) (ms : List Message) :
    (ms.foldl (Cutting.add maxNum maxSize) c).Solid := by
  induction ms generalizing c with
  | nil => exact h
  | cons m ms ih => exact ih (h.add maxNum maxSize m)

theorem Solid.ne_nil {c : Cutting} (h : c.Solid) {tx : List Message}
    (mem : tx ∈ c.transactions) : tx ≠ [] := by
  unfold transactions at mem
  split at mem
  · exact h tx (by simpa using mem)
  · rename_i begun
    rcases List.mem_cons.mp (List.mem_reverse.mp mem) with rfl | mem
    · simpa [List.isEmpty_iff] using begun
    · exact h tx mem

end Cutting

theorem flatten_splitMessages (maxNum maxSize : Nat) (ms : List Message) :
    (splitMessages maxNum maxSize ms).flatten = ms := by
  rw [splitMessages, Cutting.flatten_transactions, Cutting.messages_foldl]
  rfl

theorem ne_nil_of_mem_splitMessages {maxNum maxSize : Nat} {ms tx : List Message}
    (mem : tx ∈ splitMessages maxNum maxSize ms) : tx ≠ [] := by
  have start : Cutting.Solid {} := nofun
  exact (start.foldl maxNum maxSize ms).ne_nil mem

/-- The message that comes last is in the last transaction, after updates. -/
theorem last_transaction {transactions : List (List Message)} {updates : List Message}
    {message : Message} (all : transactions.flatten = updates ++ [message])
    (solid : ∀ tx ∈ transactions, tx ≠ []) :
    ∃ before rest, transactions = before ++ [rest ++ [message]] ∧
      updates = before.flatten ++ rest := by
  rcases List.eq_nil_or_concat transactions with rfl | ⟨before, final, rfl⟩
  · simp at all
  rw [List.concat_eq_append] at all solid ⊢
  rcases List.eq_nil_or_concat final with rfl | ⟨rest, found, rfl⟩
  · exact absurd rfl (solid [] (by simp))
  · rw [List.concat_eq_append] at all ⊢
    rw [List.flatten_append, List.flatten_singleton, ← List.append_assoc] at all
    obtain ⟨rfl, alone⟩ := List.append_inj' all rfl
    cases List.singleton_inj.mp alone
    exact ⟨before, rest, rfl, rfl⟩

/-! ## Submitting -/

/-- A transaction with the side it goes to and the reply. -/
structure Submission where
  side : Side
  transaction : Transaction
  reply : Except RelayError Unit

def Exchange.submission? : Exchange Chains → Option Submission
  | ⟨(side, .submit transaction), reply⟩ => some ⟨side, transaction, reply⟩
  | _ => none

/-- What is submitted, in order. -/
def submissions (t : List (Exchange Chains)) : List Submission :=
  t.filterMap Exchange.submission?

theorem submissions_append (t u : List (Exchange Chains)) :
    submissions (t ++ u) = submissions t ++ submissions u :=
  List.filterMap_append

theorem submissions_of_queries {t : List (Exchange Chains)} (h : ∀ e ∈ t, IsQuery e.request) :
    submissions t = [] := by
  refine List.filterMap_eq_nil_iff.mpr fun e mem => ?_
  obtain ⟨⟨side, c⟩, reply⟩ := e
  have query := h _ mem
  cases c with
  | submit tx => exact absurd rfl (query tx)
  | _ => rfl

/-- A transaction with these messages is submitted, and this is the reply. -/
def submission (s : Side) (trackingId : TrackingId) (reply : Except RelayError Unit)
    (messages : List Message) : Exchange Chains :=
  ⟨(s, .submit ⟨messages, trackingId⟩), reply⟩

theorem submissions_map (s : Side) (trackingId : TrackingId) (reply : Except RelayError Unit)
    (transactions : List (List Message)) :
    submissions (transactions.map (submission s trackingId reply)) =
      transactions.map fun messages => ⟨s, ⟨messages, trackingId⟩, reply⟩ := by
  induction transactions with
  | nil => rfl
  | cons tx transactions ih => exact congrArg _ ih

/-- Transactions are accepted up to the first that fails, which is the last one submitted. -/
def Cut (s : Side) (trackingId : TrackingId) (transactions : List (List Message))
    (t : List (Exchange Chains)) : Prop :=
  ∃ accepted tx rest e, transactions = accepted ++ tx :: rest ∧
    t = accepted.map (submission s trackingId (.ok ())) ++ [submission s trackingId (.error e) tx]

theorem Cut.cons {s : Side} {trackingId : TrackingId} {transactions : List (List Message)}
    {t : List (Exchange Chains)} (h : Cut s trackingId transactions t) (tx : List Message) :
    Cut s trackingId (tx :: transactions) (submission s trackingId (.ok ()) tx :: t) := by
  obtain ⟨accepted, failed, rest, e, rfl, rfl⟩ := h
  exact ⟨tx :: accepted, failed, rest, e, rfl, rfl⟩

theorem submitAll_admits {s : Side} {trackingId : TrackingId}
    {transactions : List (List Message)} {t : List (Exchange Chains)} {all : Bool} :
    (submitAll s trackingId transactions).Admits t all ↔
      (all = true ∧ t = transactions.map (submission s trackingId (.ok ()))) ∨
      (all = false ∧ Cut s trackingId transactions t) := by
  induction transactions generalizing t with
  | nil =>
    constructor
    · rintro ⟨rfl, rfl⟩
      exact .inl ⟨rfl, rfl⟩
    · rintro (⟨rfl, rfl⟩ | ⟨_, accepted, tx, rest, e, same, _⟩)
      · exact ⟨rfl, rfl⟩
      · cases accepted <;> cases same
  | cons tx rest ih =>
    constructor
    · intro h
      obtain ⟨reply, t', rfl, after⟩ := h
      cases reply with
      | error e =>
        obtain ⟨rfl, rfl⟩ := after
        exact .inr ⟨rfl, [], tx, rest, e, rfl, rfl⟩
      | ok =>
        obtain ⟨rfl, rfl⟩ | ⟨rfl, cut⟩ := ih.mp after
        · exact .inl ⟨rfl, rfl⟩
        · exact .inr ⟨rfl, cut.cons tx⟩
    · intro h
      obtain ⟨rfl, rfl⟩ | ⟨rfl, accepted, failed, after, e, same, rfl⟩ := h
      · exact ⟨.ok (), _, rfl, ih.mpr (.inl ⟨rfl, rfl⟩)⟩
      · cases accepted with
        | nil =>
          cases same
          exact ⟨.error e, [], rfl, rfl, rfl⟩
        | cons first accepted =>
          cases same
          exact ⟨.ok (), _, rfl, ih.mpr (.inr ⟨rfl, accepted, failed, after, e, rfl, rfl⟩)⟩

/-- The transactions that a side is sent. -/
def transactionsOf (config : TxConfig) (messages : List Message) : List (List Message) :=
  splitMessages config.maxMsgNum.toNat config.maxTxSize.toNat messages

theorem sendSide_admits {s : Side} {messages : List Message} {trackingId : String}
    {config : TxConfig} {t : List (Exchange Chains)} {outcome : SendOutcome} :
    (sendSide s messages trackingId config).Admits t outcome ↔
      (messages = [] ∧ outcome = .notSent ∧ t = []) ∨
      (messages ≠ [] ∧ outcome = .accepted ∧
        t = (transactionsOf config messages).map (submission s (.named trackingId) (.ok ()))) ∨
      (messages ≠ [] ∧ outcome = .rejected ∧
        Cut s (.named trackingId) (transactionsOf config messages) t) := by
  unfold sendSide
  cases messages with
  | nil =>
    constructor
    · rintro ⟨rfl, rfl⟩
      exact .inl ⟨rfl, rfl, rfl⟩
    · rintro (⟨_, rfl, rfl⟩ | ⟨more, _⟩ | ⟨more, _⟩)
      · exact ⟨rfl, rfl⟩
      · exact absurd rfl more
      · exact absurd rfl more
  | cons m ms =>
    simp only [List.isEmpty_cons, Bool.false_eq_true, if_false]
    constructor
    · intro h
      obtain ⟨all, first, rest, rfl, submitted, after⟩ := Dialogue.admits_bind.mp h
      obtain ⟨rfl, rfl⟩ | ⟨rfl, cut⟩ := submitAll_admits.mp submitted
      · obtain ⟨rfl, rfl⟩ := after
        exact .inr (.inl ⟨nofun, rfl, List.append_nil _⟩)
      · obtain ⟨rfl, rfl⟩ := after
        exact .inr (.inr ⟨nofun, rfl, by rw [List.append_nil]; exact cut⟩)
    · rintro (⟨none, _⟩ | ⟨_, rfl, rfl⟩ | ⟨_, rfl, cut⟩)
      · cases none
      · exact Dialogue.admits_bind.mpr ⟨true, _, [], (List.append_nil _).symm,
          submitAll_admits.mpr (.inl ⟨rfl, rfl⟩), rfl, rfl⟩
      · exact Dialogue.admits_bind.mpr ⟨false, _, [], (List.append_nil _).symm,
          submitAll_admits.mpr (.inr ⟨rfl, cut⟩), rfl, rfl⟩

theorem Batch.send_admits {b sent : Batch} {config : TxConfig} {t : List (Exchange Chains)} :
    (b.send config).Admits t sent ↔
      ∃ (outcomes : Pair SendOutcome) (first rest : List (Exchange Chains)), t = first ++ rest ∧
        (sendSide .src b.messages.src b.trackingId config).Admits first outcomes.src ∧
        (sendSide .dst b.messages.dst b.trackingId config).Admits rest outcomes.dst ∧
        sent = { b with outcomes } := by
  constructor
  · intro h
    obtain ⟨src, first, _, rfl, toSrc, h₁⟩ := Dialogue.admits_bind.mp h
    obtain ⟨dst, rest, _, rfl, toDst, rfl, rfl⟩ := Dialogue.admits_bind.mp h₁
    exact ⟨⟨src, dst⟩, first, rest, by simp, toSrc, toDst, rfl⟩
  · rintro ⟨outcomes, first, rest, rfl, toSrc, toDst, rfl⟩
    exact (Dialogue.admits_bind_append toSrc).mpr (Dialogue.admits_bind.mpr
      ⟨_, rest, [], (List.append_nil _).symm, toDst, rfl, rfl⟩)

end ChannelRelay
