import ChannelRelay.Proofs.Transactions

/-!
# Cutting is greedy

Messages are put into a transaction until it is full, and then into the next one. There is only
one way to cut messages so.

* `Greedy`: what is to be said of the transactions, without a word on how they are cut;
* `greedy_splitMessages`: the transactions that messages are cut into are of this kind;
* `Greedy.unique`: no others are;
* `greedy_iff`: both together, with what follows for the number of messages in a transaction.
-/

namespace ChannelRelay

variable {maxNum maxSize : Nat} {ms part rest : List Message} {txs : List (List Message)}

/-- The messages in these transactions are the given ones, in their order, and each transaction
ends as soon as it is full. -/
structure Greedy (maxNum maxSize : Nat) (ms : List Message) (txs : List (List Message)) :
    Prop where
  whole : txs.flatten = ms
  nonempty : ∀ tx ∈ txs, tx ≠ []
  /-- Only the last transaction may take more. -/
  full : ∀ tx ∈ txs.dropLast, Full maxNum maxSize tx
  notBefore : ∀ tx ∈ txs, ∀ part rest, tx = part ++ rest → part ≠ [] → rest ≠ [] →
    ¬ Full maxNum maxSize part

/-! ## Transactions as they are cut -/

theorem Full.append (h : Full maxNum maxSize part) (rest : List Message) :
    Full maxNum maxSize (part ++ rest) := by
  unfold Full at h ⊢
  rw [List.length_append, totalLength_append]
  omega

theorem Unfilled.of_append (h : Unfilled maxNum maxSize (part ++ rest)) :
    Unfilled maxNum maxSize part := by
  intro begun full
  have more : part ++ rest ≠ [] := by simp [begun]
  exact h more (full.append rest)

/-- Whichever way a transaction has ended, no part of it was full. -/
theorem not_full_of_part {tx : List Message}
    (h : FilledByLast maxNum maxSize tx ∨ Unfilled maxNum maxSize tx) (split : tx = part ++ rest)
    (begun : part ≠ []) (proper : rest ≠ []) : ¬ Full maxNum maxSize part := by
  obtain ⟨-, earlier, last, split', unfilled⟩ | unfilled := h
  · rw [split', ← List.dropLast_concat_getLast proper, ← List.append_assoc] at split
    have same : earlier = part ++ rest.dropLast := (List.append_inj' split rfl).1
    rw [same] at unfilled
    exact unfilled.of_append begun
  · rw [split] at unfilled
    exact unfilled.of_append begun

namespace Cutting

variable {c : Cutting}

/-- Whatever comes before the last transaction is complete. -/
theorem mem_closed_of_mem_dropLast {tx : List Message} (mem : tx ∈ c.transactions.dropLast) :
    tx ∈ c.closed := by
  unfold transactions at mem
  split at mem
  · exact List.mem_reverse.mp (List.dropLast_subset _ mem)
  · rw [List.reverse_cons, List.dropLast_concat] at mem
    exact List.mem_reverse.mp mem

end Cutting

/-- Transactions are cut greedily. -/
theorem greedy_splitMessages (maxNum maxSize : Nat) (ms : List Message) :
    Greedy maxNum maxSize ms (splitMessages maxNum maxSize ms) := by
  constructor
  · exact flatten_splitMessages maxNum maxSize ms
  · intro tx mem
    exact ne_nil_of_mem_splitMessages mem
  · intro tx mem
    have filled := Cutting.filled_of_messages maxNum maxSize ms
    exact (filled.closed tx (Cutting.mem_closed_of_mem_dropLast mem)).1
  · intro tx mem part rest split begun proper
    exact not_full_of_part (splitMessages_filled maxNum maxSize ms tx mem) split begun proper

/-! ## There is no other way -/

namespace Greedy

variable {tx tx' : List Message} {more txs' : List (List Message)}

theorem tail (h : Greedy maxNum maxSize ms (tx :: more)) :
    Greedy maxNum maxSize more.flatten more := by
  constructor
  · rfl
  · intro next mem
    exact h.nonempty next (List.mem_cons_of_mem tx mem)
  · intro next mem
    cases more with
    | nil => cases mem
    | cons second later =>
      have earlier : next ∈ (tx :: second :: later).dropLast := List.mem_cons_of_mem tx mem
      exact h.full next earlier
  · intro next mem
    exact h.notBefore next (List.mem_cons_of_mem tx mem)

/-- A transaction that could take more is the last one. -/
theorem alone_of_not_full (h : Greedy maxNum maxSize ms (tx :: more))
    (room : ¬ Full maxNum maxSize tx) : more = [] := by
  cases more with
  | nil => rfl
  | cons second later => exact absurd (h.full tx List.mem_cons_self) room

/-- No first transaction goes on where another one ends. -/
theorem eq_nil_of_longer (h : Greedy maxNum maxSize ms (tx :: more))
    (h' : Greedy maxNum maxSize ms (tx' :: txs')) (longer : tx' = tx ++ rest) : rest = [] := by
  by_cases proper : rest = []
  · exact proper
  · have begun := h.nonempty tx List.mem_cons_self
    have room := h'.notBefore tx' List.mem_cons_self tx rest longer begun proper
    have alone := h.alone_of_not_full room
    have same : tx' ++ txs'.flatten = tx := by
      have whole := h'.whole.trans h.whole.symm
      simpa [alone] using whole
    rw [longer, List.append_assoc] at same
    simp [proper] at same

/-- Two greedy ways to cut the same messages are the same. The induction is on the transactions
of the first. -/
theorem unique (h : Greedy maxNum maxSize ms txs) (h' : Greedy maxNum maxSize ms txs') :
    txs = txs' := by
  induction txs generalizing ms txs' with
  | nil =>
    have none : txs'.flatten = [] := h'.whole.trans h.whole.symm
    cases txs' with
    | nil => rfl
    | cons tx' more' =>
      have empty : tx' = [] := List.flatten_eq_nil_iff.mp none tx' List.mem_cons_self
      exact absurd empty (h'.nonempty tx' List.mem_cons_self)
  | cons tx more ih =>
    cases txs' with
    | nil =>
      have none : (tx :: more).flatten = [] := h.whole.trans h'.whole.symm
      have empty : tx = [] := List.flatten_eq_nil_iff.mp none tx List.mem_cons_self
      exact absurd empty (h.nonempty tx List.mem_cons_self)
    | cons tx' more' =>
      have same : tx ++ more.flatten = tx' ++ more'.flatten := h.whole.trans h'.whole.symm
      have first : tx = tx' := by
        obtain ⟨rest, longer, _⟩ | ⟨rest, longer, _⟩ := List.append_eq_append_iff.mp same
        · simp [longer, h.eq_nil_of_longer h' longer]
        · simp [longer, h'.eq_nil_of_longer h longer]
      subst first
      have later : more.flatten = more'.flatten := List.append_cancel_left same
      have tail' := h'.tail
      rw [← later] at tail'
      rw [ih h.tail tail']

/-- A transaction that must not have as many messages has one. -/
theorem length_le (h : Greedy maxNum maxSize ms txs) (mem : tx ∈ txs) :
    tx.length ≤ max 1 maxNum := by
  have some := h.nonempty tx mem
  have cut := List.dropLast_concat_getLast some
  have length : tx.dropLast.length = tx.length - 1 := List.length_dropLast
  by_cases one : tx.dropLast = []
  · rw [one, List.length_nil] at length
    omega
  · have room := h.notBefore tx mem tx.dropLast [tx.getLast some] cut.symm one (by simp)
    have few : tx.dropLast.length < maxNum := Nat.lt_of_not_le fun many => room (.inl many)
    omega

end Greedy

/-- **Greedy cutting.** Cutting messages into transactions is the one way to keep all messages in
their order, to leave no transaction empty, and to end each as soon as it has so many messages or
so many bytes, but for the last one, which may end before. So no transaction has more messages
than the bound says, and none more than one if the bound is zero. -/
theorem greedy_iff (maxNum maxSize : Nat) (ms : List Message) (txs : List (List Message)) :
    (Greedy maxNum maxSize ms txs ↔ txs = splitMessages maxNum maxSize ms) ∧
      ∀ tx ∈ splitMessages maxNum maxSize ms, tx.length ≤ max 1 maxNum := by
  have greedy := greedy_splitMessages maxNum maxSize ms
  constructor
  · constructor
    · intro h
      exact h.unique greedy
    · rintro rfl
      exact greedy
  · intro tx mem
    exact greedy.length_le mem

/-- Bounds of zero leave each message alone. -/
example : splitMessages 0 0 [.ofText "/a" "x", .ofText "/b" "y"] =
    [[.ofText "/a" "x"], [.ofText "/b" "y"]] := by decide

end ChannelRelay
