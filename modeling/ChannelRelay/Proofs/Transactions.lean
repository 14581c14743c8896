import ChannelRelay.Proofs.Submission

/-!
# The size of a transaction

A transaction takes messages until it is full: it is closed as soon as its messages reach the
number or the size given. By this rule of `Cutting.add` the message that reaches the size is in
already, so the size is not the greatest that a transaction may have. It may end up larger by
almost as much as its last message is long.

* `splitMessages_filled`: a transaction takes more until its last message;
* `exists_last_of_mem_splitMessages`: without its last message it stays below the size;
* `transaction_overshoot`: messages that each fit make transactions of less than twice the size.
-/

namespace ChannelRelay

/-- The size of these messages in one transaction. -/
def totalLength : List Message → Nat
  | [] => 0
  | m :: ms => m.encodedLength + totalLength ms

@[simp] theorem totalLength_nil : totalLength [] = 0 := rfl

@[simp] theorem totalLength_singleton (m : Message) : totalLength [m] = m.encodedLength := rfl

theorem totalLength_append (ms ns : List Message) :
    totalLength (ms ++ ns) = totalLength ms + totalLength ns := by
  induction ms with
  | nil => exact (Nat.zero_add _).symm
  | cons m ms ih => rw [List.cons_append, totalLength, totalLength, ih, Nat.add_assoc]

@[simp] theorem totalLength_reverse (ms : List Message) :
    totalLength ms.reverse = totalLength ms := by
  induction ms with
  | nil => rfl
  | cons m ms ih =>
    rw [List.reverse_cons, totalLength_append, ih, totalLength_singleton, totalLength, Nat.add_comm]

/-- A transaction of these messages takes no more. -/
def Full (maxNum maxSize : Nat) (messages : List Message) : Prop :=
  maxNum ≤ messages.length ∨ maxSize ≤ totalLength messages

/-- A transaction of these messages has been begun and takes more, or has yet to be begun. -/
def Unfilled (maxNum maxSize : Nat) (messages : List Message) : Prop :=
  messages ≠ [] → ¬ Full maxNum maxSize messages

/-- The last message fills the transaction, and the ones before did not. -/
def FilledByLast (maxNum maxSize : Nat) (messages : List Message) : Prop :=
  Full maxNum maxSize messages ∧
    ∃ earlier last, messages = earlier ++ [last] ∧ Unfilled maxNum maxSize earlier

namespace Cutting

variable {maxNum maxSize : Nat} {c : Cutting}

/-- What is known of the transactions while they are cut. -/
structure Filled (maxNum maxSize : Nat) (c : Cutting) : Prop where
  count : c.count = c.current.length
  size : c.size = totalLength c.current
  current : Unfilled maxNum maxSize c.current.reverse
  closed : ∀ tx ∈ c.closed, FilledByLast maxNum maxSize tx

theorem Filled.add (h : c.Filled maxNum maxSize) (m : Message) :
    (c.add maxNum maxSize m).Filled maxNum maxSize := by
  have length : (m :: c.current).reverse.length = c.count + 1 := by simp [h.count]
  have total : totalLength (m :: c.current).reverse = c.size + m.encodedLength := by
    rw [List.reverse_cons, totalLength_append, totalLength_reverse, totalLength_singleton, h.size]
  unfold Cutting.add
  dsimp only
  split
  · rename_i full
    rw [Bool.or_eq_true, decide_eq_true_eq, decide_eq_true_eq, ← length, ← total] at full
    refine ⟨rfl, rfl, fun more => absurd rfl more, List.forall_mem_cons.mpr ⟨?_, h.closed⟩⟩
    exact ⟨full, c.current.reverse, m, List.reverse_cons, h.current⟩
  · rename_i room
    rw [Bool.or_eq_true, decide_eq_true_eq, decide_eq_true_eq, ← length, ← total] at room
    exact ⟨by simp [h.count], by rw [← total, totalLength_reverse], fun _ => room, h.closed⟩

theorem Filled.foldl (h : c.Filled maxNum maxSize) (ms : List Message) :
    (ms.foldl (Cutting.add maxNum maxSize) c).Filled maxNum maxSize := by
  induction ms generalizing c with
  | nil => exact h
  | cons m ms ih => exact ih (h.add m)

theorem filled_of_messages (maxNum maxSize : Nat) (ms : List Message) :
    (ms.foldl (Cutting.add maxNum maxSize) {}).Filled maxNum maxSize := by
  have start : Cutting.Filled maxNum maxSize {} :=
    ⟨rfl, rfl, fun more => absurd rfl more, List.forall_mem_nil _⟩
  exact start.foldl ms

end Cutting

/-- Every transaction is filled by its last message, but for the last one, which may take more. -/
theorem splitMessages_filled (maxNum maxSize : Nat) (ms : List Message) :
    ∀ tx ∈ splitMessages maxNum maxSize ms,
      FilledByLast maxNum maxSize tx ∨ Unfilled maxNum maxSize tx := by
  have filled := Cutting.filled_of_messages maxNum maxSize ms
  unfold splitMessages Cutting.transactions
  intro tx mem
  split at mem
  · exact .inl (filled.closed tx (List.mem_reverse.mp mem))
  · rcases List.mem_cons.mp (List.mem_reverse.mp mem) with rfl | mem
    · exact .inr filled.current
    · exact .inl (filled.closed tx mem)

section Size

variable {maxNum maxSize : Nat} {ms tx : List Message}

theorem Unfilled.totalLength_lt (h : Unfilled maxNum maxSize ms) (positive : 1 ≤ maxSize) :
    totalLength ms < maxSize := by
  by_cases none : ms = []
  · rw [none]
    exact positive
  · exact Nat.lt_of_not_le fun full => h none (.inr full)

/-- Without its last message a transaction stays below the size that makes it full. -/
theorem exists_last_of_mem_splitMessages (positive : 1 ≤ maxSize)
    (mem : tx ∈ splitMessages maxNum maxSize ms) :
    ∃ earlier last, tx = earlier ++ [last] ∧ last ∈ ms ∧ totalLength earlier < maxSize := by
  obtain ⟨earlier, last, split, below⟩ :
      ∃ earlier last, tx = earlier ++ [last] ∧ totalLength earlier < maxSize := by
    obtain ⟨-, earlier, last, split, unfilled⟩ | unfilled := splitMessages_filled _ _ _ tx mem
    · exact ⟨earlier, last, split, unfilled.totalLength_lt positive⟩
    · rcases List.eq_nil_or_concat tx with rfl | ⟨earlier, last, split⟩
      · exact absurd rfl (ne_nil_of_mem_splitMessages mem)
      · rw [List.concat_eq_append] at split
        have below := unfilled.totalLength_lt positive
        rw [split, totalLength_append] at below
        exact ⟨earlier, last, split, by omega⟩
  refine ⟨earlier, last, split, ?_, below⟩
  rw [← flatten_splitMessages maxNum maxSize ms]
  exact List.mem_flatten.mpr ⟨tx, mem, by simp [split]⟩

/-- **Size.** A transaction is closed by the message that reaches the size, which it keeps.
Messages of which each fits by itself make transactions of less than twice the size, and one that
is too large was small enough before its last message. -/
theorem transaction_overshoot (positive : 1 ≤ maxSize) (fits : ∀ m ∈ ms, m.encodedLength ≤ maxSize)
    (mem : tx ∈ splitMessages maxNum maxSize ms) :
    totalLength tx < 2 * maxSize ∧
      (maxSize < totalLength tx → ∃ earlier last, tx = earlier ++ [last] ∧ earlier ≠ [] ∧
        totalLength earlier < maxSize) := by
  obtain ⟨earlier, last, rfl, fromMs, below⟩ := exists_last_of_mem_splitMessages positive mem
  have one := fits last fromMs
  rw [totalLength_append, totalLength_singleton]
  refine ⟨by omega, fun excess => ⟨earlier, last, rfl, ?_, below⟩⟩
  rintro rfl
  rw [totalLength_nil] at excess
  omega

/-- Eight bytes are exceeded by seven, which is as many as there can be. -/
theorem transaction_overshoot_by_seven :
    let a : Message := .ofText "/a" "x"
    let b : Message := .ofText "/b" "xy"
    (∀ m ∈ [a, b], m.encodedLength ≤ 8) ∧ [a, b] ∈ splitMessages 30 8 [a, b] ∧
      totalLength [a, b] = 15 ∧ totalLength [a, b] < 2 * 8 ∧
      ∃ earlier last, [a, b] = earlier ++ [last] ∧ earlier ≠ [] ∧ totalLength earlier < 8 := by
  intro a b
  have fits : ∀ m ∈ [a, b], m.encodedLength ≤ 8 := by decide +kernel
  have together : [a, b] ∈ splitMessages 30 8 [a, b] := by decide +kernel
  obtain ⟨below, excess⟩ := transaction_overshoot (by decide +kernel) fits together
  exact ⟨fits, together, by decide +kernel, below, excess (by decide +kernel)⟩

/-- Two messages of 99 and 100 bytes are put into one transaction of 199 bytes, where 100 bytes
are the most: the first does not reach that size, and the second one closes what it is put in. -/
theorem not_all_transactions_fit :
    let messages : List Message :=
      [⟨"/a", List.replicate 93 120⟩, ⟨"/b", List.replicate 94 120⟩]
    (∀ m ∈ messages, m.encodedLength ≤ 100) ∧ splitMessages 30 100 messages = [messages] ∧
      totalLength messages = 199 := by
  decide +kernel

end Size

end ChannelRelay
