import ChannelRelay.Proofs.Height

/-!
# Arithmetic on heights

Operations on a height are exact: the height within the revision changes by what is added or
taken away, and an operation whose result would leave the range of heights changes nothing.

* `add_eq_ok`, `add_eq_error`, `sub_eq_ok`, `sub_eq_error`: what an addition and a subtraction come
  to;
* `moves_apply`: one operation either changes the height by its whole amount, or fails;
* `after_sum`: the changes of a run of operations add up;
* `arithmetic_exact`: all of it, with the order of the heights.
-/

namespace ChannelRelay.Height

variable {h next : Height} {delta : UInt64} {op : Op} {ops : List Op} {b : Breach}
  {e : HeightError}

/-- What an operation is to add to the height within the revision. -/
def Op.change : Op → Int
  | add delta => delta.toNat
  | sub delta => -delta.toNat
  | increment => 1
  | decrement => -1

/-- Whether an operation produced a height. -/
def OpResult.succeeded : OpResult → Bool
  | .ok (.ok _) => true
  | _ => false

/-- The sum of the changes that were made: those of the operations that succeeded. -/
def changes : List Op → List OpResult → Int
  | op :: ops, result :: results =>
    (if OpResult.succeeded result then op.change else 0) + changes ops results
  | _, _ => 0

/-- The height after operations. -/
def after (h : Height) (ops : List Op) : Height := (h.runOps ops).foldl settle h

theorem valid_iff : h.Valid ↔ 1 ≤ h.revisionHeight.toNat := by
  unfold Valid
  rw [ne_eq, ← UInt64.toNat_inj, UInt64.toNat_zero]
  omega

/-! ## One operation -/

theorem add_eq_ok : h.add delta = .ok next ↔
    next.revisionNumber = h.revisionNumber ∧
      next.revisionHeight.toNat = h.revisionHeight.toNat + delta.toNat := by
  unfold add
  by_cases fits : h.revisionHeight.toNat + delta.toNat < UInt64.size
  · rw [if_pos fits, Except.ok.injEq]
    have exact : (h.revisionHeight + delta).toNat = h.revisionHeight.toNat + delta.toNat := by
      rw [UInt64.toNat_add, Nat.mod_eq_of_lt fits]
    constructor
    · rintro rfl
      exact ⟨rfl, exact⟩
    · rintro ⟨number, height⟩
      have equal : next = { h with revisionHeight := h.revisionHeight + delta } :=
        eq_of_words number (UInt64.toNat_inj.mp (height.trans exact.symm))
      exact equal.symm
  · rw [if_neg fits]
    have bound := next.revisionHeight.toNat_lt_size
    constructor
    · nofun
    · rintro ⟨-, height⟩
      omega

theorem add_eq_error : h.add delta = .error b ↔
    b = .additionOverflow ∧ UInt64.size ≤ h.revisionHeight.toNat + delta.toNat := by
  unfold add
  by_cases fits : h.revisionHeight.toNat + delta.toNat < UInt64.size
  · rw [if_pos fits]
    constructor
    · nofun
    · rintro ⟨-, beyond⟩
      omega
  · rw [if_neg fits, Except.error.injEq]
    constructor
    · rintro rfl
      exact ⟨rfl, by omega⟩
    · rintro ⟨rfl, -⟩
      rfl

theorem sub_eq_ok : h.sub delta = .ok next ↔
    next.revisionNumber = h.revisionNumber ∧ 1 ≤ next.revisionHeight.toNat ∧
      next.revisionHeight.toNat + delta.toNat = h.revisionHeight.toNat := by
  unfold sub
  by_cases low : h.revisionHeight ≤ delta
  · rw [if_pos low]
    rw [UInt64.le_iff_toNat_le] at low
    constructor
    · nofun
    · rintro ⟨-, positive, height⟩
      omega
  · rw [if_neg low, Except.ok.injEq]
    have within : delta ≤ h.revisionHeight := by
      rw [UInt64.le_iff_toNat_le] at low ⊢
      omega
    have exact : (h.revisionHeight - delta).toNat = h.revisionHeight.toNat - delta.toNat :=
      UInt64.toNat_sub_of_le _ _ within
    rw [UInt64.le_iff_toNat_le] at low
    constructor
    · rintro rfl
      refine ⟨rfl, ?_⟩
      simp only [exact]
      omega
    · rintro ⟨number, -, height⟩
      have same : next.revisionHeight.toNat = (h.revisionHeight - delta).toNat := by omega
      have equal : next = { h with revisionHeight := h.revisionHeight - delta } :=
        eq_of_words number (UInt64.toNat_inj.mp same)
      exact equal.symm

theorem sub_eq_error : h.sub delta = .error e ↔
    e = .invalidHeightResult ∧ (h.revisionHeight.toNat : Int) - delta.toNat < 1 := by
  unfold sub
  by_cases low : h.revisionHeight ≤ delta
  · rw [if_pos low, Except.error.injEq]
    rw [UInt64.le_iff_toNat_le] at low
    constructor
    · rintro rfl
      exact ⟨rfl, by omega⟩
    · rintro ⟨rfl, -⟩
      rfl
  · rw [if_neg low]
    rw [UInt64.le_iff_toNat_le] at low
    constructor
    · nofun
    · rintro ⟨-, below⟩
      omega

/-- What one operation on a height comes to: its change is made, or it would lead out of the
range of heights. -/
inductive Moves (h : Height) (op : Op) : OpResult → Prop where
  | made {next : Height} (number : next.revisionNumber = h.revisionNumber)
    (positive : 1 ≤ next.revisionHeight.toNat)
    (exact : (next.revisionHeight.toNat : Int) = h.revisionHeight.toNat + op.change) :
    Moves h op (.ok (.ok next))
  | tooLow (below : h.revisionHeight.toNat + op.change < 1) :
    Moves h op (.ok (.error .invalidHeightResult))
  | tooHigh (beyond : UInt64.size ≤ h.revisionHeight.toNat + op.change) :
    Moves h op (.error .additionOverflow)

theorem moves_add (valid : h.Valid) (same : op.change = delta.toNat) :
    Moves h op ((h.add delta).map .ok) := by
  rw [valid_iff] at valid
  cases result : h.add delta with
  | ok next =>
    obtain ⟨number, exact⟩ := add_eq_ok.mp result
    exact .made number (by omega) (by omega)
  | error b =>
    obtain ⟨rfl, beyond⟩ := add_eq_error.mp result
    exact .tooHigh (by omega)

theorem moves_sub (same : op.change = -delta.toNat) : Moves h op (.ok (h.sub delta)) := by
  cases result : h.sub delta with
  | ok next =>
    obtain ⟨number, positive, exact⟩ := sub_eq_ok.mp result
    exact .made number positive (by omega)
  | error e =>
    obtain ⟨rfl, below⟩ := sub_eq_error.mp result
    exact .tooLow (by omega)

theorem moves_apply (valid : h.Valid) (op : Op) : Moves h op (h.apply op) := by
  cases op with
  | add delta => exact moves_add valid rfl
  | sub delta => exact moves_sub rfl
  | increment => exact moves_add valid rfl
  | decrement => exact moves_sub rfl

/-! ## Runs of operations -/

/-- One operation leads to a valid height of the same revision. -/
theorem Moves.settle {result : OpResult} (moves : Moves h op result) (valid : h.Valid) :
    (h.settle result).Valid ∧ (h.settle result).revisionNumber = h.revisionNumber ∧
      ((h.settle result).revisionHeight.toNat : Int) =
        h.revisionHeight.toNat + if OpResult.succeeded result then op.change else 0 := by
  cases moves with
  | made number positive exact => exact ⟨valid_iff.mpr positive, number, exact⟩
  | tooLow below => exact ⟨valid, rfl, (Int.add_zero _).symm⟩
  | tooHigh beyond => exact ⟨valid, rfl, (Int.add_zero _).symm⟩

theorem after_cons : h.after (op :: ops) = (h.settle (h.apply op)).after ops := rfl

theorem changes_cons : changes (op :: ops) (h.runOps (op :: ops)) =
    (if OpResult.succeeded (h.apply op) then op.change else 0) +
      changes ops ((h.settle (h.apply op)).runOps ops) := by
  rw [runOps, changes]

/-- What a run of operations keeps, and what it adds up to. The induction is on the operations,
for every height they start from. -/
theorem after_sum (valid : h.Valid) (ops : List Op) :
    (h.after ops).Valid ∧ (h.after ops).revisionNumber = h.revisionNumber ∧
      ((h.after ops).revisionHeight.toNat : Int) =
        h.revisionHeight.toNat + changes ops (h.runOps ops) := by
  induction ops generalizing h with
  | nil => exact ⟨valid, rfl, (Int.add_zero _).symm⟩
  | cons op ops ih =>
    obtain ⟨settled, number, exact⟩ := (moves_apply valid op).settle valid
    obtain ⟨kept, numberLater, exactLater⟩ := ih settled
    rw [after_cons, changes_cons]
    refine ⟨kept, numberLater.trans number, ?_⟩
    omega

/-- The operations of a run are applied one after the other. -/
theorem runOps_concat : h.runOps (ops ++ [op]) = h.runOps ops ++ [(h.after ops).apply op] := by
  induction ops generalizing h with
  | nil => rfl
  | cons first ops ih =>
    rw [List.cons_append, runOps, ih, after_cons, runOps, List.cons_append]

/-! ## Exactness -/

/-- What holds of the operations on a height, of any run of them and of each one. -/
structure Exact (h : Height) : Prop where
  inOrder : ∀ ops op, h.runOps (ops ++ [op]) = h.runOps ops ++ [(h.after ops).apply op]
  staysAfterFailure : ∀ ops op, OpResult.succeeded ((h.after ops).apply op) = false →
    h.after (ops ++ [op]) = h.after ops
  sameRevision : ∀ ops, (h.after ops).revisionNumber = h.revisionNumber
  inRange : ∀ ops, 1 ≤ (h.after ops).revisionHeight.toNat ∧
    (h.after ops).revisionHeight.toNat < UInt64.size
  sum : ∀ ops, ((h.after ops).revisionHeight.toNat : Int) =
    h.revisionHeight.toNat + changes ops (h.runOps ops)
  add_fails : ∀ delta b, h.add delta = .error b ↔
    b = .additionOverflow ∧ UInt64.size ≤ h.revisionHeight.toNat + delta.toNat
  sub_fails : ∀ delta e, h.sub delta = .error e ↔
    e = .invalidHeightResult ∧ (h.revisionHeight.toNat : Int) - delta.toNat < 1
  sub_add : ∀ delta next, h.add delta = .ok next → next.sub delta = .ok h
  add_sub : ∀ delta next, h.sub delta = .ok next → next.add delta = .ok h
  add_greater : ∀ delta next, 0 < delta → h.add delta = .ok next → compare h next = .lt
  sub_less : ∀ delta next, 0 < delta → h.sub delta = .ok next → compare next h = .lt

theorem lt_of_heights {a b : Height} (number : a.revisionNumber = b.revisionNumber)
    (less : a.revisionHeight.toNat < b.revisionHeight.toNat) : compare a b = .lt := by
  apply compare_eq_lt.mpr
  exact .inr ⟨number, UInt64.lt_iff_toNat_lt.mpr less⟩

theorem after_concat :
    h.after (ops ++ [op]) = (h.after ops).settle ((h.after ops).apply op) := by
  rw [after, runOps_concat, List.foldl_append]
  rfl

theorem settle_of_failed {result : OpResult} (failed : OpResult.succeeded result = false) :
    h.settle result = h := by
  match result with
  | .ok (.ok _) => cases failed
  | .ok (.error _) => rfl
  | .error _ => rfl

/-- **Exact arithmetic.** Any run of operations on a valid height leads to the exact sum of the
changes that were made, within the range of heights. An operation fails just if its own result is
out of that range. Addition and subtraction undo each other and go up and down in the order of
heights, which is total and looks at the revision number first. -/
theorem arithmetic_exact (h : Height) (valid : h.Valid) :
    h.Exact ∧ (Std.TransOrd Height ∧ Std.LawfulEqOrd Height) ∧
    ∀ a b : Height, compare a b = (compare a.revisionNumber b.revisionNumber).then
      (compare a.revisionHeight b.revisionHeight) := by
  refine ⟨?_, ⟨inferInstance, inferInstance⟩, fun a b => compare_eq_then⟩
  refine {
    inOrder := fun ops op => runOps_concat
    staysAfterFailure := ?_
    sameRevision := fun ops => (after_sum valid ops).2.1
    inRange := ?_
    sum := fun ops => (after_sum valid ops).2.2
    add_fails := fun delta b => add_eq_error
    sub_fails := fun delta e => sub_eq_error
    sub_add := ?_
    add_sub := ?_
    add_greater := ?_
    sub_less := ?_ }
  · intro ops op failed
    rw [after_concat, settle_of_failed failed]
  · intro ops
    have positive := valid_iff.mp (after_sum valid ops).1
    exact ⟨positive, (h.after ops).revisionHeight.toNat_lt_size⟩
  · intro delta next added
    obtain ⟨number, exact⟩ := add_eq_ok.mp added
    exact sub_eq_ok.mpr ⟨number.symm, valid_iff.mp valid, exact.symm⟩
  · intro delta next subtracted
    obtain ⟨number, -, exact⟩ := sub_eq_ok.mp subtracted
    exact add_eq_ok.mpr ⟨number.symm, exact.symm⟩
  · intro delta next positive added
    obtain ⟨number, exact⟩ := add_eq_ok.mp added
    have changed : 0 < delta.toNat := UInt64.lt_iff_toNat_lt.mp positive
    exact lt_of_heights number.symm (by omega)
  · intro delta next positive subtracted
    obtain ⟨number, -, exact⟩ := sub_eq_ok.mp subtracted
    have changed : 0 < delta.toNat := UInt64.lt_iff_toNat_lt.mp positive
    exact lt_of_heights number (by omega)

/-- A run that fails at both ends of the range, and goes on from where it was. -/
theorem arithmetic_exact_past_failures :
    let h : Height := ⟨3, 18446744073709551614⟩
    let ops : List Op := [.add 2, .increment, .increment, .sub 18446744073709551615, .sub 5]
    h.Valid ∧ (h.runOps ops).map OpResult.succeeded = [false, true, false, false, true] ∧
      (h.after ops).revisionNumber = 3 ∧
      (h.after ops).revisionHeight.toNat = 18446744073709551610 ∧
      (h.after [.increment]).sub 5 = .ok (h.after ops) ∧
      (h.after ops).add 5 = .ok (h.after [.increment]) ∧
      compare (h.after ops) (h.after [.increment]) = .lt := by
  intro h ops
  have valid : h.Valid := by decide
  obtain ⟨exact, -⟩ := arithmetic_exact h valid
  have validLater : (h.after [.increment]).Valid := by decide
  obtain ⟨exactLater, -⟩ := arithmetic_exact (h.after [.increment]) validLater
  have sum := exact.sum ops
  have changed : changes ops (h.runOps ops) = -4 := by decide
  have start : h.revisionHeight.toNat = 18446744073709551614 := rfl
  have subtracted : (h.after [.increment]).sub 5 = .ok (h.after ops) := rfl
  refine ⟨valid, by decide, exact.sameRevision ops, by omega, subtracted, ?_, ?_⟩
  · exact exactLater.add_sub 5 _ subtracted
  · exact exactLater.sub_less 5 _ (by decide) subtracted

end ChannelRelay.Height
