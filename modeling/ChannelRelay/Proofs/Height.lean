import ChannelRelay.Height

/-!
# The order of heights

Heights are ordered like numbers: the revision number counts multiples of `2 ^ 64`.

* `lt_iff_rank`, `le_iff_rank`: one height is below another if its rank is;
* `compare_eq_compare_rank`: so comparing is a total order, in which only equal heights are equal;
* `compare_eq_then`: the revision number is compared first.
-/

namespace ChannelRelay.Height

variable {a b c : Height}

/-- The place of a height among all heights. -/
def rank (h : Height) : Nat := h.revisionNumber.toNat * UInt64.size + h.revisionHeight.toNat

theorem lt_iff_rank : a < b ↔ a.rank < b.rank := by
  have ofA := a.revisionHeight.toNat_lt_size
  have ofB := b.revisionHeight.toNat_lt_size
  change a.revisionNumber < b.revisionNumber ∨
    (a.revisionNumber = b.revisionNumber ∧ a.revisionHeight < b.revisionHeight) ↔ _
  rw [UInt64.lt_iff_toNat_lt, UInt64.lt_iff_toNat_lt, ← UInt64.toNat_inj]
  simp only [rank, UInt64.size] at *
  omega

theorem le_iff_rank : a ≤ b ↔ a.rank ≤ b.rank := by
  change ¬ b < a ↔ _
  rw [lt_iff_rank, Nat.not_lt]

theorem not_le_iff : ¬ a ≤ b ↔ b < a := by
  rw [le_iff_rank, lt_iff_rank, Nat.not_le]

theorem lt_trans (first : a < b) (next : b < c) : a < c :=
  lt_iff_rank.mpr (Nat.lt_trans (lt_iff_rank.mp first) (lt_iff_rank.mp next))

/-! ## Comparing -/

theorem eq_of_words (number : a.revisionNumber = b.revisionNumber)
    (height : a.revisionHeight = b.revisionHeight) : a = b := by
  cases a
  cases b
  rw [mk.injEq]
  exact ⟨number, height⟩

theorem rank_inj : a.rank = b.rank ↔ a = b := by
  constructor
  · intro same
    have ofA := a.revisionHeight.toNat_lt_size
    have ofB := b.revisionHeight.toNat_lt_size
    simp only [rank, UInt64.size] at same ofA ofB
    have number : a.revisionNumber.toNat = b.revisionNumber.toNat := by omega
    have height : a.revisionHeight.toNat = b.revisionHeight.toNat := by omega
    exact eq_of_words (UInt64.toNat_inj.mp number) (UInt64.toNat_inj.mp height)
  · rintro rfl
    rfl

theorem compare_eq_compare_rank : compare a b = compare a.rank b.rank := by
  change (if a < b then Ordering.lt else if b < a then .gt else .eq) = _
  by_cases less : a < b
  · rw [if_pos less, Nat.compare_eq_lt.mpr (lt_iff_rank.mp less)]
  · rw [if_neg less]
    by_cases greater : b < a
    · rw [if_pos greater, Nat.compare_eq_gt.mpr (lt_iff_rank.mp greater)]
    · rw [if_neg greater]
      rw [lt_iff_rank] at less greater
      have same : a.rank = b.rank := by omega
      rw [Nat.compare_eq_eq.mpr same]

theorem compare_eq_lt : compare a b = .lt ↔ a < b := by
  rw [compare_eq_compare_rank, Nat.compare_eq_lt, lt_iff_rank]

theorem compare_eq_gt : compare a b = .gt ↔ b < a := by
  rw [compare_eq_compare_rank, Nat.compare_eq_gt, lt_iff_rank]

instance : Std.TransOrd Height where
  eq_swap := by
    intro a b
    rw [compare_eq_compare_rank, compare_eq_compare_rank]
    exact Std.OrientedCmp.eq_swap
  isLE_trans := by
    intro a b c first next
    rw [compare_eq_compare_rank] at first next ⊢
    exact Std.TransCmp.isLE_trans first next

instance : Std.LawfulEqOrd Height where
  eq_of_compare := by
    intro a b same
    rw [compare_eq_compare_rank] at same
    exact rank_inj.mp (Nat.compare_eq_eq.mp same)

/-- The heights within two revisions matter only if it is the same revision. -/
theorem compare_eq_then : compare a b =
    (compare a.revisionNumber b.revisionNumber).then
      (compare a.revisionHeight b.revisionHeight) := by
  cases numbers : compare a.revisionNumber b.revisionNumber with
  | lt => exact compare_eq_lt.mpr (.inl (Std.compare_eq_lt.mp numbers))
  | gt => exact compare_eq_gt.mpr (.inl (Std.compare_eq_gt.mp numbers))
  | eq =>
    have same : a.revisionNumber = b.revisionNumber := Std.LawfulEqOrd.eq_of_compare numbers
    cases heights : compare a.revisionHeight b.revisionHeight with
    | lt => exact compare_eq_lt.mpr (.inr ⟨same, Std.compare_eq_lt.mp heights⟩)
    | gt => exact compare_eq_gt.mpr (.inr ⟨same.symm, Std.compare_eq_gt.mp heights⟩)
    | eq =>
      rw [eq_of_words same (Std.LawfulEqOrd.eq_of_compare heights)]
      exact Std.ReflCmp.compare_self

end ChannelRelay.Height
