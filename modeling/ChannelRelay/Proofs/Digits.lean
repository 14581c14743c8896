import ChannelRelay.Text.Blank
import ChannelRelay.Text.Decimal

/-!
# Decimal digits

A number is written as its decimal digits, and reading goes on from the digits that were read:
a number that starts with `v` and goes on with the digits `ds` is `Nat.ofDigitChars 10 ds v`.

* `toDigits_ofDigitChars`: digits without a leading zero are those that their number is written
  with;
* `readFrom_eq_ok`: which digits are read on to the end, and as which number.
-/

namespace ChannelRelay.Decimal

variable {c d : Char} {ds : List Char} {n v : Nat}

theorem digit?_of_isDigit (h : c.isDigit) : digit? c = some (c.toNat - 48) := if_pos h

theorem digit?_of_not_isDigit (h : c.isDigit = false) : digit? c = none := by
  simp [digit?, h]

theorem ne_of_isDigit (h : c.isDigit) (other : d.isDigit = false) : c ≠ d := by
  rintro rfl
  exact absurd h (by simp [other])

theorem isDigit_of_mem_toDigits : ∀ c ∈ Nat.toDigits 10 n, c.isDigit :=
  fun _ => Nat.isDigit_of_mem_toDigits (by decide) (by decide)

/-- A number does not get smaller by more digits. -/
theorem le_ofDigitChars : v ≤ Nat.ofDigitChars 10 ds v := by
  rw [Nat.ofDigitChars_eq_ofDigitChars_zero]
  have : 1 ≤ 10 ^ ds.length := Nat.one_le_pow _ _ (by decide)
  have := Nat.mul_le_mul_right v this
  omega

/-- Only zero is written with a leading zero. -/
theorem head?_toDigits_ne_zero (positive : 0 < n) : (Nat.toDigits 10 n).head? ≠ some '0' := by
  induction n using Nat.strongRecOn with
  | ind n ih =>
    rw [Nat.toDigits_eq_if (by decide)]
    split
    · have : ¬ n.digitChar = '0' := by
        rw [Nat.digitChar_eq_zero]
        omega
      simpa using this
    · have earlier := ih (n / 10) (by omega) (by omega)
      cases digits : Nat.toDigits 10 (n / 10) with
      | nil => exact absurd digits Nat.toDigits_ne_nil
      | cons c ds =>
        rw [digits] at earlier
        exact earlier

theorem toNat_bounds (h : c.isDigit) : 48 ≤ c.toNat ∧ c.toNat ≤ 57 := by
  simpa [Char.isDigit, UInt32.le_iff_toNat_le] using h

/-- A digit is what its value is written with. -/
theorem toDigits_of_isDigit (h : c.isDigit) : Nat.toDigits 10 (c.toNat - 48) = [c] := by
  have bounds := toNat_bounds h
  have small : c.toNat - 48 < 10 := by omega
  rw [Nat.toDigits_of_lt_base small, List.cons.injEq]
  refine ⟨Char.toNat_inj.mp ?_, rfl⟩
  rw [Nat.toNat_digitChar_of_lt_ten small]
  omega

/-- The digits that a number goes on with are written after those that it starts with. The
induction is on the digits, for every start. -/
theorem toDigits_ofDigitChars_of_pos (all : ∀ c ∈ ds, c.isDigit) (positive : 0 < v) :
    Nat.toDigits 10 (Nat.ofDigitChars 10 ds v) = Nat.toDigits 10 v ++ ds := by
  induction ds generalizing v with
  | nil => simp
  | cons c ds ih =>
    obtain ⟨digit, later⟩ := List.forall_mem_cons.mp all
    have bounds := toNat_bounds digit
    have small : c.toNat - 48 < 10 := by omega
    have next : Nat.toDigits 10 (10 * v + (c.toNat - 48)) = Nat.toDigits 10 v ++ [c] := by
      rw [← Nat.toDigits_append_toDigits (by decide) positive small, toDigits_of_isDigit digit]
    rw [Nat.ofDigitChars_cons]
    change Nat.toDigits 10 (Nat.ofDigitChars 10 ds (10 * v + (c.toNat - 48))) = _
    rw [ih later (by omega), next, List.append_assoc, List.singleton_append]

/-- Digits without a leading zero are those that their number is written with. -/
theorem toDigits_ofDigitChars (all : ∀ c ∈ ds, c.isDigit) (begun : ds ≠ [])
    (lead : ds.head? ≠ some '0') :
    0 < Nat.ofDigitChars 10 ds 0 ∧ Nat.toDigits 10 (Nat.ofDigitChars 10 ds 0) = ds := by
  cases ds with
  | nil => exact absurd rfl begun
  | cons c ds =>
    obtain ⟨digit, later⟩ := List.forall_mem_cons.mp all
    have bounds := toNat_bounds digit
    have notZero : c ≠ '0' := by simpa using lead
    have positive : 0 < c.toNat - 48 := by
      have other : c.toNat ≠ '0'.toNat := fun same => notZero (Char.toNat_inj.mp same)
      have zero : '0'.toNat = 48 := rfl
      omega
    have start : Nat.ofDigitChars 10 (c :: ds) 0 = Nat.ofDigitChars 10 ds (c.toNat - 48) := by
      rw [Nat.ofDigitChars_cons, Nat.mul_zero, Nat.zero_add]
      rfl
    rw [start, toDigits_ofDigitChars_of_pos later positive, toDigits_of_isDigit digit]
    exact ⟨Nat.lt_of_lt_of_le positive le_ofDigitChars, rfl⟩

/-! ## Reading -/

/-- Reading goes on to the end if only digits follow and the number fits. -/
theorem readFrom_eq_ok (fits : v < UInt64.size) : readFrom v ds = .ok n ↔
    (∀ c ∈ ds, c.isDigit) ∧ n = Nat.ofDigitChars 10 ds v ∧ n < UInt64.size := by
  induction ds generalizing v with
  | nil =>
    simp only [readFrom, Except.ok.injEq, List.not_mem_nil, false_implies, implies_true, true_and,
      Nat.ofDigitChars_nil]
    omega
  | cons c ds ih =>
    rw [readFrom, List.forall_mem_cons, Nat.ofDigitChars_cons, Nat.mul_comm 10 v]
    cases digit : c.isDigit with
    | false => simp [digit?_of_not_isDigit digit]
    | true =>
      simp only [digit?_of_isDigit digit, true_and]
      change _ ↔ _ ∧ n = Nat.ofDigitChars 10 ds (v * 10 + (c.toNat - 48)) ∧ _
      split
      · rename_i room
        exact ih room
      · rename_i full
        have grows : v * 10 + (c.toNat - 48) ≤
            Nat.ofDigitChars 10 ds (v * 10 + (c.toNat - 48)) := le_ofDigitChars
        constructor
        · nofun
        · rintro ⟨_, rfl, small⟩
          omega

theorem not_isBlank_of_isDigit (h : c.isDigit) : Text.isBlank c = false := by
  have bounds := toNat_bounds h
  simp only [Text.isBlank, Bool.or_eq_false_iff, Bool.and_eq_false_iff, decide_eq_false_iff_not,
    beq_eq_false_iff_ne]
  omega

end ChannelRelay.Decimal
