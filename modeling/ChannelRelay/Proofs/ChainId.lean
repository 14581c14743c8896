import ChannelRelay.ChainId
import ChannelRelay.Proofs.Numeral

/-!
# Versions of chains

A chain identifier has the version that its text ends in, and there is at most one such version.

* `splitAtLastDash_eq_some`: a text is split at a dash that no other one follows;
* `isVersionText_iff`: what stands as a version is a positive number as it is written;
* `versionOf_eq_iff`: the version of a text, and how the text is put together from it;
* `parse_eq_ok`, `parse_eq_error`: which texts can be read;
* `version_iff`: what this means for the identifiers of chains.
-/

namespace ChannelRelay

theorem toList_numberedText (stem : String) (counter : UInt64) :
    (numberedText stem counter).toList =
      stem.toList ++ '-' :: Nat.toDigits 10 counter.toNat := by
  simp [numberedText, Decimal.write, Nat.toList_repr]

namespace ChainId

variable {cs name version : List Char} {id : String} {n : UInt64}

/-! ## The version of a text -/

theorem dash_not_mem_toDigits (k : Nat) : '-' ∉ Nat.toDigits 10 k := by
  intro dash
  have digit : '-'.isDigit := Decimal.isDigit_of_mem_toDigits '-' dash
  exact Decimal.ne_of_isDigit digit (by decide) rfl

theorem splitAtLastDash_eq_none : splitAtLastDash cs = none ↔ '-' ∉ cs := by
  induction cs with
  | nil => simp [splitAtLastDash]
  | cons c rest ih =>
    rw [splitAtLastDash]
    cases later : splitAtLastDash rest with
    | some parts =>
      have dashed : '-' ∈ rest := by simpa [later] using ih
      simp [dashed]
    | none =>
      have plain := ih.mp later
      by_cases dash : c = '-'
      · simp [dash]
      · simp [dash, Ne.symm dash, plain]

theorem splitAtLastDash_append (plain : '-' ∉ version) :
    splitAtLastDash (name ++ '-' :: version) = some (name, version) := by
  induction name with
  | nil => simp [splitAtLastDash, splitAtLastDash_eq_none.mpr plain]
  | cons c name ih => simp [splitAtLastDash, ih]

/-- The dash at which a text is split is the last one. -/
theorem splitAtLastDash_eq_some : splitAtLastDash cs = some (name, version) ↔
    cs = name ++ '-' :: version ∧ '-' ∉ version := by
  constructor
  · intro h
    induction cs generalizing name with
    | nil => cases h
    | cons c rest ih =>
      rw [splitAtLastDash] at h
      cases later : splitAtLastDash rest with
      | some parts =>
        rw [later] at h
        cases h
        obtain ⟨rfl, plain⟩ := ih later
        exact ⟨rfl, plain⟩
      | none =>
        simp only [later] at h
        split at h
        · rename_i dash
          cases h
          exact ⟨by rw [dash, List.nil_append], splitAtLastDash_eq_none.mp later⟩
        · cases h
  · rintro ⟨rfl, plain⟩
    exact splitAtLastDash_append plain

/-- What may stand as a version is a positive number, as it is written. -/
theorem isVersionText_iff :
    isVersionText version = true ↔ ∃ k, 0 < k ∧ version = Nat.toDigits 10 k := by
  simp only [isVersionText, Bool.and_eq_true, Bool.not_eq_true', List.isEmpty_eq_false_iff,
    bne_iff_ne, List.all_eq_true]
  constructor
  · rintro ⟨⟨begun, lead⟩, all⟩
    obtain ⟨positive, written⟩ := Decimal.toDigits_ofDigitChars all begun lead
    exact ⟨_, positive, written.symm⟩
  · rintro ⟨k, positive, rfl⟩
    exact ⟨⟨Nat.toDigits_ne_nil, Decimal.head?_toDigits_ne_zero positive⟩,
      Decimal.isDigit_of_mem_toDigits⟩

/-- A text in epoch format is a name, a dash and a positive number. -/
theorem versionText?_eq_some : versionText? id = some version ↔
    ∃ name k, name ≠ [] ∧ 0 < k ∧ version = Nat.toDigits 10 k ∧
      id.toList = name ++ '-' :: version := by
  unfold versionText?
  constructor
  · intro h
    split at h
    · rename_i name last parts
      split at h
      · rename_i epoch
        simp only [Bool.and_eq_true, Bool.not_eq_true', List.isEmpty_eq_false_iff] at epoch
        cases h
        obtain ⟨k, positive, written⟩ := isVersionText_iff.mp epoch.2
        exact ⟨name, k, epoch.1, positive, written, (splitAtLastDash_eq_some.mp parts).1⟩
      · cases h
    · cases h
  · rintro ⟨name, k, named, positive, rfl, split⟩
    have parts := splitAtLastDash_eq_some.mpr ⟨split, dash_not_mem_toDigits k⟩
    have last := isVersionText_iff.mpr ⟨k, positive, rfl⟩
    simp [parts, named, last]

/-- A text has a version just if it is put together from a name and that version. -/
theorem versionOf_eq_iff (positive : 0 < n) :
    versionOf id = n ↔ ∃ name, name ≠ "" ∧ id = numberedText name n := by
  have nonzero : 0 < n.toNat := UInt64.lt_iff_toNat_lt.mp positive
  constructor
  · intro h
    unfold versionOf at h
    cases epoch : versionText? id with
    | none =>
      rw [epoch] at h
      subst h
      exact absurd positive (by decide)
    | some version =>
      obtain ⟨name, k, named, _, rfl, split⟩ := versionText?_eq_some.mp epoch
      cases number : Decimal.read (Nat.toDigits 10 k) with
      | error fault =>
        simp only [epoch, number] at h
        subst h
        exact absurd positive (by decide)
      | ok w =>
        simp only [epoch, number] at h
        subst h
        have value := (Decimal.read_eq_ok Decimal.isDigit_of_mem_toDigits Nat.toDigits_ne_nil).mp
          number
        rw [Nat.ofDigitChars_ten_toDigits] at value
        refine ⟨String.ofList name, by simpa using named, ?_⟩
        rw [← String.toList_inj, toList_numberedText, String.toList_ofList, split, value]
  · rintro ⟨name, named, rfl⟩
    have epoch : versionText? (numberedText name n) = some (Nat.toDigits 10 n.toNat) :=
      versionText?_eq_some.mpr
        ⟨name.toList, n.toNat, by simpa using named, nonzero, rfl, toList_numberedText name n⟩
    have number : Decimal.read (Nat.toDigits 10 n.toNat) = .ok n :=
      (Decimal.read_eq_ok Decimal.isDigit_of_mem_toDigits Nat.toDigits_ne_nil).mpr
        Nat.ofDigitChars_ten_toDigits
    simp only [versionOf, epoch, number]

theorem versionOf_eq_zero_iff : versionOf id = 0 ↔
    ¬ ∃ name n, 0 < n ∧ name ≠ "" ∧ id = numberedText name n := by
  constructor
  · rintro none ⟨name, n, positive, named, split⟩
    have some := (versionOf_eq_iff positive).mpr ⟨name, named, split⟩
    rw [none] at some
    rw [← some] at positive
    exact absurd positive (by decide)
  · intro none
    by_cases zero : versionOf id = 0
    · exact zero
    · have positive : 0 < versionOf id := UInt64.pos_iff_ne_zero.mpr zero
      obtain ⟨name, named, split⟩ := (versionOf_eq_iff positive).mp rfl
      exact absurd ⟨name, _, positive, named, split⟩ none

/-! ## The identifier of a chain -/

/-- A stem and a counter can be told from the text that they make. -/
theorem numberedText_inj {stem stem' : String} {counter counter' : UInt64} :
    numberedText stem counter = numberedText stem' counter' ↔
      stem = stem' ∧ counter = counter' := by
  constructor
  · intro same
    have split : splitAtLastDash (numberedText stem counter).toList =
        some (stem.toList, Nat.toDigits 10 counter.toNat) := by
      rw [toList_numberedText, splitAtLastDash_append (dash_not_mem_toDigits counter.toNat)]
    rw [same, toList_numberedText,
      splitAtLastDash_append (dash_not_mem_toDigits counter'.toNat)] at split
    simp only [Option.some.injEq, Prod.mk.injEq] at split
    have value := congrArg (Nat.ofDigitChars 10 · 0) split.2
    simp only [Nat.ofDigitChars_ten_toDigits] at value
    exact ⟨(String.toList_inj.mp split.1).symm, (UInt64.toNat_inj.mp value).symm⟩
  · rintro ⟨rfl, rfl⟩
    rfl

/-- The version is read back from the text, unless it follows no name. -/
theorem versionOf_numberedText {name : String} :
    versionOf (numberedText name n) = n ↔ name ≠ "" ∨ n = 0 := by
  by_cases zero : n = 0
  · subst zero
    have none : versionOf (numberedText name 0) = 0 := by
      rw [versionOf_eq_zero_iff]
      rintro ⟨name', n', positive, _, same⟩
      obtain ⟨_, rfl⟩ := numberedText_inj.mp same
      exact absurd positive (by decide)
    simp [none]
  · have positive : 0 < n := UInt64.pos_iff_ne_zero.mpr zero
    simp only [versionOf_eq_iff positive, numberedText_inj, and_true, zero, or_false]
    constructor
    · rintro ⟨name', named, rfl⟩
      exact named
    · intro named
      exact ⟨name, named, rfl⟩

/-- A text is accepted if it is not blank. -/
theorem parse_eq_ok {chain : ChainId} : parse id = .ok chain ↔
    (∃ c ∈ id.toList, Text.isBlank c = false) ∧ chain = ofString id := by
  have seen : Text.isBlankText id = false ↔ ∃ c ∈ id.toList, Text.isBlank c = false := by
    simp [Text.isBlankText]
  rw [← seen, parse]
  cases Text.isBlankText id <;> simp [eq_comm]

theorem parse_eq_error {e : ValidationError} : parse id = .error e ↔
    (∀ c ∈ id.toList, Text.isBlank c = true) ∧ e = .empty := by
  have blank : Text.isBlankText id = true ↔ ∀ c ∈ id.toList, Text.isBlank c = true :=
    List.all_eq_true
  rw [← blank, parse]
  cases Text.isBlankText id <;> simp [eq_comm]

/-- The text of a name and a version is never blank, for there is a dash in it. -/
theorem parse_text_named {name : String} : parse (named name n).text = .ok (named name n) ↔
    named name n = ofString (named name n).text := by
  have dash : '-' ∈ (named name n).text.toList := by simp [named, toList_numberedText]
  rw [parse_eq_ok]
  exact and_iff_right ⟨'-', dash, by decide⟩

/-- **Versions.** A text has a positive version just if it is a name, which may contain dashes,
followed by a dash and that version in decimal, and every other text has version 0. All texts
but blank ones can be read. So an identifier made from a name and a version is read back from its
text unless the name is missing and the version is not 0, and identifiers that were read are the
same if their texts are. -/
theorem version_iff :
    (∀ id (n : UInt64), 0 < n →
      ((ofString id).version = n ↔ ∃ name, name ≠ "" ∧ id = name ++ "-" ++ Decimal.write n)) ∧
    (∀ id, (¬ ∃ name n, 0 < n ∧ name ≠ "" ∧ id = name ++ "-" ++ Decimal.write n) →
      (ofString id).version = 0) ∧
    (∀ id chain, parse id = .ok chain ↔
      (∃ c ∈ id.toList, Text.isBlank c = false) ∧ chain = ofString id) ∧
    (∀ id e, parse id = .error e ↔ (∀ c ∈ id.toList, Text.isBlank c = true) ∧ e = .empty) ∧
    (∀ name n, named name n = ofString (named name n).text ↔ name ≠ "" ∨ n = 0) ∧
    (∀ name n, parse (named name n).text = .ok (named name n) ↔ name ≠ "" ∨ n = 0) ∧
    (∀ id id', ofString id = ofString id' ↔ (ofString id).text = (ofString id').text) ∧
    (∀ id id' chain chain', parse id = .ok chain → parse id' = .ok chain' →
      (chain = chain' ↔ chain.text = chain'.text)) := by
  have ofText (id id' : String) :
      ofString id = ofString id' ↔ (ofString id).text = (ofString id').text := by
    constructor
    · intro same
      rw [same]
    · intro same
      exact congrArg ofString same
  have again (name : String) (n : UInt64) :
      named name n = ofString (named name n).text ↔ name ≠ "" ∨ n = 0 := by
    rw [← versionOf_numberedText]
    simp only [named, ofString, ChainId.mk.injEq, true_and]
    exact eq_comm
  refine ⟨?_, ?_, fun _ _ => parse_eq_ok, fun _ _ => parse_eq_error, again, ?_, ofText, ?_⟩
  · intro id n positive
    exact versionOf_eq_iff positive
  · intro id other
    exact versionOf_eq_zero_iff.mpr other
  · intro name n
    rw [parse_text_named]
    exact again name n
  · intro id id' chain chain' read read'
    obtain ⟨_, rfl⟩ := parse_eq_ok.mp read
    obtain ⟨_, rfl⟩ := parse_eq_ok.mp read'
    exact ofText id id'

/-- A number with a leading zero is no version, and makes another identifier. -/
theorem version_iff_leading_zero : ∃ chain chain',
    parse "a-b-7" = .ok chain ∧ parse "a-b-07" = .ok chain' ∧ chain.version = 7 ∧
      chain'.version = 0 ∧ chain.text ≠ chain'.text ∧ chain ≠ chain' := by
  obtain ⟨versioned, _, accepted, _, _, _, _, same⟩ := version_iff
  have read : parse "a-b-7" = .ok (ofString "a-b-7") :=
    (accepted _ _).mpr ⟨⟨'a', by simp, by decide⟩, rfl⟩
  have read' : parse "a-b-07" = .ok (ofString "a-b-07") :=
    (accepted _ _).mpr ⟨⟨'a', by simp, by decide⟩, rfl⟩
  have seven : (ofString "a-b-7").version = 7 :=
    (versioned _ 7 (by decide)).mpr ⟨"a-b", by decide, by decide +kernel⟩
  have none : (ofString "a-b-07").version = 0 := by decide +kernel
  have texts : (ofString "a-b-7").text ≠ (ofString "a-b-07").text := by decide
  exact ⟨_, _, read, read', seven, none, texts, mt (same _ _ _ _ read read').mp texts⟩

/-- The greatest version, and a number that is too great for one. -/
example : (ofString "a-b-18446744073709551615").version = 18446744073709551615 ∧
    (ofString "a-b-18446744073709551616").version = 0 := by decide +kernel

end ChainId

end ChannelRelay
