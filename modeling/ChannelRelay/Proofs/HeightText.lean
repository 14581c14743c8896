import ChannelRelay.Proofs.ChainId
import ChannelRelay.Proofs.Height

/-!
# Texts of heights

A height is read from two numerals with a dash between, and its own text is of that form.

* `exists_parts`, `splitAtFirstDash_of_parts`: every text has its two parts;
* `parse_eq_iff`: the height that the two parts give, or the error;
* `parse_text`, `text_inj`: a height is read from its own text, which no other height has;
* `parse_iff`: reading and writing together.
-/

namespace ChannelRelay

open Decimal

/-- Every text is a numeral of one word, or has a fault. -/
theorem Decimal.numeral_or_fault (cs : List Char) :
    (∃ w : UInt64, IsNumeral cs w.toNat) ∨
      (∀ w : UInt64, ¬ IsNumeral cs w.toNat) ∧ ∃ fault : Fault, fault.Describes cs := by
  cases result : read cs with
  | ok w => exact .inl ⟨w, read_eq_ok_iff.mp result⟩
  | error fault =>
    refine .inr ⟨?_, fault, read_eq_error_iff.mp result⟩
    intro w numeral
    rw [read_eq_ok_iff.mpr numeral] at result
    cases result

theorem Decimal.isNumeral_toDigits (w : UInt64) : IsNumeral (Nat.toDigits 10 w.toNat) w.toNat :=
  read_eq_ok_iff.mp (read_toDigits w)

theorem Decimal.write_inj {a b : UInt64} : write a = write b ↔ a = b := by
  constructor
  · intro same
    have ofA : read (write a).toList = .ok a := by
      rw [write, Nat.toList_repr, read_toDigits]
    rw [same, write, Nat.toList_repr, read_toDigits] at ofA
    cases ofA
    rfl
  · rintro rfl
    rfl

namespace Height

variable {cs number height : List Char} {s : String} {n h : UInt64}

/-- The parts of a text, before and after its first dash. A text without a dash is its own
second part, and the first is then `0`. -/
inductive Parts : List Char → List Char → List Char → Prop where
  | dashed {number height : List Char} (plain : '-' ∉ number) :
    Parts (number ++ '-' :: height) number height
  | whole {cs : List Char} (plain : '-' ∉ cs) : Parts cs ['0'] cs

theorem exists_parts (cs : List Char) : ∃ number height, Parts cs number height := by
  by_cases dash : '-' ∈ cs
  · obtain ⟨number, height, rfl, plain⟩ := List.eq_append_cons_of_mem dash
    exact ⟨number, height, .dashed plain⟩
  · exact ⟨['0'], cs, .whole dash⟩

theorem splitAtFirstDash_of_parts (parts : Parts cs number height) :
    splitAtFirstDash cs = (number, height) := by
  cases parts with
  | dashed plain =>
    have others : ∀ c ∈ number, (c != '-') = true := by
      intro c mem
      simpa using ne_of_mem_of_not_mem mem plain
    have after : (number ++ '-' :: height).dropWhile (· != '-') = '-' :: height := by
      rw [List.dropWhile_append_of_pos others, List.dropWhile_cons_of_neg (by decide)]
    have before : (number ++ '-' :: height).takeWhile (· != '-') = number := by
      rw [List.takeWhile_append_of_pos others, List.takeWhile_cons_of_neg (by decide),
        List.append_nil]
    rw [splitAtFirstDash, after]
    simp only [before]
  | whole plain =>
    have others : ∀ c ∈ cs, (c != '-') = true := by
      intro c mem
      simpa using ne_of_mem_of_not_mem mem plain
    have none : cs.dropWhile (· != '-') = [] := by
      rw [← List.append_nil cs, List.dropWhile_append_of_pos others, List.dropWhile_nil]
    rw [splitAtFirstDash, none]

/-! ## Reading -/

/-- What a text of two parts gives. The second part is at fault only if the first is not. -/
inductive Gives (s : String) (number height : List Char) : Except HeightError Height → Prop where
  | height {n h : UInt64} (ofNumber : IsNumeral number n.toNat)
    (ofHeight : IsNumeral height h.toNat) (positive : h ≠ 0) :
    Gives s number height (.ok ⟨n, h⟩)
  | zero {n : UInt64} (ofNumber : IsNumeral number n.toNat) (ofHeight : IsNumeral height 0) :
    Gives s number height (.error .invalidHeight)
  | numberFault {fault : Fault} (malformed : ∀ n : UInt64, ¬ IsNumeral number n.toNat)
    (described : fault.Describes number) :
    Gives s number height (.error (.heightConversion s fault))
  | heightFault {n : UInt64} {fault : Fault} (ofNumber : IsNumeral number n.toNat)
    (malformed : ∀ h : UInt64, ¬ IsNumeral height h.toNat) (described : fault.Describes height) :
    Gives s number height (.error (.heightConversion s fault))

theorem parse_of_words (parts : Parts s.toList number height) (ofNumber : IsNumeral number n.toNat)
    (ofHeight : IsNumeral height h.toNat) : parse s = make n h := by
  rw [parse, splitAtFirstDash_of_parts parts]
  simp only [read_eq_ok_iff.mpr ofNumber, read_eq_ok_iff.mpr ofHeight]

theorem parse_of_numberFault {fault : Fault} (parts : Parts s.toList number height)
    (described : fault.Describes number) : parse s = .error (.heightConversion s fault) := by
  rw [parse, splitAtFirstDash_of_parts parts]
  simp only [read_eq_error_iff.mpr described]

theorem parse_of_heightFault {fault : Fault} (parts : Parts s.toList number height)
    (ofNumber : IsNumeral number n.toNat) (described : fault.Describes height) :
    parse s = .error (.heightConversion s fault) := by
  rw [parse, splitAtFirstDash_of_parts parts]
  simp only [read_eq_ok_iff.mpr ofNumber, read_eq_error_iff.mpr described]

theorem gives_parse (parts : Parts s.toList number height) :
    Gives s number height (parse s) := by
  rcases numeral_or_fault number with ⟨n, ofNumber⟩ | ⟨malformed, fault, described⟩
  · rcases numeral_or_fault height with ⟨h, ofHeight⟩ | ⟨malformed, fault, described⟩
    · rw [parse_of_words parts ofNumber ofHeight, make]
      by_cases zero : h = 0
      · rw [if_pos zero]
        subst zero
        exact .zero ofNumber ofHeight
      · rw [if_neg zero]
        exact .height ofNumber ofHeight zero
    · rw [parse_of_heightFault parts ofNumber described]
      exact .heightFault ofNumber malformed described
  · rw [parse_of_numberFault parts described]
    exact .numberFault malformed described

theorem parse_eq_iff (parts : Parts s.toList number height) {result : Except HeightError Height} :
    parse s = result ↔ Gives s number height result := by
  constructor
  · rintro rfl
    exact gives_parse parts
  · intro given
    cases given with
    | height ofNumber ofHeight positive =>
      rw [parse_of_words parts ofNumber ofHeight, make, if_neg positive]
    | zero ofNumber ofHeight =>
      have word : IsNumeral height (0 : UInt64).toNat := ofHeight
      rw [parse_of_words parts ofNumber word, make, if_pos rfl]
    | numberFault _ described => exact parse_of_numberFault parts described
    | heightFault ofNumber _ described => exact parse_of_heightFault parts ofNumber described

/-! ## Writing -/

theorem parts_text (h : Height) : Parts h.text.toList
    (Nat.toDigits 10 h.revisionNumber.toNat) (Nat.toDigits 10 h.revisionHeight.toNat) := by
  have split : h.text.toList = Nat.toDigits 10 h.revisionNumber.toNat ++
      '-' :: Nat.toDigits 10 h.revisionHeight.toNat := by
    simp [text, write, Nat.toList_repr]
  rw [split]
  exact .dashed (ChainId.dash_not_mem_toDigits h.revisionNumber.toNat)

theorem parse_text {h : Height} (valid : h.Valid) : parse h.text = .ok h :=
  (parse_eq_iff (parts_text h)).mpr
    (.height (isNumeral_toDigits h.revisionNumber) (isNumeral_toDigits h.revisionHeight) valid)

/-- Also the heights that are not valid can be told from their texts. -/
theorem text_inj {a b : Height} : a.text = b.text ↔ a = b := by
  constructor
  · intro same
    have words := ChainId.numberedText_inj.mp same
    exact eq_of_words (write_inj.mp words.1) words.2
  · rintro rfl
    rfl

/-- **Reading and writing.** Every text has two parts, and what it gives depends on them alone. A
valid height is read from its own text, and no two heights have the same text. -/
theorem parse_iff :
    (∀ s : String, ∃ number height, Parts s.toList number height) ∧
    (∀ s number height result, Parts s.toList number height →
      (parse s = result ↔ Gives s number height result)) ∧
    (∀ h : Height, h.Valid → parse h.text = .ok h) ∧
    ∀ a b : Height, a.text = b.text ↔ a = b := by
  refine ⟨?_, ?_, ?_, ?_⟩
  · intro s
    exact exists_parts s.toList
  · intro s number height result parts
    exact parse_eq_iff parts
  · intro h valid
    exact parse_text valid
  · intro a b
    exact text_inj

/-- A sign and zeros are read over, a second dash is the fault of the second part, and the greatest
height is read from its text. -/
theorem parse_iff_past_second_dash :
    let greatest : Height := ⟨18446744073709551615, 18446744073709551615⟩
    (Parts "+00-1-2".toList ['+', '0', '0'] ['1', '-', '2'] ∧
      parse "+00-1-2" = .error (.heightConversion "+00-1-2" .invalidDigit)) ∧
    greatest.Valid ∧ parse greatest.text = .ok greatest := by
  intro greatest
  obtain ⟨-, ofParts, ofText, -⟩ := parse_iff
  have plain : '-' ∉ ['+', '0', '0'] := by decide
  have parts : Parts "+00-1-2".toList ['+', '0', '0'] ['1', '-', '2'] := .dashed plain
  have zero : IsNumeral ['+', '0', '0'] (0 : UInt64).toNat :=
    ⟨by decide, List.all_eq_true.mp rfl, by decide⟩
  have malformed : ∀ h : UInt64, ¬ IsNumeral ['1', '-', '2'] h.toNat := by
    intro h numeral
    exact absurd (numeral.digits '-' (by decide)) (by decide)
  have described : Fault.invalidDigit.Describes ['1', '-', '2'] :=
    .inr (.inr ⟨['1'], '-', ['2'], by decide, List.all_eq_true.mp rfl, by decide, by decide⟩)
  have valid : greatest.Valid := by decide
  exact ⟨⟨parts, (ofParts _ _ _ _ parts).mpr (.heightFault zero malformed described)⟩,
    valid, ofText greatest valid⟩

end Height

end ChannelRelay
