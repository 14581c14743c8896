import ChannelRelay.Identifier

/-!
# The verdict on an identifier

The check of an identifier holds four rules against a text and names the first one that is broken.
The rule on the length counts bytes of UTF-8: that is how many characters there are if all of these
are ASCII, and otherwise it is more.

* `IdentifierRule.Met`, `IdentifierRule.FirstBroken`: the rules, and the one to be named;
* `Verdict`, `Verdict.unique`: what is to be answered about a text of a length, and nothing else;
* `verdict_checkIdentifier`, `checkIdentifier_eq_iff`: the check answers this for the bytes;
* `length_le_utf8ByteSize`, `utf8ByteSize_eq_length_iff`: bytes and characters;
* `verdict_in_bytes`: the answers of the check, and when they are also those for the characters.
-/

namespace ChannelRelay

inductive IdentifierRule where
  | nonempty
  | unseparated
  | length
  | characters
  deriving DecidableEq, Repr

variable {size size' : Nat} {id : String} {min max : Nat} {rule other : IdentifierRule}
  {r r' : Except ValidationError Unit}

namespace IdentifierRule

/-- The place of a rule in the order in which they are tried. -/
def rank : IdentifierRule → Nat
  | nonempty => 0
  | unseparated => 1
  | length => 2
  | characters => 3

/-- Whether a text of length `size` keeps to a rule. -/
def Met (size : Nat) (id : String) (min max : Nat) : IdentifierRule → Prop
  | nonempty => id ≠ ""
  | unseparated => '/' ∉ id.toList
  | length => min ≤ size ∧ size ≤ max
  | characters => ∀ c ∈ id.toList, Text.isAlphanumeric c ∨
      c ∈ ['.', '_', '+', '-', '#', '[', ']', '<', '>']

def error (size : Nat) (id : String) (min max : Nat) : IdentifierRule → ValidationError
  | nonempty => .empty
  | unseparated => .containsSeparator id
  | length => .invalidLength id size min max
  | characters => .invalidCharacter id

/-- A rule that is broken, while those before it are met. -/
def FirstBroken (size : Nat) (id : String) (min max : Nat) (rule : IdentifierRule) : Prop :=
  ¬ rule.Met size id min max ∧
    ∀ earlier : IdentifierRule, earlier.rank < rule.rank → earlier.Met size id min max

theorem rank_inj (same : rule.rank = other.rank) : rule = other := by
  cases rule <;> cases other <;> simp_all [rank]

theorem FirstBroken.unique (first : rule.FirstBroken size id min max)
    (again : other.FirstBroken size id min max) : rule = other := by
  obtain before | same | after := Nat.lt_trichotomy rule.rank other.rank
  · exact absurd (again.2 rule before) first.1
  · exact rank_inj same
  · exact absurd (first.2 other after) again.1

end IdentifierRule

open IdentifierRule

/-- What is to be answered about a text of length `size`. -/
def Verdict (size : Nat) (id : String) (min max : Nat) : Except ValidationError Unit → Prop
  | .ok () => ∀ rule : IdentifierRule, rule.Met size id min max
  | .error e => ∃ rule : IdentifierRule,
      rule.FirstBroken size id min max ∧ e = rule.error size id min max

theorem verdict_of_met (met : ∀ rule : IdentifierRule, rule.Met size id min max) :
    Verdict size id min max r ↔ r = .ok () := by
  cases r with
  | ok => simpa [Verdict] using met
  | error e =>
    constructor
    · rintro ⟨rule, broken, -⟩
      exact absurd (met rule) broken.1
    · nofun

theorem verdict_of_firstBroken (broken : rule.FirstBroken size id min max) :
    Verdict size id min max r ↔ r = .error (rule.error size id min max) := by
  cases r with
  | ok =>
    constructor
    · intro met
      exact absurd (met rule) broken.1
    · nofun
  | error e =>
    rw [Except.error.injEq]
    constructor
    · rintro ⟨other, first, rfl⟩
      rw [first.unique broken]
    · rintro rfl
      exact ⟨rule, broken, rfl⟩

theorem Verdict.unique (first : Verdict size id min max r) (again : Verdict size id min max r') :
    r = r' := by
  cases r with
  | ok => exact ((verdict_of_met first).mp again).symm
  | error e =>
    obtain ⟨rule, broken, rfl⟩ := first
    exact ((verdict_of_firstBroken broken).mp again).symm

theorem firstBroken_nonempty : nonempty.FirstBroken size "" min max := by
  refine ⟨fun met => met rfl, ?_⟩
  intro earlier before
  exact absurd before (Nat.not_lt_zero _)

theorem firstBroken_unseparated (separated : '/' ∈ id.toList) :
    unseparated.FirstBroken size id min max := by
  refine ⟨fun met => met separated, ?_⟩
  intro earlier before
  cases earlier with
  | nonempty =>
    rintro rfl
    simp at separated
  | _ => exact absurd before (by decide)

theorem firstBroken_length (begun : id ≠ "") (whole : '/' ∉ id.toList)
    (outside : ¬ (min ≤ size ∧ size ≤ max)) : length.FirstBroken size id min max := by
  refine ⟨outside, ?_⟩
  intro earlier before
  cases earlier with
  | nonempty => exact begun
  | unseparated => exact whole
  | _ => exact absurd before (by decide)

theorem firstBroken_characters (begun : id ≠ "") (whole : '/' ∉ id.toList)
    (within : min ≤ size ∧ size ≤ max) (foreign : ¬ characters.Met size id min max) :
    characters.FirstBroken size id min max := by
  refine ⟨foreign, ?_⟩
  intro earlier before
  cases earlier with
  | nonempty => exact begun
  | unseparated => exact whole
  | length => exact within
  | characters => exact absurd before (Nat.lt_irrefl _)

theorem met_of (begun : id ≠ "") (whole : '/' ∉ id.toList) (within : min ≤ size ∧ size ≤ max)
    (chars : characters.Met size id min max) (rule : IdentifierRule) :
    rule.Met size id min max := by
  cases rule with
  | nonempty => exact begun
  | unseparated => exact whole
  | length => exact within
  | characters => exact chars

/-! ## The answer of the check -/

theorem met_characters :
    characters.Met size id min max ↔ id.toList.all isIdentifierChar = true := by
  rw [List.all_eq_true]
  apply forall₂_congr
  intro c _
  rw [isIdentifierChar, Bool.or_eq_true, List.contains_iff_mem]
  rfl

theorem verdict_checkIdentifier :
    Verdict id.utf8ByteSize id min max (checkIdentifier id min max) := by
  unfold checkIdentifier
  by_cases empty : id = ""
  · subst empty
    exact (verdict_of_firstBroken firstBroken_nonempty).mpr rfl
  rw [if_neg (by simpa using empty)]
  by_cases separated : '/' ∈ id.toList
  · rw [if_pos (by simpa using separated)]
    exact (verdict_of_firstBroken (firstBroken_unseparated separated)).mpr rfl
  rw [if_neg (by simpa using separated)]
  by_cases within : min ≤ id.utf8ByteSize ∧ id.utf8ByteSize ≤ max
  · rw [if_neg (by simpa using within)]
    by_cases chars : characters.Met id.utf8ByteSize id min max
    · rw [if_neg (by simp [met_characters.mp chars])]
      exact met_of empty separated within chars
    · rw [if_pos (by simpa [met_characters] using chars)]
      exact (verdict_of_firstBroken (firstBroken_characters empty separated within chars)).mpr rfl
  · rw [if_pos (by simp; omega)]
    exact (verdict_of_firstBroken (firstBroken_length empty separated within)).mpr rfl

theorem checkIdentifier_eq_iff :
    checkIdentifier id min max = r ↔ Verdict id.utf8ByteSize id min max r := by
  constructor
  · rintro rfl
    exact verdict_checkIdentifier
  · intro given
    exact verdict_checkIdentifier.unique given

/-! ## Bytes and characters -/

theorem utf8ByteSize_cons (c : Char) (cs : List Char) :
    (String.ofList (c :: cs)).utf8ByteSize = c.utf8Size + (String.ofList cs).utf8ByteSize := by
  rw [String.ofList_cons, String.utf8ByteSize_append, String.utf8ByteSize_singleton]

theorem length_le_utf8ByteSize (s : String) : s.length ≤ s.utf8ByteSize := by
  have each (cs : List Char) : cs.length ≤ (String.ofList cs).utf8ByteSize := by
    induction cs with
    | nil => exact Nat.le_refl _
    | cons c cs ih =>
      have positive := c.utf8Size_pos
      rw [List.length_cons, utf8ByteSize_cons]
      omega
  simpa [String.length_toList] using each s.toList

/-- There are as many bytes as characters if all of these are ASCII. -/
theorem utf8ByteSize_eq_length_iff (s : String) :
    s.utf8ByteSize = s.length ↔ ∀ c ∈ s.toList, c.toNat < 128 := by
  have each (cs : List Char) :
      (String.ofList cs).utf8ByteSize = cs.length ↔ ∀ c ∈ cs, c.toNat < 128 := by
    induction cs with
    | nil => simp
    | cons c cs ih =>
      have positive := c.utf8Size_pos
      have least : cs.length ≤ (String.ofList cs).utf8ByteSize := by
        simpa using length_le_utf8ByteSize (String.ofList cs)
      have one : c.utf8Size = 1 ↔ c.toNat < 128 := by
        rw [Char.utf8Size_eq_one_iff, UInt32.le_iff_toNat_le]
        exact Nat.lt_succ_iff.symm
      rw [List.forall_mem_cons, ← ih, ← one, List.length_cons, utf8ByteSize_cons]
      omega
  simpa [String.length_toList] using each s.toList

theorem size_of_verdict {n : Nat}
    (verdict : Verdict size id min max (.error (.invalidLength id n min max))) : n = size := by
  obtain ⟨rule, -, same⟩ := verdict
  cases rule <;> cases same
  rfl

/-- Two lengths give the same verdict if neither is looked at, or both are allowed. -/
theorem verdict_congr (same : id = "" ∨ '/' ∈ id.toList ∨ size = size' ∨
    (min ≤ size ∧ size ≤ max) ∧ (min ≤ size' ∧ size' ≤ max)) :
    Verdict size id min max r ↔ Verdict size' id min max r := by
  by_cases empty : id = ""
  · subst empty
    rw [verdict_of_firstBroken firstBroken_nonempty, verdict_of_firstBroken firstBroken_nonempty]
    rfl
  by_cases separated : '/' ∈ id.toList
  · have broken {n : Nat} : unseparated.FirstBroken n id min max :=
      firstBroken_unseparated separated
    rw [verdict_of_firstBroken broken, verdict_of_firstBroken broken]
    rfl
  obtain absurd | absurd | rfl | ⟨within, within'⟩ := same
  · contradiction
  · contradiction
  · rfl
  by_cases chars : characters.Met size id min max
  · rw [verdict_of_met (met_of empty separated within chars),
      verdict_of_met (met_of empty separated within' chars)]
  · rw [verdict_of_firstBroken (firstBroken_characters empty separated within chars),
      verdict_of_firstBroken (firstBroken_characters empty separated within' chars)]
    rfl

theorem verdict_congr_iff : (∀ r, Verdict size id min max r ↔ Verdict size' id min max r) ↔
    id = "" ∨ '/' ∈ id.toList ∨ size = size' ∨
      (min ≤ size ∧ size ≤ max) ∧ (min ≤ size' ∧ size' ≤ max) := by
  constructor
  · intro alike
    by_cases empty : id = ""
    · exact .inl empty
    by_cases separated : '/' ∈ id.toList
    · exact .inr (.inl separated)
    -- A length that is not allowed is part of the answer.
    by_cases within : min ≤ size ∧ size ≤ max
    · by_cases within' : min ≤ size' ∧ size' ≤ max
      · exact .inr (.inr (.inr ⟨within, within'⟩))
      · have broken := (verdict_of_firstBroken (firstBroken_length empty separated within')).mpr rfl
        exact .inr (.inr (.inl (size_of_verdict ((alike _).mpr broken)).symm))
    · have broken := (verdict_of_firstBroken (firstBroken_length empty separated within)).mpr rfl
      exact .inr (.inr (.inl (size_of_verdict ((alike _).mp broken))))
  · intro same r
    exact verdict_congr same

theorem validateIdentifier_eq_iff (ordered : min ≤ max) :
    validateIdentifier id min max = .ok r ↔ Verdict id.utf8ByteSize id min max r := by
  rw [validateIdentifier, if_pos ordered, Except.ok.injEq]
  exact checkIdentifier_eq_iff

/-- **The verdict on an identifier.** A text is accepted if it keeps to all four rules, its length
counted in bytes, and otherwise the first rule it breaks is the error. Were the characters counted,
the answers would be the same for an empty text, one with a separator, one of ASCII characters, and
one whose length is allowed either way, but for no other. -/
theorem verdict_in_bytes (id : String) (min max : Nat) (ordered : min ≤ max) :
    (∀ r, validateIdentifier id min max = .ok r ↔ Verdict id.utf8ByteSize id min max r) ∧
    id.length ≤ id.utf8ByteSize ∧
    ((∀ r, validateIdentifier id min max = .ok r ↔ Verdict id.length id min max r) ↔
      id = "" ∨ '/' ∈ id.toList ∨ (∀ c ∈ id.toList, c.toNat < 128) ∨
        (min ≤ id.length ∧ id.utf8ByteSize ≤ max)) := by
  have answers (r : Except ValidationError Unit) :
      validateIdentifier id min max = .ok r ↔ Verdict id.utf8ByteSize id min max r :=
    validateIdentifier_eq_iff ordered
  have fewer : id.length ≤ id.utf8ByteSize := length_le_utf8ByteSize id
  refine ⟨answers, fewer, ?_⟩
  have both : ((min ≤ id.utf8ByteSize ∧ id.utf8ByteSize ≤ max) ∧
      (min ≤ id.length ∧ id.length ≤ max)) ↔ (min ≤ id.length ∧ id.utf8ByteSize ≤ max) := by
    omega
  simp only [answers, verdict_congr_iff, both, utf8ByteSize_eq_length_iff]

/-- A port of one character that takes two bytes is long enough. -/
theorem verdict_in_bytes_accented :
    (2 ≤ 128) ∧ validateIdentifier "é" 2 128 = .ok (.ok ()) ∧
      ¬ ∀ r, validateIdentifier "é" 2 128 = .ok r ↔ Verdict "é".length "é" 2 128 r := by
  obtain ⟨answers, -, alike⟩ := verdict_in_bytes "é" 2 128 (by decide)
  have short : "é".length = 1 := rfl
  refine ⟨by decide, (answers _).mpr ?_, mt alike.mp (by simp [short])⟩
  exact met_of (by decide) (by decide) (by decide) (met_characters.mpr rfl)

/-- Lengths are not counted in characters: the one character of this text is one too many. -/
theorem not_measured_in_characters : ¬ ∀ id min max r, min ≤ max →
    (validateIdentifier id min max = .ok r ↔ Verdict id.length id min max r) := by
  intro measured
  have accepted : Verdict "é".length "é" 1 1 (.ok ()) :=
    met_of (by decide) (by decide) (by decide) (met_characters.mpr rfl)
  have refused : validateIdentifier "é" 1 1 = .ok (.error (.invalidLength "é" 2 1 1)) := rfl
  have answered := (measured "é" 1 1 (.ok ()) (by decide)).mpr accepted
  rw [refused] at answered
  cases answered

end ChannelRelay
