import ChannelRelay.Proofs.ChainId
import ChannelRelay.Proofs.Validation

/-!
# Numbered identifiers

An identifier that is built from a counter is one that its own check accepts, and no two counters
give the same.

* `checkIdentifier_eq_ok`, `parse_eq_ok`: the texts that are identifiers;
* `utf8ByteSize_write`: a counter takes a byte for each of its digits, of which there are at most
  twenty;
* `hasIdentifierChars_numberedText`: a dash and digits may stand in every identifier;
* `numbered_valid`: the identifiers of connections, channels and clients.
-/

namespace ChannelRelay

variable {id s stem stem' : String} {min max : Nat} {counter counter' : UInt64} {c : Char}

/-! ## Texts of identifiers -/

/-- What is asked of the characters of an identifier. -/
def HasIdentifierChars (s : String) : Prop :=
  '/' ∉ s.toList ∧ ∀ c ∈ s.toList, isIdentifierChar c

theorem checkIdentifier_eq_ok : checkIdentifier id min max = .ok () ↔
    id ≠ "" ∧ HasIdentifierChars id ∧ min ≤ id.utf8ByteSize ∧ id.utf8ByteSize ≤ max := by
  rw [checkIdentifier_eq_iff]
  constructor
  · intro met
    have chars : id.toList.all isIdentifierChar = true := met_characters.mp (met .characters)
    exact ⟨met .nonempty, ⟨met .unseparated, List.all_eq_true.mp chars⟩, met .length⟩
  · rintro ⟨begun, ⟨whole, chars⟩, within⟩
    exact met_of begun whole within (met_characters.mpr (List.all_eq_true.mpr chars))

theorem Identifier.parse_eq_ok {kind : IdentifierKind} {identifier : Identifier kind} :
    Identifier.parse kind s = .ok identifier ↔
      identifier = ⟨s⟩ ∧ checkIdentifier s kind.minLength kind.maxLength = .ok () := by
  unfold Identifier.parse
  cases checked : checkIdentifier s kind.minLength kind.maxLength with
  | error e => simp [Except.map]
  | ok => simp [Except.map, eq_comm]

/-! ## Counters in texts -/

/-- How many digits a counter is written with. -/
def digitCount (counter : UInt64) : Nat := (Nat.toDigits 10 counter.toNat).length

theorem utf8ByteSize_write : (Decimal.write counter).utf8ByteSize = digitCount counter := by
  have ascii : ∀ c ∈ (Decimal.write counter).toList, c.toNat < 128 := by
    intro c mem
    rw [Decimal.write, Nat.toList_repr] at mem
    have bounds := Decimal.toNat_bounds (Decimal.isDigit_of_mem_toDigits c mem)
    omega
  rw [(utf8ByteSize_eq_length_iff _).mpr ascii, ← String.length_toList, Decimal.write,
    Nat.toList_repr, digitCount]

theorem digitCount_le : digitCount counter ≤ 20 := by
  rw [digitCount, Nat.length_toDigits_le_iff (by decide) (by decide)]
  exact Nat.lt_trans counter.toNat_lt (by decide)

theorem digitCount_pos : 0 < digitCount counter := Nat.length_toDigits_pos

theorem utf8ByteSize_numberedText :
    (numberedText stem counter).utf8ByteSize = stem.utf8ByteSize + 1 + digitCount counter := by
  rw [numberedText, String.utf8ByteSize_append, String.utf8ByteSize_append, utf8ByteSize_write]
  rfl

theorem isIdentifierChar_of_isDigit (digit : c.isDigit) : isIdentifierChar c := by
  have bounds := Decimal.toNat_bounds digit
  have alphanumeric : Text.isAlphanumeric c = c.isAlphanum :=
    Text.isAlphanumeric_of_ascii (by omega)
  simp [isIdentifierChar, alphanumeric, Char.isAlphanum, digit]

/-- A dash and digits may stand in any identifier, so only the stem is to be looked at. -/
theorem hasIdentifierChars_numberedText :
    HasIdentifierChars (numberedText stem counter) ↔ HasIdentifierChars stem := by
  have counted : ∀ c ∈ '-' :: Nat.toDigits 10 counter.toNat, c ≠ '/' ∧ isIdentifierChar c := by
    intro c mem
    rcases List.mem_cons.mp mem with rfl | mem
    · decide
    · have digit : c.isDigit := Decimal.isDigit_of_mem_toDigits c mem
      exact ⟨Decimal.ne_of_isDigit digit (by decide), isIdentifierChar_of_isDigit digit⟩
  unfold HasIdentifierChars
  rw [toList_numberedText]
  constructor
  · rintro ⟨separator, chars⟩
    exact ⟨fun mem => separator (List.mem_append_left _ mem),
      fun c mem => chars c (List.mem_append_left _ mem)⟩
  · rintro ⟨separator, chars⟩
    refine ⟨?_, ?_⟩
    · intro mem
      rcases List.mem_append.mp mem with mem | mem
      · exact separator mem
      · exact (counted _ mem).1 rfl
    · intro c mem
      rcases List.mem_append.mp mem with mem | mem
      · exact chars c mem
      · exact (counted c mem).2

theorem checkIdentifier_numberedText :
    checkIdentifier (numberedText stem counter) min max = .ok () ↔
    HasIdentifierChars stem ∧ min ≤ stem.utf8ByteSize + 1 + digitCount counter ∧
      stem.utf8ByteSize + 1 + digitCount counter ≤ max := by
  have begun : numberedText stem counter ≠ "" := by
    rw [ne_eq, ← String.utf8ByteSize_eq_zero_iff, utf8ByteSize_numberedText]
    omega
  rw [checkIdentifier_eq_ok, hasIdentifierChars_numberedText, utf8ByteSize_numberedText]
  simp [begun]

/-! ## Identifiers from counters -/

theorem ClientId.numbered_eq_ok {client : ClientId} : ClientId.numbered stem counter = .ok client ↔
    client.text = numberedText stem counter ∧ HasIdentifierChars stem ∧
      9 ≤ stem.utf8ByteSize + 1 + digitCount counter ∧
      stem.utf8ByteSize + 1 + digitCount counter ≤ 64 := by
  rw [ClientId.numbered, Identifier.parse_eq_ok, checkIdentifier_numberedText]
  cases client
  rw [Identifier.mk.injEq]
  rfl

/-- A stem that is long enough and not too long may stand before every counter. -/
theorem parse_numberedText {kind : IdentifierKind} (chars : HasIdentifierChars stem)
    (long : kind.minLength ≤ stem.utf8ByteSize + 2)
    (short : stem.utf8ByteSize + 21 ≤ kind.maxLength) :
    Identifier.parse kind (numberedText stem counter) = .ok ⟨numberedText stem counter⟩ := by
  have least : 0 < digitCount counter := digitCount_pos
  have most : digitCount counter ≤ 20 := digitCount_le
  apply Identifier.parse_eq_ok.mpr
  refine ⟨rfl, checkIdentifier_numberedText.mpr ⟨chars, ?_, ?_⟩⟩
  · omega
  · omega

/-- **Identifiers from counters.** Those of connections and channels, which are not checked when
they are built, are read back from their texts. A client gets one just if the stem may stand in an
identifier and leaves the right room for the counter. Other counters, or other stems, give other
identifiers. -/
theorem numbered_valid :
    (∀ counter, Identifier.parse .connection (ConnectionId.numbered counter).text =
      .ok (ConnectionId.numbered counter)) ∧
    (∀ counter, Identifier.parse .channel (ChannelId.numbered counter).text =
      .ok (ChannelId.numbered counter)) ∧
    (∀ stem counter, (∃ client, ClientId.numbered stem counter = .ok client) ↔
      ('/' ∉ stem.toList ∧ ∀ c ∈ stem.toList, isIdentifierChar c) ∧
        9 ≤ stem.utf8ByteSize + 1 + digitCount counter ∧
        stem.utf8ByteSize + 1 + digitCount counter ≤ 64) ∧
    (∀ a b, ConnectionId.numbered a = ConnectionId.numbered b ↔ a = b) ∧
    (∀ a b, ChannelId.numbered a = ChannelId.numbered b ↔ a = b) ∧
    ∀ stem a stem' b client client', ClientId.numbered stem a = .ok client →
      ClientId.numbered stem' b = .ok client' → (client = client' ↔ stem = stem' ∧ a = b) := by
  have connection : HasIdentifierChars ConnectionId.stem :=
    ⟨by decide, List.all_eq_true.mp rfl⟩
  have channel : HasIdentifierChars ChannelId.stem := ⟨by decide, List.all_eq_true.mp rfl⟩
  refine ⟨?_, ?_, ?_, ?_, ?_, ?_⟩
  · intro counter
    exact parse_numberedText connection (by decide) (by decide)
  · intro counter
    exact parse_numberedText channel (by decide) (by decide)
  · intro stem counter
    constructor
    · rintro ⟨client, built⟩
      exact (ClientId.numbered_eq_ok.mp built).2
    · intro fits
      exact ⟨⟨numberedText stem counter⟩, ClientId.numbered_eq_ok.mpr ⟨rfl, fits⟩⟩
  -- A dash in a stem does no harm: the counter stands after the last dash of the text.
  · intro a b
    simp [ConnectionId.numbered, ChainId.numberedText_inj]
  · intro a b
    simp [ChannelId.numbered, ChainId.numberedText_inj]
  · intro stem a stem' b client client' built built'
    rw [← ChainId.numberedText_inj, ← (ClientId.numbered_eq_ok.mp built).1,
      ← (ClientId.numbered_eq_ok.mp built').1]
    cases client
    cases client'
    rw [Identifier.mk.injEq]

/-- Two stems of which one goes on with a dash and a digit, and the longest identifiers. -/
theorem numbered_valid_dashed_stems :
    let client : ClientId := ⟨"07-tendermint-1-2"⟩
    let client' : ClientId := ⟨"07-tendermint-12"⟩
    let stem := String.ofList (List.replicate 43 'a')
    ClientId.numbered "07-tendermint-1" 2 = .ok client ∧
      ClientId.numbered "07-tendermint" 12 = .ok client' ∧ client ≠ client' ∧
      (∃ longest, ClientId.numbered stem 18446744073709551615 = .ok longest) := by
  intro client client' stem
  obtain ⟨-, -, succeeds, -, -, injective⟩ := numbered_valid
  have built : ClientId.numbered "07-tendermint-1" 2 = .ok client :=
    ClientId.numbered_eq_ok.mpr
      ⟨by decide, ⟨by decide, List.all_eq_true.mp rfl⟩, by decide, by decide⟩
  have built' : ClientId.numbered "07-tendermint" 12 = .ok client' :=
    ClientId.numbered_eq_ok.mpr
      ⟨by decide, ⟨by decide, List.all_eq_true.mp rfl⟩, by decide, by decide⟩
  refine ⟨built, built', ?_, ?_⟩
  · intro same
    have equal := (injective _ _ _ _ _ _ built built').mp same
    exact absurd equal.2 (by decide)
  · exact (succeeds _ _).mpr ⟨⟨by decide, List.all_eq_true.mp (by decide)⟩, by decide, by decide⟩

end ChannelRelay
