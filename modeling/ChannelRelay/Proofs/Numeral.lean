import ChannelRelay.Proofs.Digits

/-!
# Numerals

A word of 64 bits has many numerals: its digits may follow zeros and one `+`. Every other text
has a fault, the first one from the left.

* `read_eq_ok_iff`: a word is read from its numerals, and from no other text;
* `read_eq_error_iff`: the fault that is reported is the one the text has.
-/

namespace ChannelRelay.Decimal

variable {c : Char} {cs ds rest : List Char} {v : Nat} {w : UInt64} {fault : Fault}

/-- A text without the `+` that it may begin with. -/
def unsigned : List Char → List Char
  | '+' :: rest => rest
  | cs => cs

/-- The numerals of a number. -/
structure IsNumeral (cs : List Char) (n : Nat) : Prop where
  begun : unsigned cs ≠ []
  digits : ∀ c ∈ unsigned cs, c.isDigit
  value : Nat.ofDigitChars 10 (unsigned cs) 0 = n

/-- The fault that ends the reading of a text after digits of the value `v`. -/
def Fault.Ends (v : Nat) (cs : List Char) : Fault → Prop
  | empty => False
  | invalidDigit => ∃ ds c rest, cs = ds ++ c :: rest ∧ (∀ d ∈ ds, d.isDigit) ∧
      Nat.ofDigitChars 10 ds v < UInt64.size ∧ c.isDigit = false
  | overflow => ∃ ds rest, cs = ds ++ rest ∧ (∀ d ∈ ds, d.isDigit) ∧
      UInt64.size ≤ Nat.ofDigitChars 10 ds v

/-- What a fault says of a text. A lone `+` lacks its first digit. -/
def Fault.Describes (fault : Fault) (cs : List Char) : Prop :=
  fault = .empty ∧ cs = [] ∨ fault = .invalidDigit ∧ cs = ['+'] ∨ fault.Ends 0 (unsigned cs)

/-! ## The first fault -/

theorem readFrom_digit (digit : c.isDigit) :
    readFrom v (c :: cs) =
      if Nat.ofDigitChars 10 [c] v < UInt64.size then readFrom (Nat.ofDigitChars 10 [c] v) cs
      else .error .overflow := by
  have next : Nat.ofDigitChars 10 [c] v = v * 10 + (c.toNat - 48) := by
    rw [Nat.ofDigitChars_cons, Nat.ofDigitChars_nil, Nat.mul_comm]
    rfl
  rw [readFrom, digit?_of_isDigit digit, next]

theorem ofDigitChars_head : Nat.ofDigitChars 10 (c :: ds) v =
    Nat.ofDigitChars 10 ds (Nat.ofDigitChars 10 [c] v) := by
  rw [Nat.ofDigitChars_cons, Nat.ofDigitChars_cons, Nat.ofDigitChars_nil]

theorem readFrom_invalidDigit (digits : ∀ d ∈ ds, d.isDigit)
    (fits : Nat.ofDigitChars 10 ds v < UInt64.size) (other : c.isDigit = false) :
    readFrom v (ds ++ c :: rest) = .error .invalidDigit := by
  induction ds generalizing v with
  | nil => rw [List.nil_append, readFrom, digit?_of_not_isDigit other]
  | cons d ds ih =>
    obtain ⟨digit, later⟩ := List.forall_mem_cons.mp digits
    rw [ofDigitChars_head] at fits
    have grows : Nat.ofDigitChars 10 [d] v ≤ Nat.ofDigitChars 10 ds (Nat.ofDigitChars 10 [d] v) :=
      le_ofDigitChars
    rw [List.cons_append, readFrom_digit digit, if_pos (by omega)]
    exact ih later fits

theorem readFrom_overflow (digits : ∀ d ∈ ds, d.isDigit) (begun : v < UInt64.size)
    (beyond : UInt64.size ≤ Nat.ofDigitChars 10 ds v) :
    readFrom v (ds ++ rest) = .error .overflow := by
  induction ds generalizing v with
  | nil =>
    rw [Nat.ofDigitChars_nil] at beyond
    omega
  | cons d ds ih =>
    obtain ⟨digit, later⟩ := List.forall_mem_cons.mp digits
    rw [ofDigitChars_head] at beyond
    rw [List.cons_append, readFrom_digit digit]
    by_cases room : Nat.ofDigitChars 10 [d] v < UInt64.size
    · rw [if_pos room]
      exact ih later room beyond
    -- Digits that come after the word is full are not looked at.
    · rw [if_neg room]

/-- A fault stays the first one with a digit in front. -/
theorem Fault.Ends.cons (digit : c.isDigit) (ends : fault.Ends (Nat.ofDigitChars 10 [c] v) cs) :
    fault.Ends v (c :: cs) := by
  cases fault with
  | empty => exact ends.elim
  | invalidDigit =>
    obtain ⟨ds, d, rest, rfl, digits, fits, other⟩ := ends
    refine ⟨c :: ds, d, rest, rfl, List.forall_mem_cons.mpr ⟨digit, digits⟩, ?_, other⟩
    rwa [ofDigitChars_head]
  | overflow =>
    obtain ⟨ds, rest, rfl, digits, beyond⟩ := ends
    refine ⟨c :: ds, rest, rfl, List.forall_mem_cons.mpr ⟨digit, digits⟩, ?_⟩
    rwa [ofDigitChars_head]

theorem readFrom_eq_error (begun : v < UInt64.size) :
    readFrom v cs = .error fault ↔ fault.Ends v cs := by
  constructor
  · intro failed
    induction cs generalizing v with
    | nil => cases failed
    | cons c cs ih =>
      by_cases digit : c.isDigit
      · rw [readFrom_digit digit] at failed
        by_cases room : Nat.ofDigitChars 10 [c] v < UInt64.size
        · rw [if_pos room] at failed
          exact (ih room failed).cons digit
        · rw [if_neg room] at failed
          cases failed
          exact ⟨[c], cs, rfl, by simpa using digit, Nat.le_of_not_lt room⟩
      · have other : c.isDigit = false := by simpa using digit
        rw [readFrom, digit?_of_not_isDigit other] at failed
        cases failed
        exact ⟨[], c, cs, rfl, by simp, begun, other⟩
  · intro ends
    cases fault with
    | empty => exact ends.elim
    | invalidDigit =>
      obtain ⟨ds, c, rest, rfl, digits, fits, other⟩ := ends
      exact readFrom_invalidDigit digits fits other
    | overflow =>
      obtain ⟨ds, rest, rfl, digits, beyond⟩ := ends
      exact readFrom_overflow digits begun beyond

/-! ## Texts -/

/-- Reading starts after the sign, if anything follows it. -/
theorem read_eq_readFrom (begun : unsigned cs ≠ []) :
    read cs = (readFrom 0 (unsigned cs)).map Nat.toUInt64 := by
  cases cs with
  | nil => exact absurd rfl begun
  | cons c rest =>
    by_cases sign : c = '+'
    · subst sign
      cases rest with
      | nil => exact absurd rfl begun
      | cons d rest => rfl
    · simp [read, readDigits, unsigned, sign]

theorem unsigned_eq_nil : unsigned cs = [] ↔ cs = [] ∨ cs = ['+'] := by
  constructor
  · intro none
    cases cs with
    | nil => exact .inl rfl
    | cons c rest =>
      by_cases sign : c = '+'
      · subst sign
        exact .inr (congrArg ('+' :: ·) none)
      · simp [unsigned, sign] at none
  · rintro (rfl | rfl) <;> rfl

theorem map_toUInt64_eq_ok :
    (readFrom 0 ds).map Nat.toUInt64 = .ok w ↔ readFrom 0 ds = .ok w.toNat := by
  cases number : readFrom 0 ds with
  | error fault => simp [Except.map]
  | ok n =>
    have fits := ((readFrom_eq_ok (by decide)).mp number).2.2
    simp only [Except.map, Except.ok.injEq]
    rw [← UInt64.toNat_inj]
    simp [Nat.toUInt64, Nat.mod_eq_of_lt fits]

theorem map_toUInt64_eq_error :
    (readFrom 0 ds).map Nat.toUInt64 = .error fault ↔ readFrom 0 ds = .error fault := by
  cases readFrom 0 ds <;> simp [Except.map]

/-- A word is read from its numerals. -/
theorem read_eq_ok_iff : read cs = .ok w ↔ IsNumeral cs w.toNat := by
  by_cases begun : unsigned cs = []
  · have unread : read cs ≠ .ok w := by
      rcases unsigned_eq_nil.mp begun with rfl | rfl <;> nofun
    constructor
    · intro read
      exact absurd read unread
    · intro numeral
      exact absurd begun numeral.begun
  · rw [read_eq_readFrom begun, map_toUInt64_eq_ok, readFrom_eq_ok (by decide)]
    constructor
    · rintro ⟨digits, value, -⟩
      exact ⟨begun, digits, value.symm⟩
    · intro numeral
      exact ⟨numeral.digits, numeral.value.symm, w.toNat_lt_size⟩

/-- The fault that is reported is the one the text has. -/
theorem read_eq_error_iff : read cs = .error fault ↔ fault.Describes cs := by
  by_cases begun : unsigned cs = []
  · have none : ¬ fault.Ends 0 (unsigned cs) := by
      rw [begun, ← readFrom_eq_error (by decide)]
      nofun
    rcases unsigned_eq_nil.mp begun with rfl | rfl
    · simp [Fault.Describes, none, read, eq_comm]
    · simp [Fault.Describes, none, read, readDigits, eq_comm]
  · have other : cs ≠ [] ∧ cs ≠ ['+'] := by
      simpa [unsigned_eq_nil] using begun
    rw [read_eq_readFrom begun, map_toUInt64_eq_error, readFrom_eq_error (by decide)]
    simp [Fault.Describes, other]

theorem unsigned_of_isDigit (digits : ∀ c ∈ ds, c.isDigit) : unsigned ds = ds := by
  cases ds with
  | nil => rfl
  | cons c ds =>
    have digit := digits c List.mem_cons_self
    have noSign : c ≠ '+' := ne_of_isDigit digit (by decide)
    simp [unsigned, noSign]

/-- Digits are read as the word of their number, if there is one. -/
theorem read_eq_ok (digits : ∀ c ∈ ds, c.isDigit) (begun : ds ≠ []) :
    read ds = .ok w ↔ Nat.ofDigitChars 10 ds 0 = w.toNat := by
  have plain := unsigned_of_isDigit digits
  rw [read_eq_ok_iff]
  constructor
  · intro numeral
    rw [← plain]
    exact numeral.value
  · intro value
    exact ⟨by rwa [plain], by rwa [plain], by rwa [plain]⟩

theorem read_toDigits (w : UInt64) : read (Nat.toDigits 10 w.toNat) = .ok w :=
  (read_eq_ok isDigit_of_mem_toDigits Nat.toDigits_ne_nil).mpr Nat.ofDigitChars_ten_toDigits

end ChannelRelay.Decimal
