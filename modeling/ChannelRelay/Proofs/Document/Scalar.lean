import ChannelRelay.Document.Writer
import ChannelRelay.Proofs.Digits

/-!
# Written values

A string or an integer that was written into a document is read as it was.
-/

namespace ChannelRelay.Document

variable {c : Char} {cs ds read rest : List Char} {n fuel : Nat}

/-! ## Strings -/

theorem readHex_append {value : Nat} {result : Nat}
    (h : readHex value n cs = some (result, [])) :
    readHex value n (cs ++ rest) = some (result, rest) := by
  induction n generalizing value cs with
  | zero =>
    cases h
    rfl
  | succ n ih =>
    cases cs with
    | nil => cases h
    | cons c cs =>
      obtain ⟨d, digit, h⟩ := Option.bind_eq_some_iff.mp h
      exact Option.bind_eq_some_iff.mpr ⟨d, digit, ih h⟩

theorem readHex_fourHexDigits : ∀ n < 128, readHex 0 4 (fourHexDigits n) = some (n, []) := by
  decide +kernel

theorem toNat_lt_of_not_isPlain (h : isPlain c = false) : c.toNat < 128 := by
  simp [isPlain] at h
  omega

theorem scalar?_toNat (c : Char) : scalar? c.toNat = some c := by
  have valid : c.toNat.isValidChar := c.valid
  simp [scalar?, valid]

/-- A written character is read back, and nothing beyond it. -/
theorem readBasic_writeChar (c : Char) :
    readBasic (fuel + 1) read (writeChar c ++ rest) = readBasic fuel (c :: read) rest := by
  have noQuote : backslash ≠ quote := by decide
  unfold writeChar
  split
  · rename_i escaped
    have escape : readEscape (c :: rest) = some (c, rest) := by
      obtain rfl | rfl := escaped <;> rfl
    rw [List.cons_append, readBasic, if_neg noQuote, if_pos rfl, List.cons_append, List.nil_append,
      escape]
    rfl
  rename_i unescaped
  obtain ⟨notQuote, notBackslash⟩ := not_or.mp unescaped
  split
  · rename_i plain
    rw [List.cons_append, readBasic, if_neg notQuote, if_neg notBackslash, if_pos plain]
    rfl
  · rename_i control
    have small := toNat_lt_of_not_isPlain (Bool.eq_false_iff.mpr control)
    have digits : readHex 0 4 (fourHexDigits c.toNat ++ rest) = some (c.toNat, rest) :=
      readHex_append (readHex_fourHexDigits _ small)
    have escape : readEscape ('u' :: (fourHexDigits c.toNat ++ rest)) = some (c, rest) := by
      simp [readEscape, digits, scalar?_toNat]
    rw [List.cons_append, readBasic, if_neg noQuote, if_pos rfl, List.cons_append, escape]
    rfl

theorem readBasic_flatMap (enough : cs.length < fuel) :
    readBasic fuel read (cs.flatMap writeChar ++ quote :: rest) =
      some (String.ofList (read.reverse ++ cs), rest) := by
  induction cs generalizing fuel read with
  | nil =>
    obtain ⟨fuel, rfl⟩ := Nat.exists_eq_add_of_lt enough
    simp [readBasic]
  | cons c cs ih =>
    cases fuel with
    | zero => cases enough
    | succ fuel =>
      rw [List.flatMap_cons, List.append_assoc, readBasic_writeChar,
        ih (Nat.lt_of_succ_lt_succ enough)]
      simp

theorem length_le_flatMap_writeChar (cs : List Char) :
    cs.length ≤ (cs.flatMap writeChar).length := by
  induction cs with
  | nil => exact Nat.zero_le _
  | cons c cs ih =>
    have one : 1 ≤ (writeChar c).length := by
      unfold writeChar
      split
      · simp
      · split <;> simp
    simp only [List.flatMap_cons, List.length_append, List.length_cons]
    omega

/-- Only the marks of an empty string stand next to each other. -/
theorem runLength_writeString (s : String) (separate : ∀ c ∈ rest.head?, c ≠ quote) :
    runLength quote (quote :: (s.toList.flatMap writeChar ++ quote :: rest)) < 3 := by
  have stops {cs : List Char} (h : ∀ c ∈ cs.head?, c ≠ quote) : runLength quote cs = 0 := by
    cases cs with
    | nil => rfl
    | cons c cs => simp [runLength, h c rfl]
  have more (cs : List Char) : runLength quote (quote :: cs) = runLength quote cs + 1 := by
    simp [runLength]
  rw [more]
  cases s.toList with
  | nil =>
    rw [List.flatMap_nil, List.nil_append, more, stops separate]
    decide
  | cons c cs =>
    rw [stops]
    · decide
    · intro d first
      rw [List.flatMap_cons, List.append_assoc] at first
      unfold writeChar at first
      split at first
      · cases first
        decide
      rename_i unescaped
      split at first
      · cases first
        exact (not_or.mp unescaped).1
      · cases first
        decide

theorem readString_writeString (s : String) (separate : ∀ c ∈ rest.head?, c ≠ quote) :
    readString (quote :: (s.toList.flatMap writeChar ++ quote :: rest)) = some (s, rest) := by
  have short := Nat.not_le_of_lt (runLength_writeString s separate)
  have enough : s.toList.length < (s.toList.flatMap writeChar ++ quote :: rest).length + 1 := by
    have := length_le_flatMap_writeChar s.toList
    simp only [List.length_append]
    omega
  rw [readString, if_neg fun h => short h.2, readQuoted, if_pos rfl, readBasic_flatMap enough,
    List.reverse_nil, List.nil_append, String.ofList_toList]

/-- A value that is not one of the two truth values begins with its kind. -/
theorem readScalar_cons (notTrue : c ≠ 't') (notFalse : c ≠ 'f') :
    readScalar (c :: cs) =
      if c = quote ∨ c = apostrophe then
        (readString (c :: cs)).map fun (s, rest) => (.text s, rest)
      else if startsDate (c :: cs) || startsTime (c :: cs) then
        readMoment (c :: cs)
      else
        readNumber (c :: cs) := by
  unfold readScalar
  split
  · rename_i same
    exact absurd (List.cons.inj same).1 notTrue
  · rename_i same
    exact absurd (List.cons.inj same).1 notFalse
  · rename_i same
    cases same
    rfl
  · rename_i same
    cases same

theorem readScalar_writeString (s : String) (separate : ∀ c ∈ rest.head?, c ≠ quote) :
    readScalar ((writeString s).toList ++ rest) = some (.text s, rest) := by
  have text : (writeString s).toList ++ rest =
      quote :: (s.toList.flatMap writeChar ++ quote :: rest) := by
    simp [writeString]
  rw [text, readScalar_cons (by decide) (by decide), if_pos (.inl rfl),
    readString_writeString s separate]
  rfl

/-! ## Integers -/

/-- What comes after some digits is another digit, or what follows them. -/
theorem head?_drop_digits (n : Nat) (rest : List Char) (line : ds.all Char.isDigit)
    (digits : ((ds ++ '\n' :: rest).take n).all Char.isDigit)
    (length : ((ds ++ '\n' :: rest).take n).length = n) :
    ∀ c ∈ ((ds ++ '\n' :: rest).drop n).head?, c.isDigit ∨ c = '\n' := by
  induction ds generalizing n with
  | nil =>
    cases n with
    | zero =>
      rintro c ⟨⟩
      exact .inr rfl
    | succ n => cases digits
  | cons d ds ih =>
    rw [List.all_cons, Bool.and_eq_true] at line
    cases n with
    | zero =>
      rintro c ⟨⟩
      exact .inl line.1
    | succ n =>
      simp only [List.cons_append, List.take_succ_cons, List.all_cons, Bool.and_eq_true,
        List.length_cons, Nat.add_right_cancel_iff, List.drop_succ_cons] at digits length ⊢
      exact ih n line.2 digits.2 length

theorem startsDate_digits (rest : List Char) (line : ds.all Char.isDigit) :
    startsDate (ds ++ '\n' :: rest) = false := by
  rw [Bool.eq_false_iff]
  intro starts
  simp only [startsDate, Bool.and_eq_true, beq_iff_eq, decide_eq_true_eq] at starts
  obtain ⟨⟨length, digits⟩, dash⟩ := starts
  have next := head?_drop_digits 4 rest line digits length '-' dash
  revert next
  decide

theorem startsTime_digits (rest : List Char) (line : ds.all Char.isDigit) :
    startsTime (ds ++ '\n' :: rest) = false := by
  rw [Bool.eq_false_iff]
  intro starts
  simp only [startsTime, Bool.and_eq_true, beq_iff_eq, decide_eq_true_eq] at starts
  obtain ⟨⟨length, digits⟩, colon⟩ := starts
  have next := head?_drop_digits 2 rest line digits length ':' colon
  revert next
  decide

theorem readMoreDigits_digits (digits : ds.all Char.isDigit) :
    readMoreDigits Char.isDigit read (ds ++ '\n' :: rest) =
      some (read.reverse ++ ds, '\n' :: rest) := by
  induction ds generalizing read with
  | nil =>
    rw [List.nil_append, List.append_nil]
    rfl
  | cons d ds ih =>
    rw [List.all_cons, Bool.and_eq_true] at digits
    have step : readMoreDigits Char.isDigit read (d :: (ds ++ '\n' :: rest)) =
        readMoreDigits Char.isDigit (d :: read) (ds ++ '\n' :: rest) := by
      have noUnderscore : d ≠ '_' := by
        rintro rfl
        cases digits.1
      rw [readMoreDigits.eq_def]
      split
      · rename_i same
        exact absurd (List.cons.inj same).1 noUnderscore
      · rename_i same
        exact absurd (List.cons.inj same).1 noUnderscore
      · rename_i same
        cases same
        exact if_pos digits.1
      · rename_i same
        cases same
    rw [List.cons_append, step, ih digits.2]
    simp

theorem readDecimal_toDigits :
    readDecimal (Nat.toDigits 10 n ++ '\n' :: rest) = some (Nat.toDigits 10 n, '\n' :: rest) := by
  cases n with
  | zero => rfl
  | succ n =>
    have noZero := Decimal.head?_toDigits_ne_zero (Nat.succ_pos n)
    have digits : ∀ c ∈ Nat.toDigits 10 (n + 1), c.isDigit := Decimal.isDigit_of_mem_toDigits
    obtain ⟨d, ds, split⟩ := List.exists_cons_of_ne_nil (Nat.toDigits_ne_nil (n := n + 1) (b := 10))
    rw [split] at noZero digits ⊢
    obtain ⟨first, others⟩ := List.forall_mem_cons.mp digits
    unfold readDecimal
    split
    · rename_i same
      obtain ⟨rfl, _⟩ := List.cons.inj same
      exact absurd rfl noZero
    · rw [List.cons_append, readDigits, if_pos first,
        readMoreDigits_digits (List.all_eq_true.mpr others)]
      rfl

theorem decimalValue_toDigits (n : Nat) : decimalValue (Nat.toDigits 10 n) = n := by
  conv => rhs; rw [← Nat.ofDigitChars_ten_toDigits (n := n)]
  simp only [decimalValue, digitsValue, Nat.ofDigitChars_eq_foldl, Nat.mul_comm]
  rfl

/-- The number is none of the special ones, and is not written in another base. -/
theorem readUnsigned_toDigits (n : Nat) (rest : List Char) (signed negative : Bool) :
    readUnsigned signed negative (Nat.toDigits 10 n ++ '\n' :: rest) =
      (integer? (if negative then -n else n)).map fun v => (v, '\n' :: rest) := by
  have line : (Nat.toDigits 10 n).all Char.isDigit :=
    List.all_eq_true.mpr Decimal.isDigit_of_mem_toDigits
  have first (d : Char) (cs : List Char) (same : Nat.toDigits 10 n ++ '\n' :: rest = d :: cs) :
      d.isDigit ∨ d = '\n' := by
    have next := head?_drop_digits 0 rest line rfl rfl
    rw [same] at next
    exact next d rfl
  have second (d : Char) (cs : List Char)
      (same : Nat.toDigits 10 n ++ '\n' :: rest = '0' :: d :: cs) : d.isDigit ∨ d = '\n' := by
    have next := head?_drop_digits 1 rest line (by rw [same]; rfl) (by rw [same]; rfl)
    rw [same] at next
    exact next d rfl
  unfold readUnsigned
  split
  · rename_i same
    exact absurd (first _ _ same) (by decide)
  · rename_i same
    exact absurd (first _ _ same) (by decide)
  · rename_i same
    exact absurd (second _ _ same) (by decide)
  · rename_i same
    exact absurd (second _ _ same) (by decide)
  · rename_i same
    exact absurd (second _ _ same) (by decide)
  · simp only [readDecimal_toDigits, decimalValue_toDigits, Option.bind_eq_bind, Option.bind_some]
    cases integer? (if negative then -n else n) <;> rfl

/-- A digit begins neither a truth value nor a string, and has no sign. -/
theorem readScalar_toDigits :
    readScalar (Nat.toDigits 10 n ++ '\n' :: rest) =
      (integer? n).map fun v => (v, '\n' :: rest) := by
  have line : (Nat.toDigits 10 n).all Char.isDigit :=
    List.all_eq_true.mpr Decimal.isDigit_of_mem_toDigits
  have number := readUnsigned_toDigits n rest false false
  have date := startsDate_digits rest line
  have time := startsTime_digits rest line
  obtain ⟨d, ds, split⟩ := List.exists_cons_of_ne_nil (Nat.toDigits_ne_nil (n := n) (b := 10))
  rw [split, List.all_cons, Bool.and_eq_true] at line
  rw [split, List.cons_append] at number date time ⊢
  have other {c : Char} (h : c.isDigit = false) : d ≠ c := Decimal.ne_of_isDigit line.1 h
  rw [readScalar_cons (other (by decide)) (other (by decide)),
    if_neg (not_or.mpr ⟨other (by decide), other (by decide)⟩), date, time, if_neg (by decide)]
  unfold readNumber
  split
  · rename_i same
    exact absurd (List.cons.inj same).1 (other (by decide))
  · rename_i same
    exact absurd (List.cons.inj same).1 (other (by decide))
  · exact number

theorem readScalar_negative :
    readScalar ('-' :: (Nat.toDigits 10 n ++ '\n' :: rest)) =
      (integer? (-n)).map fun v => (v, '\n' :: rest) := by
  have date (cs : List Char) : startsDate ('-' :: cs) = false := by simp [startsDate]
  have time (cs : List Char) : startsTime ('-' :: cs) = false := by simp [startsTime]
  rw [readScalar_cons (by decide) (by decide), if_neg (by decide), date, time, if_neg (by decide)]
  exact readUnsigned_toDigits n rest true true

/-! ## Both -/

/-- Whether a document can hold the value. -/
def Scalar.IsWritable : Scalar → Prop
  | .integer n => isInteger n
  | .text _ => True

/-- What is written for a value. -/
def Scalar.written : Scalar → String
  | .integer n => toString n
  | .text s => writeString s

theorem Scalar.write_eq_some {v : Scalar} {s : String} :
    v.write = some s ↔ v.IsWritable ∧ s = v.written := by
  cases v with
  | integer n =>
    simp only [write, IsWritable, written, Option.ite_none_right_eq_some, Option.some.injEq]
    exact and_congr_right fun _ => eq_comm
  | text t => exact (Option.some.injEq ..).to_iff.trans (eq_comm.trans (true_and _).symm.to_iff)

/-- A written value is read as it was. -/
theorem readScalar_written {v : Scalar} (writable : v.IsWritable) :
    readScalar (v.written.toList ++ '\n' :: rest) = some (v.toValue, '\n' :: rest) := by
  cases v with
  | text s => exact readScalar_writeString s (by rintro c ⟨⟩; decide)
  | integer n =>
    have fits : integer? n = some (.integer n) := if_pos writable
    rw [Scalar.written, Int.toString_eq_repr, Int.repr_eq_if]
    split
    · rename_i positive
      rw [Nat.toList_repr, readScalar_toDigits, Int.toNat_of_nonneg positive, fits]
      rfl
    · rename_i negative
      have same : -((-n).toNat : Int) = n := by omega
      rw [String.toList_append, Nat.toList_repr]
      refine readScalar_negative.trans ?_
      rw [same, fits]
      rfl

end ChannelRelay.Document
