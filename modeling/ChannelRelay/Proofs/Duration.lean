import ChannelRelay.Duration.Text
import ChannelRelay.Proofs.Digits

/-!
# Written durations

A duration is read as it was written, to the nanosecond.

* `Part`: a count and a unit, as they are written one after the other;
* `Fits`, `AllFit`: while parts are added up, no sum leaves the range of a duration, and
  nanoseconds never fill up a second;
* `readAmounts_textOf`: parts that fit are read one by one, and added up;
* `allFit_allParts`: the parts of a duration fit;
* `parse_text`: a written duration is read as it was.
-/

namespace ChannelRelay

namespace TimeUnit

/-- A letter of a unit ends the number before it. -/
theorem of_isLetter {c : Char} (h : TimeUnit.isLetter c) :
    c.isDigit = false ∧ Text.isBlank c = false ∧ c ≠ '.' := by
  have alpha : c.isAlpha = (decide (65 ≤ c.val ∧ c.val ≤ 90) ||
      (decide (97 ≤ c.val) && decide (c.val ≤ 122))) := rfl
  have bounds : ((65 ≤ c.toNat ∧ c.toNat ≤ 90) ∨ (97 ≤ c.toNat ∧ c.toNat ≤ 122)) ∨ c = 'µ' := by
    simpa [TimeUnit.isLetter, alpha, UInt32.le_iff_toNat_le] using h
  obtain bounds | rfl := bounds
  · refine ⟨?_, ?_, ?_⟩
    · have outside : ¬ (48 ≤ c.toNat ∧ c.toNat ≤ 57) := by omega
      simpa [Char.isDigit, UInt32.le_iff_toNat_le] using outside
    · simp only [Text.isBlank, Bool.or_eq_false_iff, Bool.and_eq_false_iff,
        decide_eq_false_iff_not, beq_eq_false_iff_ne]
      omega
    · rintro rfl
      revert bounds
      decide
  · decide

theorem nanos_of_seconds {unit : TimeUnit} {seconds : Nat} (h : unit.seconds? = some seconds) :
    unit.nanos = seconds * nanosPerSecond := by
  cases unit <;> cases h <;> rfl

theorem pos_of_seconds {unit : TimeUnit} {seconds : Nat} (h : unit.seconds? = some seconds) :
    0 < seconds := by
  cases unit <;> cases h <;> decide

theorem nanos_pos (unit : TimeUnit) : 0 < unit.nanos := by
  cases unit <;> decide

/-- The name of a unit after the number `n`. -/
def written (unit : TimeUnit) (n : Nat) : String :=
  let plural (name : String) := if 1 < n then name ++ "s" else name
  match unit with
  | nanosecond => "ns"
  | microsecond => "us"
  | millisecond => "ms"
  | second => "s"
  | minute => "m"
  | hour => "h"
  | day => plural "day"
  | week => plural "week"
  | month => plural "month"
  | year => plural "year"

theorem ofName?_written (unit : TimeUnit) (n : Nat) : ofName? (unit.written n) = some unit := by
  by_cases many : 1 < n <;> cases unit <;> simp only [written, many, if_true, if_false] <;> rfl

theorem isLetter_written (unit : TimeUnit) (n : Nat) :
    ∀ c ∈ (unit.written n).toList, isLetter c := by
  rw [← List.all_eq_true]
  by_cases many : 1 < n <;> cases unit <;> simp only [written, many, if_true, if_false] <;> rfl

end TimeUnit

namespace Duration

variable {c : Char} {ds rest : List Char} {n v : Nat}

/-! ## Amounts -/

theorem readWhole_digits (all : ∀ c ∈ ds, c.isDigit)
    (fits : Nat.ofDigitChars 10 ds v < UInt64.size) (rest : List Char) :
    readWhole v (ds ++ rest) = readWhole (Nat.ofDigitChars 10 ds v) rest := by
  induction ds generalizing v with
  | nil => rfl
  | cons c ds ih =>
    obtain ⟨here, later⟩ := List.forall_mem_cons.mp all
    rw [Nat.ofDigitChars_cons, Nat.mul_comm] at fits ⊢
    have bound : v * 10 + (c.toNat - 48) < UInt64.size :=
      Nat.lt_of_le_of_lt Decimal.le_ofDigitChars fits
    rw [List.cons_append, readWhole, Decimal.digit?_of_isDigit here]
    exact (if_pos bound).trans (ih later fits)

theorem readWhole_letter (letter : TimeUnit.isLetter c) :
    readWhole v (c :: rest) = some (v, c :: rest) := by
  obtain ⟨noDigit, noBlank, _⟩ := TimeUnit.of_isLetter letter
  rw [readWhole, Decimal.digit?_of_not_isDigit noDigit, noBlank]
  rfl

theorem readFraction?_letter (letter : TimeUnit.isLetter c) :
    readFraction? (c :: rest) = some (none, c :: rest) := by
  obtain ⟨_, _, noPoint⟩ := TimeUnit.of_isLetter letter
  unfold readFraction?
  split
  · rename_i same
    exact absurd (List.cons.inj same).1 noPoint
  · rfl

/-- A part of a written duration. -/
structure Part where
  count : Nat
  unit : TimeUnit

namespace Part

def name (p : Part) : String := p.unit.written p.count

def text (p : Part) : String := p.count.repr ++ p.name

def nanos (p : Part) : Nat := p.count * p.unit.nanos

theorem named (p : Part) : TimeUnit.ofName? p.name = some p.unit := TimeUnit.ofName?_written ..

theorem letters (p : Part) : ∀ c ∈ p.name.toList, TimeUnit.isLetter c :=
  TimeUnit.isLetter_written p.unit p.count

theorem name_ne_nil (p : Part) : p.name.toList ≠ [] := by
  intro empty
  have named := p.named
  rw [String.toList_eq_nil_iff.mp empty] at named
  cases named

end Part

/-- What is written after a part does not go on with its unit. -/
def Separate (rest : List Char) : Prop := ∀ c ∈ rest.head?, TimeUnit.isLetter c = false

theorem readAmount_part (p : Part) (rest : List Char) (fits : p.count < UInt64.size)
    (separate : Separate rest) :
    readAmount (p.text.toList ++ rest) = some (⟨p.count, none, p.unit⟩, rest) := by
  have stops : rest.takeWhile TimeUnit.isLetter = [] ∧ rest.dropWhile TimeUnit.isLetter = rest := by
    cases rest with
    | nil => exact ⟨rfl, rfl⟩
    | cons c more => simp [separate c rfl]
  obtain ⟨c, letters, name⟩ := List.exists_cons_of_ne_nil p.name_ne_nil
  have first : TimeUnit.isLetter c := p.letters c (name ▸ List.mem_cons_self)
  have whole : readWhole 0 (p.text.toList ++ rest) = some (p.count, p.name.toList ++ rest) := by
    rw [Part.text, String.toList_append, Nat.toList_repr, List.append_assoc,
      readWhole_digits Decimal.isDigit_of_mem_toDigits (by simpa using fits),
      Nat.ofDigitChars_ten_toDigits, name]
    exact readWhole_letter first
  have fraction : readFraction? (p.name.toList ++ rest) = some (none, p.name.toList ++ rest) := by
    rw [name]
    exact readFraction?_letter first
  simp only [readAmount, whole, fraction, Option.bind_eq_bind, Option.bind_some,
    List.takeWhile_append_of_pos p.letters, List.dropWhile_append_of_pos p.letters, stops,
    List.append_nil, String.ofList_toList, p.named]
  rfl

/-! ## Sums -/

/-- There is room for a part after `total`: in the duration, and in the second that has begun
if the part is one of nanoseconds. -/
structure Fits (total : Nat) (p : Part) : Prop where
  room : total + p.nanos < UInt64.size * nanosPerSecond
  second : p.unit.seconds? = none → total % nanosPerSecond + p.nanos < nanosPerSecond

theorem Fits.of_seconds {total seconds : Nat} {p : Part} (fits : Fits total p)
    (unit : p.unit.seconds? = some seconds) :
    p.nanos = p.count * seconds * nanosPerSecond ∧ p.count * seconds < UInt64.size := by
  have same : p.nanos = p.count * seconds * nanosPerSecond := by
    rw [Part.nanos, TimeUnit.nanos_of_seconds unit, Nat.mul_assoc]
  refine ⟨same, Nat.lt_of_mul_lt_mul_right (a := nanosPerSecond) ?_⟩
  rw [← same]
  exact Nat.lt_of_le_of_lt (Nat.le_add_left ..) fits.room

theorem Fits.of_nanos {total : Nat} {p : Part} (fits : Fits total p)
    (unit : p.unit.seconds? = none) : p.nanos < UInt64.size := by
  have second := fits.second unit
  have : nanosPerSecond < UInt64.size := by decide
  omega

theorem Fits.count {total : Nat} {p : Part} (fits : Fits total p) : p.count < UInt64.size := by
  cases unit : p.unit.seconds? with
  | some seconds =>
    have positive : 0 < seconds := TimeUnit.pos_of_seconds unit
    exact Nat.lt_of_le_of_lt (Nat.le_mul_of_pos_right _ positive) (fits.of_seconds unit).2
  | none =>
    exact Nat.lt_of_le_of_lt (Nat.le_mul_of_pos_right _ p.unit.nanos_pos) (fits.of_nanos unit)

theorem word?_of_lt (h : n < UInt64.size) : word? n = some n := if_pos h

theorem ofNanos?_of_lt (h : n < UInt64.size * nanosPerSecond) : ofNanos? n = some ⟨n, h⟩ :=
  dif_pos h

theorem wholePortion_part {total : Duration} {p : Part} (fits : Fits total.nanos p) :
    ∃ portion, wholePortion p.count p.unit = some portion ∧ ∀ inRange,
      total.plusPortion portion = .ok ⟨total.nanos + p.nanos, inRange⟩ := by
  unfold wholePortion
  cases unit : p.unit.seconds? with
  | some seconds =>
    obtain ⟨same, room⟩ := fits.of_seconds unit
    refine ⟨.seconds (p.count * seconds), ?_, fun inRange => ?_⟩
    · simp only [word?_of_lt room, Option.map_some]
    · simp only [plusPortion, ← same, ofNanos?_of_lt inRange]
      rfl
  | none =>
    refine ⟨.nanos p.nanos, ?_, fun inRange => ?_⟩
    · exact congrArg (Option.map Portion.nanos) (word?_of_lt (fits.of_nanos unit))
    · have second : total.subsecond + p.nanos < nanosPerSecond := fits.second unit
      have room : total.subsecond + p.nanos < UInt64.size := Nat.lt_trans second (by decide)
      simp only [plusPortion, word?_of_lt room, ofNanos?_of_lt inRange]
      exact if_neg (Nat.ne_of_lt second)

theorem plus_part {total : Duration} {p : Part} (fits : Fits total.nanos p) :
    total.plus ⟨p.count, none, p.unit⟩ = .ok ⟨total.nanos + p.nanos, fits.room⟩ := by
  obtain ⟨portion, whole, sum⟩ := wholePortion_part fits
  simp only [plus, whole, sum fits.room, Reading.ofOption_some, Reading.ok_bind, Reading.pure_eq]

/-- The nanoseconds of some parts together. -/
def total : List Part → Nat
  | [] => 0
  | p :: rest => p.nanos + total rest

@[simp] theorem total_nil : total [] = 0 := rfl

@[simp] theorem total_cons (p : Part) (ps : List Part) : total (p :: ps) = p.nanos + total ps := rfl

@[simp] theorem total_append (ps qs : List Part) : total (ps ++ qs) = total ps + total qs := by
  induction ps with
  | nil => simp
  | cons p ps ih => simp [ih, Nat.add_assoc]

/-- There is room for each of these parts after those before it. -/
def AllFit (total : Nat) : List Part → Prop
  | [] => True
  | p :: rest => Fits total p ∧ AllFit (total + p.nanos) rest

/-- Parts are written with a space between them. -/
def textOf (ps : List Part) : String := " ".intercalate (ps.map Part.text)

theorem textOf_cons_cons (p q : Part) (rest : List Part) :
    (textOf (p :: q :: rest)).toList = p.text.toList ++ ' ' :: (textOf (q :: rest)).toList := by
  simp [textOf, String.toList_intercalate]

theorem textOf_starts (p : Part) (rest : List Part) :
    ∃ c more, (textOf (p :: rest)).toList = c :: more ∧ c.isDigit := by
  obtain ⟨c, more, digits⟩ :=
    List.exists_cons_of_ne_nil (Nat.toDigits_ne_nil (n := p.count) (b := 10))
  have digit : c.isDigit := Decimal.isDigit_of_mem_toDigits c (digits ▸ List.mem_cons_self)
  cases rest with
  | nil => exact ⟨c, more ++ p.name.toList, by simp [textOf, Part.text, digits], digit⟩
  | cons q rest =>
    exact ⟨c, more ++ p.name.toList ++ ' ' :: (textOf (q :: rest)).toList,
      by simp [textOf_cons_cons, Part.text, digits], digit⟩

/-- Written parts are read one by one, and added up. -/
theorem readAmounts_textOf {start : Duration} {p : Part} {ps : List Part} {fuel : Nat}
    (fit : AllFit start.nanos (p :: ps)) (enough : ps.length < fuel) :
    ∃ sum, readAmounts fuel start (textOf (p :: ps)).toList = .ok sum ∧
      sum.nanos = start.nanos + total (p :: ps) := by
  induction ps generalizing start p fuel with
  | nil =>
    obtain ⟨fuel, rfl⟩ : ∃ n, fuel = n + 1 := ⟨fuel - 1, by simp at enough; omega⟩
    obtain ⟨fits, _⟩ := fit
    refine ⟨⟨start.nanos + p.nanos, fits.room⟩, ?_, by simp⟩
    have amount := readAmount_part p [] fits.count nofun
    rw [List.append_nil] at amount
    have text : (textOf [p]).toList = p.text.toList := by simp [textOf]
    simp [readAmounts, text, amount, plus_part fits, endsUnit]
  | cons q ps ih =>
    obtain ⟨fuel, rfl⟩ : ∃ n, fuel = n + 1 := ⟨fuel - 1, by simp at enough; omega⟩
    obtain ⟨fits, later⟩ := fit
    have next : AllFit (⟨start.nanos + p.nanos, fits.room⟩ : Duration).nanos (q :: ps) := later
    obtain ⟨sum, read, same⟩ := ih next (show ps.length < fuel by simpa using enough)
    refine ⟨sum, ?_, by simp [same]; omega⟩
    obtain ⟨c, more, starts, digit⟩ := textOf_starts q ps
    have separate : Separate (' ' :: (textOf (q :: ps)).toList) := by
      rintro c ⟨⟩
      decide
    have amount := readAmount_part p _ fits.count separate
    have space : Text.isBlank ' ' = true := by decide
    have blank : Text.isBlank c = false := Decimal.not_isBlank_of_isDigit digit
    rw [textOf_cons_cons]
    rw [starts] at read amount ⊢
    simp [readAmounts, amount, plus_part fits, endsUnit, space, blank, digit, read]

/-! ## All parts of a duration -/

theorem allFit_append {n : Nat} {ps qs : List Part} :
    AllFit n (ps ++ qs) ↔ AllFit n ps ∧ AllFit (n + total ps) qs := by
  induction ps generalizing n with
  | nil => simp [AllFit]
  | cons p ps ih => simp [AllFit, ih, and_assoc, Nat.add_assoc]

theorem allFit_of_seconds {n : Nat} {ps : List Part} (units : ∀ p ∈ ps, p.unit.seconds? ≠ none)
    (room : n + total ps < UInt64.size * nanosPerSecond) : AllFit n ps := by
  induction ps generalizing n with
  | nil => trivial
  | cons p ps ih =>
    rw [total_cons] at room
    obtain ⟨here, later⟩ := List.forall_mem_cons.mp units
    exact ⟨⟨by omega, fun none => absurd none here⟩, ih later (by omega)⟩

theorem allFit_of_subsecond {n : Nat} {ps : List Part}
    (second : n % nanosPerSecond + total ps < nanosPerSecond)
    (room : n + total ps < UInt64.size * nanosPerSecond) : AllFit n ps := by
  induction ps generalizing n with
  | nil => trivial
  | cons p ps ih =>
    rw [total_cons] at second room
    have carried : (n + p.nanos) % nanosPerSecond = n % nanosPerSecond + p.nanos := by
      unfold nanosPerSecond at *
      omega
    exact ⟨⟨by omega, fun _ => by omega⟩, ih (by omega) (by omega)⟩

/-- Parts that are zero make no difference. -/
theorem Part.nanos_of_zero {p : Part} (zero : p.count = 0) : p.nanos = 0 := by
  simp [nanos, zero]

theorem AllFit.filter {n : Nat} {ps : List Part} (fit : AllFit n ps) :
    AllFit n (ps.filter (·.count ≠ 0)) := by
  induction ps generalizing n with
  | nil => trivial
  | cons p ps ih =>
    obtain ⟨here, later⟩ := fit
    by_cases zero : p.count = 0
    · rw [Part.nanos_of_zero zero] at later
      simpa [zero] using ih later
    · simpa [zero, AllFit, here] using ih later

theorem total_filter (ps : List Part) : total (ps.filter (·.count ≠ 0)) = total ps := by
  induction ps with
  | nil => rfl
  | cons p ps ih =>
    by_cases zero : p.count = 0
    · simpa [zero, Part.nanos_of_zero zero] using ih
    · simpa [zero] using ih

theorem flatMap_part (ps : List Part) :
    ps.flatMap (fun p => part p.count p.name) = (ps.filter (·.count ≠ 0)).map Part.text := by
  induction ps with
  | nil => rfl
  | cons p ps ih =>
    by_cases zero : p.count = 0
    · simpa [zero, part] using ih
    · simpa [zero, part, Part.text] using ih

/-- The parts of a second or more. -/
def secondParts (n : Nat) : List Part :=
  [⟨n / 31557600, .year⟩, ⟨n % 31557600 / 2630016, .month⟩,
    ⟨n % 31557600 % 2630016 / 86400, .day⟩, ⟨n % 31557600 % 2630016 % 86400 / 3600, .hour⟩,
    ⟨n % 31557600 % 2630016 % 86400 % 3600 / 60, .minute⟩,
    ⟨n % 31557600 % 2630016 % 86400 % 60, .second⟩]

/-- The parts below a second. -/
def subsecondParts (n : Nat) : List Part :=
  [⟨n / 1000000, .millisecond⟩, ⟨n / 1000 % 1000, .microsecond⟩, ⟨n % 1000, .nanosecond⟩]

/-- The units that a number of seconds is written in make up that number. -/
theorem seconds_split (n : Nat) :
    n / 31557600 * 31557600 + (n % 31557600 / 2630016 * 2630016 +
      (n % 31557600 % 2630016 / 86400 * 86400 +
        (n % 31557600 % 2630016 % 86400 / 3600 * 3600 +
          (n % 31557600 % 2630016 % 86400 % 3600 / 60 * 60 +
            n % 31557600 % 2630016 % 86400 % 60 * 1)))) = n := by
  omega

theorem total_secondParts (n : Nat) : total (secondParts n) = n * nanosPerSecond := by
  have units : TimeUnit.year.nanos = 31557600 * nanosPerSecond ∧
      TimeUnit.month.nanos = 2630016 * nanosPerSecond ∧
      TimeUnit.day.nanos = 86400 * nanosPerSecond ∧ TimeUnit.hour.nanos = 3600 * nanosPerSecond ∧
      TimeUnit.minute.nanos = 60 * nanosPerSecond ∧
      TimeUnit.second.nanos = 1 * nanosPerSecond := ⟨rfl, rfl, rfl, rfl, rfl, rfl⟩
  simp only [secondParts, total_cons, total_nil, Part.nanos, units, ← Nat.mul_assoc,
    ← Nat.add_mul, Nat.add_zero]
  rw [seconds_split]

theorem total_subsecondParts (n : Nat) : total (subsecondParts n) = n := by
  simp only [subsecondParts, total_cons, total_nil, Part.nanos, TimeUnit.nanos]
  omega

/-- All parts of a duration, also those that are zero. -/
def allParts (d : Duration) : List Part := secondParts d.seconds ++ subsecondParts d.subsecond

theorem total_allParts (d : Duration) : total d.allParts = d.nanos := by
  rw [allParts, total_append, total_secondParts, total_subsecondParts]
  exact Nat.div_add_mod' ..

theorem parts_eq (d : Duration) : d.parts = (d.allParts.filter (·.count ≠ 0)).map Part.text := by
  rw [← flatMap_part]
  simp [parts, allParts, secondParts, subsecondParts, pluralPart, Part.name, TimeUnit.written]

theorem allFit_allParts (d : Duration) : AllFit 0 d.allParts := by
  have all := d.total_allParts
  rw [allParts, total_append] at all
  have room := d.inRange
  refine allFit_append.mpr ⟨allFit_of_seconds (by simp [secondParts, TimeUnit.seconds?]) ?_,
    allFit_of_subsecond ?_ ?_⟩
  · omega
  · rw [total_secondParts, total_subsecondParts, Nat.zero_add, Nat.mul_mod_left, Nat.zero_add]
    exact Nat.mod_lt _ (by decide)
  · omega

theorem length_lt_textOf (p : Part) (ps : List Part) :
    ps.length + 1 < (textOf (p :: ps)).toList.length := by
  have two (p : Part) : 1 < p.text.toList.length := by
    have digits := List.length_pos_iff.mpr (Nat.toDigits_ne_nil (n := p.count) (b := 10))
    have name := List.length_pos_iff.mpr p.name_ne_nil
    simp only [Part.text, String.toList_append, Nat.toList_repr, List.length_append]
    omega
  induction ps generalizing p with
  | nil => simpa [textOf] using two p
  | cons q ps ih =>
    have later := ih q
    rw [textOf_cons_cons]
    simp only [List.length_append, List.length_cons] at later ⊢
    omega

theorem eq_of_nanos {a b : Duration} (same : a.nanos = b.nanos) : a = b := by
  cases a
  cases b
  cases same
  rfl

theorem parse_textOf {p : Part} {ps : List Part} (fit : AllFit 0 (p :: ps)) :
    ∃ d, parse (textOf (p :: ps)) = .ok d ∧ d.nanos = total (p :: ps) := by
  obtain ⟨c, more, starts, digit⟩ := textOf_starts p ps
  have long := length_lt_textOf p ps
  have notZero : (textOf (p :: ps) == "0") = false := by
    rw [beq_eq_false_iff_ne]
    intro same
    rw [same] at long
    simp at long
  rw [starts] at long
  have enough : ps.length < more.length + 1 := by simpa using Nat.lt_of_succ_lt long
  obtain ⟨d, read, sum⟩ := readAmounts_textOf (show AllFit Duration.zero.nanos _ from fit) enough
  refine ⟨d, ?_, sum.trans (Nat.zero_add _)⟩
  rw [starts] at read
  simp [parse, notZero, starts, Decimal.not_isBlank_of_isDigit digit, digit, read]

/-- A written duration is read as it was. -/
theorem parse_text (d : Duration) : parse d.text = .ok d := by
  have fit := d.allFit_allParts.filter
  have sum := (total_filter d.allParts).trans d.total_allParts
  unfold text
  rw [parts_eq]
  cases written : d.allParts.filter (·.count ≠ 0) with
  | nil =>
    rw [written] at sum
    cases d
    cases sum
    rfl
  | cons p ps =>
    rw [written] at fit sum
    obtain ⟨found, read, same⟩ := parse_textOf fit
    rw [← eq_of_nanos (same.trans sum), ← read]
    rfl

end Duration

end ChannelRelay
