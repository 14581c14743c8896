import ChannelRelay.Duration
import ChannelRelay.Failure
import ChannelRelay.Text.Blank
import ChannelRelay.Text.Decimal

/-!
# Durations as text

A duration is written as its parts, from years to nanoseconds, without the parts that
are zero: `1h 2m 3s`. Read, it is one or more amounts, each a number and a unit, that
are added up in any order; white space may stand anywhere but within a unit. A number
may have decimals, if the amount is one of whole nanoseconds, or of whole seconds for an
hour or more. The bare text `0` is the only number that needs no unit.

Amounts are counted in 64 bits: those of units below a second in nanoseconds, all others
in seconds. What leaves that range is no duration. The one exception is a last second that
nanoseconds fill up exactly: there reading breaks off.

`parse` and `text` stand for the humantime library, in whose form the durations of a
configuration are written. What is shown of configurations needs one law of it: a duration
that was written is read as it was, which is `Duration.parse_text`.
-/

namespace ChannelRelay

/-- The units of an amount. -/
inductive TimeUnit where
  | nanosecond
  | microsecond
  | millisecond
  | second
  | minute
  | hour
  | day
  | week
  | month
  | year
  deriving DecidableEq, Repr

namespace TimeUnit

/-- Whole seconds in a unit, for the units of a second or more. -/
def seconds? : TimeUnit → Option Nat
  | nanosecond | microsecond | millisecond => none
  | second => some 1
  | minute => some 60
  | hour => some 3600
  | day => some 86400
  | week => some 604800
  | month => some 2630016
  | year => some 31557600

/-- Nanoseconds in a unit. -/
def nanos : TimeUnit → Nat
  | nanosecond => 1
  | microsecond => 1000
  | millisecond => 1000000
  | second => 1000000000
  | minute => 60 * 1000000000
  | hour => 3600 * 1000000000
  | day => 86400 * 1000000000
  | week => 604800 * 1000000000
  | month => 2630016 * 1000000000
  | year => 31557600 * 1000000000

def ofName? (name : String) : Option TimeUnit :=
  match name with
  | "nanos" | "nsec" | "ns" => some nanosecond
  | "usec" | "us" | "µs" => some microsecond
  | "millis" | "msec" | "ms" => some millisecond
  | "seconds" | "second" | "secs" | "sec" | "s" => some second
  | "minutes" | "minute" | "min" | "mins" | "m" => some minute
  | "hours" | "hour" | "hrs" | "hr" | "h" => some hour
  | "days" | "day" | "d" => some day
  | "weeks" | "week" | "wks" | "wk" | "w" => some week
  | "months" | "month" | "M" => some month
  | "years" | "year" | "yrs" | "yr" | "y" => some year
  | _ => none

/-- The letters that units are made of. -/
def isLetter (c : Char) : Bool := c.isAlpha || c == 'µ'

end TimeUnit

namespace Duration

/-- The decimals of a number: `numerator / denominator`. -/
structure Decimals where
  numerator : Nat
  denominator : Nat
  deriving DecidableEq, Repr

/-- A number and its unit. -/
structure Amount where
  whole : Nat
  decimals : Option Decimals
  unit : TimeUnit
  deriving DecidableEq, Repr

/-- `n`, if it fits into 64 bits. -/
def word? (n : Nat) : Option Nat := if n < UInt64.size then some n else none

/-- A part of an amount: so many seconds, or so many nanoseconds. -/
inductive Portion where
  | seconds (n : Nat)
  | nanos (n : Nat)
  deriving DecidableEq, Repr

/-- The whole part of an amount. -/
def wholePortion (n : Nat) (unit : TimeUnit) : Option Portion :=
  match unit.seconds? with
  | some seconds => (word? (n * seconds)).map .seconds
  | none => (word? (n * unit.nanos)).map .nanos

/-- The quotient of a division without remainder. -/
def quotient? (n d : Nat) : Option Nat := if n % d = 0 then some (n / d) else none

/-- The decimals of an amount. A nanosecond has none. -/
def decimalPortion (d : Decimals) (unit : TimeUnit) : Option Portion :=
  match unit with
  | .nanosecond => none
  | .microsecond | .millisecond | .second | .minute => do
    return .nanos (← quotient? (← word? (d.numerator * unit.nanos)) d.denominator)
  | .hour | .day | .week | .month | .year => do
    let seconds ← word? (d.numerator * (unit.nanos / nanosPerSecond))
    return .seconds (← quotient? seconds d.denominator)

/-- The sum of a duration and a part of an amount. Nanoseconds are added in 64 bits to the
part below a second. A sum that is too long cannot be read; but where the nanoseconds fill up
exactly one second, it is a precondition that there is room for it. -/
def plusPortion (total : Duration) : Portion → Reading Duration
  | .seconds n => .ofOption (ofNanos? (total.nanos + n * nanosPerSecond))
  | .nanos n => do
    let fraction ← Reading.ofOption (word? (total.subsecond + n))
    if fraction = nanosPerSecond then
      (ofParts total.seconds fraction).mapError .breach
    else
      .ofOption (ofNanos? (total.nanos + n))

def plus (total : Duration) (a : Amount) : Reading Duration := do
  let total ← total.plusPortion (← Reading.ofOption (wholePortion a.whole a.unit))
  match a.decimals with
  | none => return total
  | some d => total.plusPortion (← Reading.ofOption (decimalPortion d a.unit))

/-- Reads the digits of a whole number, whose leading digits have the value `n`, up to the
first character that is neither digit nor blank. -/
def readWhole (n : Nat) : List Char → Option (Nat × List Char)
  | [] => some (n, [])
  | c :: cs =>
    match Decimal.digit? c with
    | some d => if n * 10 + d < UInt64.size then readWhole (n * 10 + d) cs else none
    | none => if Text.isBlank c then readWhole n cs else some (n, c :: cs)

/-- Reads decimals in the same way. -/
def readDecimals (d : Decimals) : List Char → Option (Decimals × List Char)
  | [] => some (d, [])
  | c :: cs =>
    match Decimal.digit? c with
    | some v =>
      if d.denominator * 10 < UInt64.size && d.numerator * 10 + v < UInt64.size then
        readDecimals ⟨d.numerator * 10 + v, d.denominator * 10⟩ cs
      else none
    | none => if Text.isBlank c then readDecimals d cs else some (d, c :: cs)

/-- Reads the point and what follows it, if there is a point. -/
def readFraction? : List Char → Option (Option Decimals × List Char)
  | '.' :: cs => do
    let (d, rest) ← readDecimals ⟨0, 1⟩ cs
    if d.denominator = 1 then none else return (some d, rest)
  | cs => some (none, cs)

/-- Reads one amount, from its first digit to the end of its unit. -/
def readAmount (cs : List Char) : Option (Amount × List Char) := do
  let (whole, rest) ← readWhole 0 cs
  let (decimals, rest) ← readFraction? rest
  let unit ← TimeUnit.ofName? (String.ofList (rest.takeWhile TimeUnit.isLetter))
  return (⟨whole, decimals, unit⟩, rest.dropWhile TimeUnit.isLetter)

/-- Whether a unit may end here: at the end of the text, at a digit or at white space. -/
def endsUnit : List Char → Bool
  | [] => true
  | c :: _ => c.isDigit || Text.isBlank c

/-- Adds up amounts until the text ends. Each starts with a digit, and is added before what
comes after its unit is read. -/
def readAmounts (fuel : Nat) (total : Duration) (cs : List Char) : Reading Duration :=
  match fuel with
  | 0 => throw .unreadable
  | fuel + 1 => do
    let (amount, rest) ← Reading.ofOption (readAmount cs)
    if !endsUnit rest then
      throw .unreadable
    let total ← total.plus amount
    match rest.dropWhile Text.isBlank with
    | [] => return total
    | c :: more =>
      if c.isDigit then readAmounts fuel total (c :: more) else throw .unreadable

def parse (s : String) : Reading Duration :=
  if s == "0" then
    return .zero
  else
    match s.toList.dropWhile Text.isBlank with
    | [] => throw .unreadable
    | c :: cs =>
      if c.isDigit then readAmounts (cs.length + 1) .zero (c :: cs) else throw .unreadable

/-- A part of a written duration, unless it is zero. -/
def part (n : Nat) (unit : String) : List String := if n = 0 then [] else [n.repr ++ unit]

/-- The same, with an `s` after the unit for more than one. -/
def pluralPart (n : Nat) (unit : String) : List String :=
  part n (if 1 < n then unit ++ "s" else unit)

/-- The parts that are not zero, largest first. -/
def parts (d : Duration) : List String :=
  let ofYear := d.seconds % 31557600
  let ofMonth := ofYear % 2630016
  let ofDay := ofMonth % 86400
  pluralPart (d.seconds / 31557600) "year" ++
  pluralPart (ofYear / 2630016) "month" ++
  pluralPart (ofMonth / 86400) "day" ++
  part (ofDay / 3600) "h" ++
  part (ofDay % 3600 / 60) "m" ++
  part (ofDay % 60) "s" ++
  part (d.subsecond / 1000000) "ms" ++
  part (d.subsecond / 1000 % 1000) "us" ++
  part (d.subsecond % 1000) "ns"

def text (d : Duration) : String :=
  match d.parts with
  | [] => "0s"
  | parts => " ".intercalate parts

end Duration

end ChannelRelay
