import ChannelRelay.Document.Value
import ChannelRelay.Text.Decimal

/-!
# Strings, numbers and points in time in a document

Each reader takes the text that is left and returns what it read with the text after
it, or nothing if the text does not start with what it reads. These are the values of the
TOML library; configurations only need that what `Scalar.write` writes is read back.
-/

namespace ChannelRelay.Document

/-- Reads an `α` from the front of a text. -/
abbrev Reader (α : Type) := List Char → Option (α × List Char)

def isSpace (c : Char) : Bool := c == ' ' || c == '\t'

def skipSpaces (cs : List Char) : List Char := cs.dropWhile isSpace

/-- The text after a line break, if there is one at its front. -/
def lineBreak? : List Char → Option (List Char)
  | '\n' :: rest => some rest
  | '\r' :: '\n' :: rest => some rest
  | _ => none

/-- Characters that need no escape in comments and strings: all but control characters. -/
def isPlain (c : Char) : Bool := c == '\t' || (0x20 ≤ c.toNat && c.toNat != 0x7F)

/-! ## Strings -/

def quote : Char := '"'

def apostrophe : Char := Char.ofNat 0x27

def backslash : Char := Char.ofNat 0x5C

def hexDigit? (c : Char) : Option Nat :=
  if c.isDigit then some (c.toNat - 48)
  else if 'a' ≤ c ∧ c ≤ 'f' then some (c.toNat - 87)
  else if 'A' ≤ c ∧ c ≤ 'F' then some (c.toNat - 55)
  else none

/-- Reads `n` hexadecimal digits after `value`. -/
def readHex (value : Nat) : Nat → Reader Nat
  | 0, cs => some (value, cs)
  | n + 1, c :: cs => do readHex (value * 16 + (← hexDigit? c)) n cs
  | _ + 1, [] => none

/-- A character by its code point; surrogates are none. -/
def scalar? (n : Nat) : Option Char := if n.isValidChar then some (Char.ofNat n) else none

/-- Reads what follows the backslash of an escape. -/
def readEscape : Reader Char
  | 'b' :: cs => some ('\x08', cs)
  | 't' :: cs => some ('\t', cs)
  | 'n' :: cs => some ('\n', cs)
  | 'f' :: cs => some ('\x0c', cs)
  | 'r' :: cs => some ('\r', cs)
  | 'u' :: cs => do
    let (n, rest) ← readHex 0 4 cs
    return (← scalar? n, rest)
  | 'U' :: cs => do
    let (n, rest) ← readHex 0 8 cs
    return (← scalar? n, rest)
  | c :: cs => if c = quote ∨ c = backslash then some (c, cs) else none
  | [] => none

/-- The text after spaces and line breaks. -/
def skipGap : List Char → List Char
  | '\r' :: '\n' :: rest => skipGap rest
  | c :: rest => if isSpace c || c == '\n' then skipGap rest else c :: rest
  | [] => []

/-- The text after a gap that contains a line break, if that is at its front. -/
def skipBroken? (cs : List Char) : Option (List Char) :=
  (lineBreak? (skipSpaces cs)).map skipGap

/-- Reads a string up to its closing quote, after the characters `read`, last one first. -/
def readBasic (fuel : Nat) (read : List Char) (cs : List Char) : Option (String × List Char) :=
  match fuel, cs with
  | fuel + 1, c :: rest =>
    if c = quote then
      some (String.ofList read.reverse, rest)
    else if c = backslash then do
      let (e, rest) ← readEscape rest
      readBasic fuel (e :: read) rest
    else if isPlain c then
      readBasic fuel (c :: read) rest
    else none
  | _, _ => none

/-- Reads a string without escapes up to its closing apostrophe. -/
def readLiteral : Reader String := fun cs =>
  let inner := cs.takeWhile fun c => isPlain c && c != apostrophe
  match cs.drop inner.length with
  | c :: rest => if c = apostrophe then some (String.ofList inner, rest) else none
  | [] => none

/-- How many times `mark` stands at the front of the text. -/
def runLength (mark : Char) (cs : List Char) : Nat := (cs.takeWhile (· == mark)).length

/-- Reads a string of several lines up to three closing marks; up to two more marks before
them belong to the string. With `escapes`, a backslash escapes the next character, or
joins two lines. -/
def readMultiline (mark : Char) (escapes : Bool) (fuel : Nat) (read : List Char)
    (cs : List Char) : Option (String × List Char) :=
  match fuel, cs with
  | fuel + 1, c :: rest =>
    if c = mark then
      let marks := min (runLength mark cs) 5
      if 3 ≤ marks then
        some (String.ofList (read.reverse ++ List.replicate (marks - 3) mark), cs.drop marks)
      else
        readMultiline mark escapes fuel (c :: read) rest
    else if escapes && c = backslash then
      match skipBroken? rest with
      | some rest => readMultiline mark escapes fuel read rest
      | none => do
        let (e, rest) ← readEscape rest
        readMultiline mark escapes fuel (e :: read) rest
    else
      match lineBreak? cs with
      | some rest => readMultiline mark escapes fuel ('\n' :: read) rest
      | none => if isPlain c then readMultiline mark escapes fuel (c :: read) rest else none
  | _, _ => none

/-- A line break right after the opening marks is not part of the string. -/
def dropFirstBreak (cs : List Char) : List Char := (lineBreak? cs).getD cs

/-- Reads a string of one line, with its marks. -/
def readQuoted : Reader String
  | c :: cs =>
    if c = quote then readBasic (cs.length + 1) [] cs
    else if c = apostrophe then readLiteral cs
    else none
  | [] => none

/-- Reads a string of any form. -/
def readString : Reader String := fun cs =>
  match cs with
  | c :: _ =>
    if (c = quote ∨ c = apostrophe) ∧ 3 ≤ runLength c cs then
      let body := dropFirstBreak (cs.drop 3)
      readMultiline c (c == quote) (body.length + 1) [] body
    else
      readQuoted cs
  | [] => none

/-! ## Numbers -/

/-- Reads the digits of a number after its first one: single underscores may stand between
digits. -/
def readMoreDigits (isDigit : Char → Bool) (read : List Char) : Reader (List Char)
  | '_' :: c :: cs => if isDigit c then readMoreDigits isDigit (c :: read) cs else none
  | ['_'] => none
  | c :: cs =>
    if isDigit c then readMoreDigits isDigit (c :: read) cs else some (read.reverse, c :: cs)
  | [] => some (read.reverse, [])

/-- Reads one or more digits. -/
def readDigits (isDigit : Char → Bool) : Reader (List Char)
  | c :: cs => if isDigit c then readMoreDigits isDigit [c] cs else none
  | [] => none

/-- Reads a decimal number without sign. After a leading zero there is no further digit. -/
def readDecimal : Reader (List Char)
  | '0' :: cs => some (['0'], cs)
  | cs => readDigits Char.isDigit cs

/-- The value of digits, each valued by `digit`. -/
def digitsValue (base : Nat) (digit : Char → Nat) (cs : List Char) : Nat :=
  cs.foldl (fun n c => n * base + digit c) 0

def decimalValue (cs : List Char) : Nat := digitsValue 10 (fun c => c.toNat - 48) cs

/-- The integer value `n`, if a document can hold it. -/
def integer? (n : Int) : Option Value := if isInteger n then some (.integer n) else none

/-- Reads the digits of an integer in another base. -/
def readBased (base : Nat) : Reader Value := fun cs => do
  let isDigit := fun c => (hexDigit? c).any (· < base)
  let (digits, rest) ← readDigits isDigit cs
  return (← integer? (digitsValue base (fun c => (hexDigit? c).getD 0) digits), rest)

/-- Reads the exponent of a number. -/
def readExponent : Reader Int := fun cs => do
  let (negative, cs) := match cs with
    | '-' :: rest => (true, rest)
    | '+' :: rest => (false, rest)
    | _ => (false, cs)
  let (digits, rest) ← readDigits Char.isDigit cs
  let n : Int := decimalValue digits
  return (if negative then -n else n, rest)

/-- Whether `m * 10 ^ e` is too large for a double: it rounds to `2 ^ 1024` or more. -/
def overflowsDouble (m : Nat) (e : Int) : Bool :=
  let digits : Int := (Nat.toDigits 10 m).length
  let limit := Nat.pow 2 1024 - Nat.pow 2 970
  if m = 0 then false
  else if 310 < digits + e then true
  else if digits + e < 308 then false
  else limit * Nat.pow 10 (-e).toNat ≤ m * Nat.pow 10 e.toNat

/-- Reads what makes a number with the whole part `whole` a float. -/
def readFloatRest (negative : Bool) (whole : List Char) (cs : List Char) :
    Option (Value × List Char) := do
  let (decimals, cs) ← match cs with
    | '.' :: rest => readDigits Char.isDigit rest
    | _ => some ([], cs)
  let (exponent, rest) ← match cs with
    | c :: rest => if c = 'e' ∨ c = 'E' then readExponent rest else some (0, c :: rest)
    | [] => some (0, [])
  let mantissa := decimalValue (whole ++ decimals)
  let exponent := exponent - decimals.length
  if !negative && overflowsDouble mantissa exponent then
    none
  else
    let sign := if negative then "-" else ""
    return (.float (sign ++ mantissa.repr ++ "e" ++ toString exponent), rest)

/-- Reads a number after its sign, of which `signed` tells whether there was one. -/
def readUnsigned (signed negative : Bool) : Reader Value
  | 'i' :: 'n' :: 'f' :: rest => some (.float (if negative then "-inf" else "inf"), rest)
  | 'n' :: 'a' :: 'n' :: rest => some (.float "nan", rest)
  | '0' :: 'x' :: rest => if signed then none else readBased 16 rest
  | '0' :: 'o' :: rest => if signed then none else readBased 8 rest
  | '0' :: 'b' :: rest => if signed then none else readBased 2 rest
  | cs => do
    let (whole, rest) ← readDecimal cs
    if rest.head?.any fun c => c = '.' ∨ c = 'e' ∨ c = 'E' then
      readFloatRest negative whole rest
    else
      let n : Int := decimalValue whole
      return (← integer? (if negative then -n else n), rest)

def readNumber : Reader Value
  | '+' :: cs => readUnsigned true false cs
  | '-' :: cs => readUnsigned true true cs
  | cs => readUnsigned false false cs

/-! ## Points in time -/

/-- Reads a number of exactly `n` digits between `low` and `high`. -/
def readField (n low high : Nat) : Reader Nat := fun cs =>
  let digits := cs.take n
  let value := decimalValue digits
  if digits.length = n ∧ digits.all Char.isDigit ∧ low ≤ value ∧ value ≤ high then
    some (value, cs.drop n)
  else none

def expect (c : Char) : List Char → Option (List Char)
  | d :: rest => if d = c then some rest else none
  | [] => none

/-- The text after a date. Every month has up to 31 days. -/
def skipDate (cs : List Char) : Option (List Char) := do
  let (_, cs) ← readField 4 0 9999 cs
  let (_, cs) ← readField 2 1 12 (← expect '-' cs)
  let (_, cs) ← readField 2 1 31 (← expect '-' cs)
  return cs

/-- The text after a time of day. A minute has up to 61 seconds. -/
def skipTime (cs : List Char) : Option (List Char) := do
  let (_, cs) ← readField 2 0 23 cs
  let (_, cs) ← readField 2 0 59 (← expect ':' cs)
  let (_, cs) ← readField 2 0 60 (← expect ':' cs)
  match cs with
  | '.' :: rest =>
    if rest.head?.any Char.isDigit then return rest.dropWhile Char.isDigit else none
  | _ => return cs

/-- The text after the offset from universal time, if there is one. -/
def skipOffset (cs : List Char) : Option (List Char) :=
  match cs with
  | 'Z' :: rest | 'z' :: rest => some rest
  | '+' :: rest | '-' :: rest => do
    let (_, rest) ← readField 2 0 23 rest
    let (_, rest) ← readField 2 0 59 (← expect ':' rest)
    return rest
  | _ => some cs

/-- Whether a time of day may start here: two digits and a colon. -/
def startsTime (cs : List Char) : Bool :=
  (cs.take 2).length = 2 && (cs.take 2).all Char.isDigit && (cs.drop 2).head? == some ':'

/-- Whether a date must follow: four digits and a dash. -/
def startsDate (cs : List Char) : Bool :=
  (cs.take 4).length = 4 && (cs.take 4).all Char.isDigit && (cs.drop 4).head? == some '-'

/-- The text after a date, with a time of day and an offset if they are there. -/
def skipMoment (cs : List Char) : Option (List Char) := do
  let rest ← skipDate cs
  match rest with
  | c :: more =>
    if (c = 'T' ∨ c = 't' ∨ c = ' ') && startsTime more then
      skipOffset (← skipTime more)
    else
      return rest
  | [] => return rest

/-- Reads a date, a time of day or both. -/
def readMoment : Reader Value := fun cs => do
  let rest ← if startsDate cs then skipMoment cs else skipTime cs
  return (.moment (String.ofList (cs.take (cs.length - rest.length))), rest)

/-- Reads a value that is neither array nor table. -/
def readScalar : Reader Value
  | 't' :: 'r' :: 'u' :: 'e' :: rest => some (.boolean true, rest)
  | 'f' :: 'a' :: 'l' :: 's' :: 'e' :: rest => some (.boolean false, rest)
  | c :: cs =>
    if c = quote ∨ c = apostrophe then
      (readString (c :: cs)).map fun (s, rest) => (.text s, rest)
    else if startsDate (c :: cs) || startsTime (c :: cs) then
      readMoment (c :: cs)
    else
      readNumber (c :: cs)
  | [] => none

end ChannelRelay.Document
