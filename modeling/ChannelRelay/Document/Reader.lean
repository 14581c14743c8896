import ChannelRelay.Document.Scalar
import ChannelRelay.Document.Tables

/-!
# Reading a document

A document is read expression by expression: a comment, a header, or a key with its
value. Whatever does not follow the grammar, any table or key defined against the rules
of `Entries`, and anything beyond `nestingLimit` makes the whole text unreadable.

`read` stands for the reading half of the TOML library. Configurations need one law of
it: it reads what `Document.write` has written, as `read_text` states.
-/

namespace ChannelRelay.Document

/-- The text after a comment, whose `#` has been read. -/
def skipComment (cs : List Char) : List Char := cs.dropWhile isPlain

/-- The text after spaces and a comment. -/
def skipRemark (cs : List Char) : List Char :=
  match skipSpaces cs with
  | '#' :: rest => skipComment rest
  | rest => rest

/-- The text after the rest of a line that holds nothing more. -/
def endLine? (cs : List Char) : Option (List Char) :=
  match skipRemark cs with
  | [] => some []
  | rest => lineBreak? rest

/-- The text after spaces, line breaks and comments, of which one may have begun. -/
def skipLines (inComment : Bool) : List Char → List Char
  | '\r' :: '\n' :: rest => skipLines false rest
  | c :: rest =>
    if c = '\n' then skipLines false rest
    else if inComment then if isPlain c then skipLines true rest else c :: rest
    else if isSpace c then skipLines false rest
    else if c = '#' then skipLines true rest
    else c :: rest
  | [] => []

/-! ## Keys -/

def isBareKeyChar (c : Char) : Bool := c.isAlphanum || c == '-' || c == '_'

/-- Reads one segment of a key. -/
def readSegment : Reader String := fun cs =>
  match cs with
  | [] => none
  | c :: _ =>
    if c = quote ∨ c = apostrophe then
      readQuoted cs
    else if isBareKeyChar c then
      some (String.ofList (cs.takeWhile isBareKeyChar), cs.dropWhile isBareKeyChar)
    else none

/-- Reads up to `n` segments of a key, with spaces around each. -/
def readSegments (n : Nat) (cs : List Char) : Option (List String × List Char) :=
  match n with
  | 0 => none
  | n + 1 => do
    let (segment, rest) ← readSegment (skipSpaces cs)
    match skipSpaces rest with
    | '.' :: rest => do
      let (segments, rest) ← readSegments n rest
      return (segment :: segments, rest)
    | rest => return ([segment], rest)

def readKey : Reader (List String) := readSegments nestingLimit

/-! ## Values -/

mutual

/-- Reads a value in which `room` arrays and inline tables may lie one within the other. -/
def readValue (fuel room : Nat) (cs : List Char) : Option (Value × List Char) :=
  match fuel with
  | 0 => none
  | fuel + 1 =>
    match cs with
    | '[' :: rest => if room = 0 then none else readItems fuel (room - 1) [] rest
    | '\x7b' :: rest =>
      if room = 0 then none
      else
        match skipSpaces rest with
        | '\x7d' :: rest => some (.table [], rest)
        | rest => readPairs fuel (room - 1) [] rest
    | _ => readScalar cs

/-- Reads the items of an array after those in `items`, last one first, up to its bracket. -/
def readItems (fuel room : Nat) (items : List Value) (cs : List Char) :
    Option (Value × List Char) :=
  match fuel with
  | 0 => none
  | fuel + 1 =>
    match skipLines false cs with
    | ']' :: rest => some (.array items.reverse, rest)
    | rest => do
      let (item, rest) ← readValue fuel room rest
      match skipLines false rest with
      | ',' :: rest => readItems fuel room (item :: items) rest
      | ']' :: rest => return (.array (item :: items).reverse, rest)
      | _ => none

/-- Reads the pairs of an inline table after `entries`, up to its brace. -/
def readPairs (fuel room : Nat) (entries : Entries Value) (cs : List Char) :
    Option (Value × List Char) :=
  match fuel with
  | 0 => none
  | fuel + 1 => do
    let (key, rest) ← readKey cs
    let (v, rest) ← readValue fuel room (skipSpaces (← expect '=' rest))
    let entries ← entries.assignInline v key
    match skipSpaces rest with
    | ',' :: rest => readPairs fuel room entries rest
    | '\x7d' :: rest => return (.table entries, rest)
    | _ => none

end

/-! ## Expressions -/

/-- A document read so far: its entries, and the table that keys now belong to. -/
structure Draft where
  entries : Entries Node
  current : List String

/-- Reads a header, whose first bracket has been read. -/
def readHeader (d : Draft) (cs : List Char) : Option (Draft × List Char) :=
  match cs with
  | '[' :: rest => do
    let (key, rest) ← readKey rest
    let rest ← expect ']' (← expect ']' rest)
    return (⟨← d.entries.append key, key⟩, ← endLine? rest)
  | _ => do
    let (key, rest) ← readKey cs
    let rest ← expect ']' rest
    return (⟨← d.entries.define key, key⟩, ← endLine? rest)

/-- Reads a key and its value. -/
def readPair (fuel : Nat) (d : Draft) (cs : List Char) : Option (Draft × List Char) := do
  let (key, rest) ← readKey cs
  let (v, rest) ← readValue fuel nestingLimit (skipSpaces (← expect '=' rest))
  let entries ← d.entries.within (Entries.assign v key) d.current
  return ({ d with entries }, ← endLine? rest)

/-- Reads one expression, with the rest of its line. -/
def readExpression (fuel : Nat) (d : Draft) (cs : List Char) : Option (Draft × List Char) :=
  match cs with
  | '#' :: rest => do return (d, ← endLine? (skipComment rest))
  | '[' :: rest => readHeader d rest
  | '\n' :: _ | '\r' :: _ => do return (d, ← lineBreak? cs)
  | _ => readPair fuel d cs

def readExpressions (fuel : Nat) (d : Draft) (cs : List Char) : Option Draft :=
  match skipSpaces cs with
  | [] => some d
  | c :: rest =>
    match fuel with
    | 0 => none
    | fuel + 1 => do
      let (d, rest) ← readExpression fuel d (c :: rest)
      readExpressions fuel d rest

/-- A byte order mark before the text is no part of it. -/
def dropByteOrderMark : List Char → List Char
  | c :: rest => if c.toNat = 0xFEFF then rest else c :: rest
  | [] => []

/-- The entries of the document that a text is. -/
def read (s : String) : Option (List (String × Value)) := do
  let cs := dropByteOrderMark s.toList
  let d ← readExpressions cs.length ⟨[], []⟩ cs
  return Node.entryValues d.entries

end ChannelRelay.Document
