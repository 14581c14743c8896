import ChannelRelay.Document.Scalar

/-!
# Writing a document

A document of sections, each with a header and one line per entry, and an empty line
between two sections. Integers that a document cannot hold make it unwritable.

`write` stands for the writing half of the TOML library, for documents of this form.
Configurations need two laws of it: `write_eq_some`, which says when it fails, for numbers
as `isWritable_integer` has it, and `read_text`, that it is undone by `read`.
-/

namespace ChannelRelay.Document

/-- The values that an entry of a section can be written with. -/
inductive Scalar where
  | integer (n : Int)
  | text (s : String)
  deriving DecidableEq, Repr

def Scalar.toValue : Scalar → Value
  | integer n => .integer n
  | text s => .text s

structure Section where
  name : String
  entries : List (String × Scalar)
  deriving DecidableEq, Repr

/-- Hexadecimal digits of `n`, at least four. -/
def fourHexDigits (n : Nat) : List Char :=
  let digits := Nat.toDigits 16 n
  List.replicate (4 - digits.length) '0' ++ digits

/-- A character as it stands in a string. -/
def writeChar (c : Char) : List Char :=
  if c = quote ∨ c = backslash then [backslash, c]
  else if isPlain c then [c]
  else backslash :: 'u' :: fourHexDigits c.toNat

def writeString (s : String) : String :=
  String.ofList (quote :: s.toList.flatMap writeChar ++ [quote])

def Scalar.write : Scalar → Option String
  | integer n => if isInteger n then some (toString n) else none
  | text s => some (writeString s)

def writeEntry (e : String × Scalar) : Option String := do
  return e.1 ++ " = " ++ (← e.2.write) ++ "\n"

def Section.write (sec : Section) : Option String := do
  return "[" ++ sec.name ++ "]\n" ++ String.join (← sec.entries.mapM writeEntry)

def write (sections : List Section) : Option String := do
  return "\n".intercalate (← sections.mapM Section.write)

end ChannelRelay.Document
