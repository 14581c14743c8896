/-!
# Configuration documents

The values a TOML document can hold. A document is a table of its entries, by key; no
key occurs twice in a table. Numbers with a fraction and points in time are kept as
they are written, for no setting takes one.

This module and the others on documents stand for the TOML library that configuration
files are read and written with. They follow the format, and what that library accepts
of it. What is shown of configurations does not depend on all of this, but on three laws:

* what was written is read as it was: `read_text`;
* a document is written unless it has an integer beyond 64 bits, with a sign:
  `write_eq_some`, and `isWritable_integer` for the numbers of a configuration;
* the empty text is a document without entries.
-/

namespace ChannelRelay.Document

inductive Value where
  | text (s : String)
  | integer (n : Int)
  | float (written : String)
  | boolean (b : Bool)
  | moment (written : String)
  | array (items : List Value)
  | table (entries : List (String × Value))

/-- Entries of a table, by key. -/
abbrev Entries (α : Type) := List (String × α)

/-- The entries with `a` for `key`, in the place of an earlier one or at the end. -/
def Entries.put {α : Type} (key : String) (a : α) : Entries α → Entries α
  | [] => [(key, a)]
  | e :: rest => if e.1 = key then (key, a) :: rest else e :: put key a rest

/-- How many arrays and inline tables may lie one within the other, and how many segments
a key may have. -/
def nestingLimit : Nat := 127

/-- The integers a document can hold: those of 64 bits, with a sign. -/
def isInteger (n : Int) : Bool := -9223372036854775808 ≤ n && n ≤ 9223372036854775807

end ChannelRelay.Document
