import ChannelRelay.Document.Value

/-!
# How a document builds its tables

The lines of a document define tables one by one, under rules on what may be defined
twice, which are those of the TOML library. A `Node` remembers how a table came to be,
which is all that the rules look at.

* a header defines a table once, and may define one that so far is only the parent of
  another header's table, which then counts as defined there;
* a dotted key reaches through tables without a header of their own, and into the last
  table of an array, but the table it ends in is one that dotted keys made; within an
  inline table it reaches through all tables;
* a header with double brackets appends a table to an array of such tables;
* no key gets a second value.
-/

namespace ChannelRelay.Document

/-- How a table came to be. -/
inductive Origin where
  /-- As the parent of a table with a header. -/
  | implied
  | header
  | dotted
  deriving DecidableEq, Repr

inductive Node where
  | value (v : Value)
  | table (origin : Origin) (entries : List (String × Node))
  /-- An array of tables, the last one first. -/
  | tables (elements : List (List (String × Node)))

namespace Entries

/-- Defines the table that a header names. -/
def define : List String → Entries Node → Option (Entries Node)
  | [], _ => none
  | [key], entries =>
    match entries.lookup key with
    | none => some (entries.put key (.table .header []))
    | some (.table .implied inner) =>
      some (entries.filter (fun e => e.1 != key) ++ [(key, .table .header inner)])
    | some _ => none
  | key :: path, entries =>
    match entries.lookup key with
    | none => do return entries.put key (.table .implied (← define path []))
    | some (.table origin inner) => do return entries.put key (.table origin (← define path inner))
    | some (.tables (last :: earlier)) => do
      return entries.put key (.tables ((← define path last) :: earlier))
    | some _ => none

/-- Appends a table to the array that a header with double brackets names. -/
def append : List String → Entries Node → Option (Entries Node)
  | [], _ => none
  | [key], entries =>
    match entries.lookup key with
    | none => some (entries.put key (.tables [[]]))
    | some (.tables elements) => some (entries.put key (.tables ([] :: elements)))
    | some _ => none
  | key :: path, entries =>
    match entries.lookup key with
    | none => do return entries.put key (.table .implied (← append path []))
    | some (.table origin inner) => do return entries.put key (.table origin (← append path inner))
    | some (.tables (last :: earlier)) => do
      return entries.put key (.tables ((← append path last) :: earlier))
    | some _ => none

/-- Gives a dotted key its value. Another table than this one holds it only if dotted keys
made that table. -/
def assign (v : Value) : List String → Entries Node → Option (Entries Node)
  | [], _ => none
  | [key], entries =>
    match entries.lookup key with
    | none => some (entries.put key (.value v))
    | some _ => none
  | key :: path, entries =>
    let holdsValue := path.length = 1
    match entries.lookup key with
    | none => do return entries.put key (.table .dotted (← assign v path []))
    | some (.table .dotted inner) => do
      return entries.put key (.table .dotted (← assign v path inner))
    | some (.table .implied inner) => do
      if holdsValue then none
      else return entries.put key (.table .implied (← assign v path inner))
    | some (.tables (last :: earlier)) => do
      if holdsValue then none
      else return entries.put key (.tables ((← assign v path last) :: earlier))
    | some _ => none

/-- Gives a dotted key of an inline table its value. It may reach into any table there. -/
def assignInline (v : Value) : List String → Entries Value → Option (Entries Value)
  | [], _ => none
  | [key], entries =>
    match entries.lookup key with
    | none => some (entries.put key v)
    | some _ => none
  | key :: path, entries =>
    match entries.lookup key with
    | none => do return entries.put key (.table (← assignInline v path []))
    | some (.table inner) => do return entries.put key (.table (← assignInline v path inner))
    | some _ => none

/-- Changes the entries of the table that the header `path` named last. -/
def within (change : Entries Node → Option (Entries Node)) :
    List String → Entries Node → Option (Entries Node)
  | [], entries => change entries
  | key :: path, entries =>
    match entries.lookup key with
    | some (.table origin inner) => do
      return entries.put key (.table origin (← within change path inner))
    | some (.tables (last :: earlier)) => do
      return entries.put key (.tables ((← within change path last) :: earlier))
    | _ => none

end Entries

mutual

/-- The value a node has come to hold. -/
def Node.toValue : Node → Value
  | .value v => v
  | .table _ entries => .table (Node.entryValues entries)
  | .tables elements => .array (Node.elementValues elements).reverse

def Node.entryValues : List (String × Node) → List (String × Value)
  | [] => []
  | (key, node) :: rest => (key, node.toValue) :: Node.entryValues rest

def Node.elementValues : List (List (String × Node)) → List Value
  | [] => []
  | entries :: rest => .table (Node.entryValues entries) :: Node.elementValues rest

end

end ChannelRelay.Document
