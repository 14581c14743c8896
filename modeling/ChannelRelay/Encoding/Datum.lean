/-!
# Encoded data

The data that domain values are exchanged as. A structure is written as a record of its
fields and may also be read from a list of them in order; a choice without content is
written as its name.

`Encoded` is the class of types with such a form. Decoding does not validate: it accepts
every value that the type can hold.
-/

namespace ChannelRelay

inductive Datum where
  | null
  | boolean (b : Bool)
  | integer (n : Int)
  /-- A number that is not written as an integer. No domain value is one. -/
  | fraction (mantissa : Int) (decimals : Nat)
  | text (s : String)
  | list (items : List Datum)
  | record (fields : List (String × Datum))
  deriving Inhabited

class Encoded (α : Type) where
  encode : α → Datum
  decode : Datum → Option α

export Encoded (encode decode)

namespace Datum

/-- Whether a field has to be given. -/
inductive Presence where
  | required
  /-- May be left out of a record. -/
  | optional
  /-- May be left out of a record and at the end of a list. -/
  | trailing
  deriving DecidableEq, Repr

/-- The names of the fields of a structure, in order. -/
abbrev Layout := List (String × Presence)

/-- The fields of a list, with null for those that were left out. -/
def positional : Layout → List Datum → Option (List Datum)
  | [], [] => some []
  | [], _ :: _ => none
  | (_, .trailing) :: layout, [] => (positional layout []).map (.null :: ·)
  | _ :: _, [] => none
  | _ :: layout, d :: items => (positional layout items).map (d :: ·)

/-- The field with this name; one that is given twice is an error. -/
def field? (name : String) (fields : List (String × Datum)) : Option (Option Datum) :=
  match fields.filter (·.1 == name) with
  | [] => some none
  | [(_, d)] => some (some d)
  | _ => none

/-- The fields of a record, with null for those that were left out. Other fields are
ignored. -/
def named (fields : List (String × Datum)) : Layout → Option (List Datum)
  | [] => some []
  | (name, presence) :: layout => do
    let d ← match ← field? name fields with
      | some d => some d
      | none => if presence = .required then none else some .null
    return d :: (← named fields layout)

/-- The fields of a structure in order. -/
def fields? (layout : Layout) : Datum → Option (List Datum)
  | .record fields => named fields layout
  | .list items => positional layout items
  | _ => none

/-- The name of a choice, which may also stand as the only field of a record. -/
def choice? : Datum → Option String
  | .text name => some name
  | .record [(name, .null)] => some name
  | _ => none

def text? : Datum → Option String
  | .text s => some s
  | _ => none

end Datum

instance : Encoded String := ⟨.text, Datum.text?⟩

instance : Encoded UInt64 where
  encode n := .integer n.toNat
  decode
    | .integer n => if 0 ≤ n ∧ n < UInt64.size then some n.toNat.toUInt64 else none
    | _ => none

instance {α : Type} [Encoded α] : Encoded (Option α) where
  encode
    | some a => encode a
    | none => .null
  decode
    | .null => some none
    | d => (decode d).map some

instance {α : Type} [Encoded α] : Encoded (List α) where
  encode l := .list (l.map encode)
  decode
    | .list items => items.mapM decode
    | _ => none

end ChannelRelay
