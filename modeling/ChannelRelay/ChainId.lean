import ChannelRelay.Identifier
import ChannelRelay.Text.Blank

/-!
# Chain identifiers

A chain identifier carries a version. A text in epoch format, a name and a version
number joined by a dash, has that version; every other text has version 0. The
version belongs to the identity of a chain: identifiers are equal when both text
and version are.
-/

namespace ChannelRelay

structure ChainId where
  text : String
  version : UInt64
  deriving DecidableEq, Repr

namespace ChainId

instance : ToString ChainId := ⟨ChainId.text⟩

/-- The parts before and after the last dash. -/
def splitAtLastDash (cs : List Char) : Option (List Char × List Char) :=
  match cs with
  | [] => none
  | c :: rest =>
    match splitAtLastDash rest with
    | some (name, version) => some (c :: name, version)
    | none => if c = '-' then some ([], rest) else none

/-- Whether a text may stand as the version number of a chain: digits without leading zero. -/
def isVersionText (cs : List Char) : Bool :=
  !cs.isEmpty && cs.head? != some '0' && cs.all Char.isDigit

/-- The text that stands as version number, if `id` is in epoch format. -/
def versionText? (id : String) : Option (List Char) :=
  match splitAtLastDash id.toList with
  | some (name, version) => if !name.isEmpty && isVersionText version then some version else none
  | none => none

def isEpochFormat (id : String) : Bool := (versionText? id).isSome

/-- The version number a text ends in, and 0 if there is none or it needs more than 64 bits. -/
def versionOf (id : String) : UInt64 :=
  match versionText? id with
  | none => 0
  | some version =>
    match Decimal.read version with
    | .ok n => n
    | .error _ => 0

/-- The identifier with this name and version. -/
def named (name : String) (version : UInt64) : ChainId := ⟨numberedText name version, version⟩

def ofString (id : String) : ChainId := ⟨id, versionOf id⟩

/-- Like `ofString`, but refuses a blank text. -/
def parse (id : String) : Except ValidationError ChainId :=
  if Text.isBlankText id then .error .empty else .ok (ofString id)

/-- By the code points of the text, then by version. -/
instance : Ord ChainId :=
  ⟨fun a b => (compare a.text b.text).then (compare a.version b.version)⟩

def sort (ids : List ChainId) : List ChainId := ids.mergeSort fun a b => (compare a b).isLE

end ChainId

end ChannelRelay
