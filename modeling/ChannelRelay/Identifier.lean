import ChannelRelay.Failure
import ChannelRelay.Text.Alphanumeric
import ChannelRelay.Text.Decimal

/-!
# Identifiers of clients, connections, channels and ports

An identifier is a text without path separator, of a length its kind allows, made of
alphanumeric characters and a few marks. Lengths are counted in bytes of UTF-8.

* `checkIdentifier` finds the first condition a text violates;
* `Identifier.parse` accepts a text as an identifier of a kind;
* `ClientId.numbered`, `ConnectionId.numbered` and `ChannelId.numbered` build the
  identifiers a chain hands out, from a counter. Only the first one checks the result.

An `Identifier` that was read from stored data may hold any text.
-/

namespace ChannelRelay

inductive ValidationError where
  | containsSeparator (id : String)
  | invalidLength (id : String) (length min max : Nat)
  | invalidCharacter (id : String)
  | empty
  deriving DecidableEq, Repr

def ValidationError.text : ValidationError → String
  | containsSeparator id => s!"identifier {id} cannot contain separator '/'"
  | invalidLength id length min max =>
    s!"identifier {id} has invalid length {length} must be between {min}-{max} characters"
  | invalidCharacter id =>
    s!"identifier {id} must only contain alphanumeric characters or `.`, `_`, `+`, `-`, `#`, " ++
      "- `[`, `]`, `<`, `>`"
  | empty => "identifier cannot be empty"

instance : Failure ValidationError := ⟨fun e => [e.text]⟩

/-- The marks an identifier may contain beside alphanumeric characters. -/
def identifierMarks : List Char := ['.', '_', '+', '-', '#', '[', ']', '<', '>']

def isIdentifierChar (c : Char) : Bool := Text.isAlphanumeric c || identifierMarks.contains c

/-- Checks a text as an identifier of `min` to `max` bytes. The order of the checks
decides which error an identifier with several faults gets. -/
def checkIdentifier (id : String) (min max : Nat) : Except ValidationError Unit :=
  if id.isEmpty then
    .error .empty
  else if id.toList.contains '/' then
    .error (.containsSeparator id)
  else if id.utf8ByteSize < min || max < id.utf8ByteSize then
    .error (.invalidLength id id.utf8ByteSize min max)
  else if !id.toList.all isIdentifierChar then
    .error (.invalidCharacter id)
  else
    .ok ()

/-- `checkIdentifier` for bounds that nobody has ordered yet; the bounds are looked at first. -/
def validateIdentifier (id : String) (min max : Nat) :
    Except Breach (Except ValidationError Unit) :=
  if min ≤ max then .ok (checkIdentifier id min max) else .error .reversedBounds

inductive IdentifierKind where
  | client
  | connection
  | channel
  | port
  deriving DecidableEq, Repr

/-- The fewest bytes of an identifier of this kind. -/
def IdentifierKind.minLength : IdentifierKind → Nat
  | client => 9
  | connection => 10
  | channel => 8
  | port => 2

/-- The most bytes of an identifier of this kind. -/
def IdentifierKind.maxLength : IdentifierKind → Nat
  | port => 128
  | _ => 64

structure Identifier (kind : IdentifierKind) where
  text : String
  deriving DecidableEq, Repr

instance {kind : IdentifierKind} : ToString (Identifier kind) := ⟨Identifier.text⟩

abbrev ClientId := Identifier .client

abbrev ConnectionId := Identifier .connection

abbrev ChannelId := Identifier .channel

abbrev PortId := Identifier .port

def Identifier.parse (kind : IdentifierKind) (s : String) :
    Except ValidationError (Identifier kind) :=
  (checkIdentifier s kind.minLength kind.maxLength).map fun _ => ⟨s⟩

/-- A stem and a counter, with a dash between. -/
def numberedText (stem : String) (counter : UInt64) : String :=
  stem ++ "-" ++ Decimal.write counter

def ClientId.numbered (stem : String) (counter : UInt64) : Except ValidationError ClientId :=
  Identifier.parse .client (numberedText stem counter)

def ConnectionId.stem : String := "connection"

def ConnectionId.numbered (counter : UInt64) : ConnectionId :=
  ⟨numberedText ConnectionId.stem counter⟩

def ChannelId.stem : String := "channel"

def ChannelId.numbered (counter : UInt64) : ChannelId := ⟨numberedText ChannelId.stem counter⟩

def ClientId.initial : ClientId := ⟨"07-tendermint-0"⟩

def ConnectionId.initial : ConnectionId := ConnectionId.numbered 0

def ChannelId.initial : ChannelId := ChannelId.numbered 0

def PortId.initial : PortId := ⟨"defaultPort"⟩

/-- The port of the token transfer application. -/
def PortId.transfer : PortId := ⟨"transfer"⟩

end ChannelRelay
