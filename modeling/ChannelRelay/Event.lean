import ChannelRelay.ChainId
import ChannelRelay.Height

/-!
# Events

What a chain tells those who subscribe to it. An event has a kind and attributes, at
most one for each key, kept in the order of the keys.
-/

namespace ChannelRelay

structure Event where
  kind : String
  attributes : List (String × String) := []
  deriving DecidableEq, Repr

namespace Event

/-- The attributes with `value` for `key`, instead of any earlier one. -/
def putAttribute (key value : String) : List (String × String) → List (String × String)
  | [] => [(key, value)]
  | e :: rest =>
    if key < e.1 then (key, value) :: e :: rest
    else if e.1 = key then (key, value) :: rest
    else e :: putAttribute key value rest

def withAttribute (e : Event) (key value : String) : Event :=
  { e with attributes := putAttribute key value e.attributes }

/-- The event with these attributes; a later one replaces an earlier one of the same key. -/
def ofList (kind : String) (attributes : List (String × String)) : Event :=
  attributes.foldl (fun e a => e.withAttribute a.1 a.2) { kind }

def attribute? (e : Event) (key : String) : Option String := e.attributes.lookup key

end Event

/-- The events of one block. -/
structure EventBatch where
  chainId : ChainId
  height : Height
  events : List Event
  deriving DecidableEq, Repr

end ChannelRelay
