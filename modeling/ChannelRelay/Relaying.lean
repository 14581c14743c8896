import ChannelRelay.Listener
import ChannelRelay.Strategy

/-!
# A strategy at work

From its start on, a strategy is at work in several threads: the caller starts it and holds
its handle, each chain has a listener, and the chains emit events. They act in any order.

What there is of the subscription and the listener of a chain makes up its `Station`. A
`Happening` is one thing that a thread or a chain does; it changes one station at most.
`Stations.run?` follows a list of happenings. `Strategy.lifetime` is what the caller does.
-/

namespace ChannelRelay

inductive Station where
  | absent
  /-- There is a subscription to the chain, and no listener yet. -/
  | subscribed (subscription : Subscription)
  | listening (l : Listener)
  deriving DecidableEq, Repr

namespace Station

inductive Event where
  | subscribe
  /-- A listener is started on the subscription. -/
  | listen (chain counterparty : Side)
  /-- Something is done with the handle of the listener. -/
  | touch (e : Task.HandleEvent)
  /-- The chain or the listener does something. -/
  | act (e : Listener.Event)
  deriving DecidableEq, Repr

/-- The station after an event, if the event can happen. A chain is subscribed to once. -/
def next? : Station → Event → Option Station
  | absent, .subscribe => some (subscribed {})
  | subscribed subscription, .listen chain counterparty =>
    some (listening { chain, counterparty, subscription })
  | subscribed subscription, .act (.emit batch) => (subscription.emit? batch).map subscribed
  | subscribed subscription, .act .close => some (subscribed subscription.close)
  | listening l, .touch e => (l.touch? e).map listening
  | listening l, .act e => (l.next? e).map listening
  | _, _ => none

def run? (st : Station) : List Event → Option Station
  | [] => some st
  | e :: rest => (st.next? e).bind fun st => st.run? rest

end Station

/-- What an exchange of the caller means for a station. -/
def Exchange.stationEvent? : Exchange Start → Option (Side × Station.Event)
  | ⟨.chain s .subscribe, .ok _⟩ => some (s, .subscribe)
  | ⟨.listen chain counterparty, _⟩ => some (chain, .listen chain counterparty)
  | ⟨.signal s, _⟩ => some (s, .touch .signal)
  | ⟨.release s, _⟩ => some (s, .touch .release)
  | ⟨.join s, _⟩ => some (s, .touch .joined)
  | ⟨.isStopped s, stopped⟩ => some (s, .touch (.observe stopped))
  | _ => none

inductive Happening where
  /-- The caller puts a request and gets its reply. -/
  | caller (e : Exchange Start)
  /-- The chain on a side, or its listener, does something. -/
  | station (s : Side) (e : Listener.Event)

def Happening.event? : Happening → Option (Side × Station.Event)
  | caller e => e.stationEvent?
  | station s e => some (s, .act e)

abbrev Stations := Pair Station

namespace Stations

def initial : Stations := ⟨.absent, .absent⟩

/-- The stations after a happening, if it can happen. -/
def next? (stations : Stations) (h : Happening) : Option Stations :=
  match h.event? with
  | some (s, e) => ((stations.get s).next? e).map (stations.set s)
  | none => some stations

def run? (stations : Stations) : List Happening → Option Stations
  | [] => some stations
  | h :: rest => (next? stations h).bind fun stations => run? stations rest

end Stations

/-- The exchanges of the caller. -/
def callerExchanges (trace : List Happening) : List (Exchange Start) :=
  trace.filterMap fun
    | .caller e => some e
    | .station .. => none

namespace RelayHandle

/-- What can be done with a handle that is kept. -/
inductive Use where
  | shutdown
  | isStopped
  deriving DecidableEq, Repr

/-- What takes the handle. -/
inductive Ending where
  | shutdownAndWait
  | drop
  deriving DecidableEq, Repr

def use : Use → Dialogue Start Unit
  | .shutdown => shutdown
  | .isStopped => do
    let _ ← isStopped
    return ()

def finish : Ending → Dialogue Start Unit
  | .shutdownAndWait => shutdownAndWait
  | .drop => drop

/-- Uses of the handle, one after the other, and what takes it. -/
def useAndFinish (uses : List Use) (ending : Ending) : Dialogue Start Unit :=
  match uses with
  | [] => finish ending
  | u :: rest => do
    use u
    useAndFinish rest ending

end RelayHandle

/-- All that the caller does: it starts a strategy and, if that succeeds, uses its handle. -/
def Strategy.lifetime (ids : Pair ChainId) (uses : List RelayHandle.Use)
    (ending : RelayHandle.Ending) : ExceptT StrategyError (Dialogue Start) Unit := do
  start ids
  RelayHandle.useAndFinish uses ending

end ChannelRelay
