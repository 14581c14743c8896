import ChannelRelay.Handshake.Step

/-!
# Running the handshake

The handshake goes in turns. A turn evaluates the next step and submits its batch, if
there is one. It ends the handshake when the last step is accepted, when a step cannot
be evaluated, or when too many submissions failed in a row. Nothing else bounds the
number of turns, so a run is a run of so many turns, and may be unfinished after them.

It is assumed that a chain keeps its identifier and its path end for the whole of a run.
Every step asks for them anew, but what identifies a chain does not change while it is
relayed to, so they are given, as a `Party`, and not among the replies.
-/

namespace ChannelRelay.Handshake

/-- What a turn leaves: the failures in a row so far, or the end of the handshake. -/
inductive Turn where
  | again (failures : UInt64)
  | ended (result : Except HandshakeError Unit)

/-- What a submitted batch means for the handshake, after so many failures in a row. -/
def judge (paths : Pair PathEnd) (maxFailures failures : UInt64) (sent : Batch) : Turn :=
  if sent.succeeded then
    if sent.last then .ended (.ok ()) else .again 0
  else
    let failures := failures + 1
    if maxFailures ≤ failures then
      .ended (.error (.failed (paths.map PathEnd.address) failures))
    else
      .again failures

def turn (parties : Pair Party) (paths : Pair PathEnd) (order : ChannelOrder) (config : Config)
    (failures : UInt64) : Dialogue Chains Turn := do
  match ← (step parties order config.headerSync).run with
  | .error e => return .ended (.error e)
  | .ok batch =>
    if batch.isReady then
      return judge paths config.handshake.maxFailures failures (← batch.send config.tx)
    return .again failures

/-- At most `n` turns; no result when the handshake is still going on after them. -/
def turns (parties : Pair Party) (paths : Pair PathEnd) (order : ChannelOrder) (config : Config)
    (n : Nat) (failures : UInt64) : Dialogue Chains (Option (Except HandshakeError Unit)) :=
  match n with
  | 0 => return none
  | n + 1 => do
    match ← turn parties paths order config failures with
    | .ended result => return some result
    | .again failures => turns parties paths order config n failures

/-- Checks configuration and paths, then takes at most `n` turns. The chains are these
`parties` in all of them. -/
def createChannel (parties : Pair Party) (ordered : Bool) (config : Config) (n : Nat) :
    Dialogue Chains (Option (Except HandshakeError Unit)) :=
  match config.validate with
  | .error e => return some (.error (.invalidConfig e))
  | .ok () =>
    match validatePaths parties with
    | .error e => return some (.error (.invalidPath e))
    | .ok paths => turns parties paths (.ofBool ordered) config n 0

end ChannelRelay.Handshake
