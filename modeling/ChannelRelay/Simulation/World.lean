import ChannelRelay.Simulation.Chain

/-!
# Two scripted chains

The chains of a session and the log of all calls to them. An operation may be run with
the roles of the chains exchanged; the log names each chain by the side that it has in
the session.

A call that breaks off is remembered as a breach. For the one who made it, it has failed.
-/

namespace ChannelRelay.Simulation

structure World where
  chains : Pair ScriptedChain
  /-- The lines of the log, last one first. -/
  log : List String := []
  /-- The precondition that a call found broken. -/
  breach : Option Breach := none

namespace World

def sideName : Side → String
  | .src => "src"
  | .dst => "dst"

/-- A call to the chain on side `s` of the session. -/
def call (w : World) (s : Side) (q : ChainCall) : Except RelayError q.Result × World :=
  let chain := w.chains.get s
  let (reply, chain') := chain.respond q
  let w := { w with
    chains := w.chains.set s chain'
    log := (sideName s ++ "." ++ chain.describe q) :: w.log }
  match reply with
  | .ok reply => (reply, w)
  | .error b => (.error (.query chain.id (chain.describe q) b.text), { w with breach := some b })

/-- The side of the session that has the role `s`. -/
def sideOf (swapped : Bool) (s : Side) : Side := if swapped then s.other else s

/-- The two chains as partner of the relayer. -/
def partner (swapped : Bool) : Dialogue.Partner Chains World :=
  fun q w => w.call (sideOf swapped q.1) q.2

def parties (w : World) (swapped : Bool) : Pair Party :=
  let ps := w.chains.map ScriptedChain.party
  if swapped then ps.swap else ps

def ids (w : World) (swapped : Bool) : Pair ChainId := (w.parties swapped).map Party.id

/-- Runs a dialogue with the chains in these roles. -/
def run {α : Type} (w : World) (swapped : Bool) (d : Dialogue Chains α) : α × World :=
  d.run (partner swapped) w

end World

end ChannelRelay.Simulation
