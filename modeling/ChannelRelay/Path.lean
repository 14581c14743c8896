import ChannelRelay.Channel
import ChannelRelay.RelayError
import ChannelRelay.Side

/-!
# Paths

A path end names a chain, the client of the other chain that lives on it, the
connection over that client, and the channel and port to open. `validatePaths` accepts
the ends of two chains that are configured, each on the chain it names, and distinct.
-/

namespace ChannelRelay

structure PathEnd where
  chainId : ChainId
  clientId : ClientId
  connectionId : ConnectionId
  channelId : ChannelId
  portId : PortId
  /-- The version to propose. Without one, the application on the port has the choice. -/
  version : Option ChannelVersion := none
  deriving DecidableEq, Repr

namespace PathEnd

def text (p : PathEnd) : String := s!"{p.chainId}:{p.portId}/{p.channelId}"

instance : ToString PathEnd := ⟨text⟩

def withVersion (p : PathEnd) (version : ChannelVersion) : PathEnd :=
  { p with version := some version }

/-- Checks that the path end belongs to the chain it is attached to. -/
def validateFor (p : PathEnd) (chain : ChainId) : Except RelayError Unit :=
  if p.chainId = chain then .ok () else .error (.pathChainMismatch chain p.chainId)

end PathEnd

/-- What a chain says about itself: its identifier and the path end configured on it. A chain can
be asked for both at any time, and it is assumed that it always says the same. -/
structure Party where
  id : ChainId
  path : Option PathEnd
  deriving DecidableEq, Repr

/-- The path end configured on a chain. -/
def Party.configuredPath (p : Party) : Except RelayError PathEnd :=
  match p.path with
  | some path => .ok path
  | none => .error (.missingPath p.id)

def validatePaths (parties : Pair Party) : Except RelayError (Pair PathEnd) := do
  let src ← parties.src.configuredPath
  let dst ← parties.dst.configuredPath
  src.validateFor parties.src.id
  dst.validateFor parties.dst.id
  if parties.src.id = parties.dst.id then
    throw (.identicalChains parties.src.id)
  return ⟨src, dst⟩

theorem bind_eq_ok {ε α β : Type} {x : Except ε α} {f : α → Except ε β} {b : β} :
    (x >>= f) = .ok b ↔ ∃ a, x = .ok a ∧ f a = .ok b := by
  constructor
  · intro h
    cases x with
    | error e => cases h
    | ok a => exact ⟨a, rfl, h⟩
  · rintro ⟨a, rfl, h⟩
    exact h

theorem Party.configuredPath_eq_ok {p : Party} {path : PathEnd} :
    p.configuredPath = .ok path ↔ p.path = some path := by
  unfold Party.configuredPath
  cases p.path <;> simp

theorem PathEnd.validateFor_eq_ok {p : PathEnd} {chain : ChainId} :
    p.validateFor chain = .ok () ↔ p.chainId = chain := by
  unfold PathEnd.validateFor
  split <;> simp [*]

/-- The ends are the configured ones, each names its own chain, and the chains differ. -/
theorem validatePaths_eq_ok {parties : Pair Party} {paths : Pair PathEnd} :
    validatePaths parties = .ok paths ↔
      (∀ s, (parties.get s).path = some (paths.get s) ∧
        (paths.get s).chainId = (parties.get s).id) ∧ parties.src.id ≠ parties.dst.id := by
  unfold validatePaths
  constructor
  · intro h
    obtain ⟨src, foundSrc, h⟩ := bind_eq_ok.mp h
    obtain ⟨dst, foundDst, h⟩ := bind_eq_ok.mp h
    obtain ⟨_, atSrc, h⟩ := bind_eq_ok.mp h
    obtain ⟨_, atDst, h⟩ := bind_eq_ok.mp h
    split at h
    · cases h
    · rename_i distinct
      cases h
      refine ⟨fun s => ?_, distinct⟩
      cases s with
      | src => exact ⟨Party.configuredPath_eq_ok.mp foundSrc, PathEnd.validateFor_eq_ok.mp atSrc⟩
      | dst => exact ⟨Party.configuredPath_eq_ok.mp foundDst, PathEnd.validateFor_eq_ok.mp atDst⟩
  · rintro ⟨ends, distinct⟩
    obtain ⟨foundSrc, atSrc⟩ := ends .src
    obtain ⟨foundDst, atDst⟩ := ends .dst
    refine bind_eq_ok.mpr ⟨_, Party.configuredPath_eq_ok.mpr foundSrc, ?_⟩
    refine bind_eq_ok.mpr ⟨_, Party.configuredPath_eq_ok.mpr foundDst, ?_⟩
    refine bind_eq_ok.mpr ⟨_, PathEnd.validateFor_eq_ok.mpr atSrc, ?_⟩
    refine bind_eq_ok.mpr ⟨_, PathEnd.validateFor_eq_ok.mpr atDst, ?_⟩
    rw [if_neg distinct]
    rfl

end ChannelRelay
