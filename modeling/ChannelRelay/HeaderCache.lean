import ChannelRelay.ChainCall

/-!
# The latest headers of both chains

The relayer keeps the latest header of each chain, by chain identifier. Queries of a
handshake step are pinned to the heights of these headers, and the headers that bring
the client on the other chain up to date lead to them.

* `fetch` and `refresh` replace cached headers by the chains' latest ones; what was
  fetched before a failure stays;
* `headersFor` asks a chain for the headers that its client on the other chain lacks.
-/

namespace ChannelRelay

/-- The height at which a chain is queried. -/
structure QueryContext where
  chainId : ChainId
  height : Height
  deriving DecidableEq, Repr

structure HeaderCache where
  entries : List (ChainId × Header)
  deriving DecidableEq

namespace HeaderCache

def empty : HeaderCache := ⟨[]⟩

def get? (cache : HeaderCache) (id : ChainId) : Option Header := cache.entries.lookup id

/-- The cache with `header` for `id`, instead of any earlier one. -/
def insert (cache : HeaderCache) (id : ChainId) (header : Header) : HeaderCache :=
  ⟨(id, header) :: cache.entries.filter fun e => e.1 != id⟩

theorem get?_insert (cache : HeaderCache) (id other : ChainId) (header : Header) :
    (cache.insert id header).get? other = if other = id then some header else cache.get? other := by
  by_cases same : other = id
  · simp [get?, insert, same]
  · simp only [get?, insert, same, if_false]
    rw [List.lookup_cons, beq_false_of_ne same]
    induction cache.entries with
    | nil => rfl
    | cons e rest ih =>
      obtain ⟨key, value⟩ := e
      by_cases dropped : key = id
      · subst dropped
        simp [List.lookup_cons, beq_false_of_ne same, ih]
      · simp only [List.filter_cons, bne_iff_ne, ne_eq, dropped, not_false_eq_true, if_true,
          List.lookup_cons, ih]

def latestHeader (cache : HeaderCache) (id : ChainId) : Except RelayError Header :=
  match cache.get? id with
  | some header => .ok header
  | none => .error (.missingHeader id)

def queryContext (cache : HeaderCache) (id : ChainId) : Except RelayError QueryContext :=
  (cache.latestHeader id).map fun header => ⟨id, header.height⟩

/-- The first two neighbours that do not increase. -/
def firstDescent? : List Header → Option (Header × Header)
  | a :: b :: rest => if b.height ≤ a.height then some (a, b) else firstDescent? (b :: rest)
  | _ => none

/-- The headers of the chain on side `s` that its client on the other chain lacks. There
are none when that client trusts a height at or above the cached header. -/
def headersFor (cache : HeaderCache) (ids : Pair ChainId) (s : Side) :
    Relay RelayError (List Header) := do
  let target ← Relay.ofExcept (cache.latestHeader (ids.get s))
  let context ← Relay.ofExcept (cache.queryContext (ids.get s.other))
  let trusted : Height ← call s.other (.clientHeight context.height)
  if target.height ≤ trusted then
    return []
  let headers : List Header ← call s (.headersForUpdate trusted target)
  match firstDescent? headers with
  | some (a, b) => throw (.nonMonotonicHeaders (ids.get s) a.height b.height)
  | none => return headers

/-- The missing headers of both chains. -/
def headersForBoth (cache : HeaderCache) (ids : Pair ChainId) :
    Relay RelayError (Pair (List Header)) := do
  let src ← cache.headersFor ids .src
  let dst ← cache.headersFor ids .dst
  return ⟨src, dst⟩

end HeaderCache

/-- A dialogue that reads and replaces the cached headers as it goes. -/
abbrev Syncing (α : Type) := StateT HeaderCache (Dialogue Chains) α

namespace Syncing

def fetch (ids : Pair ChainId) (s : Side) : Syncing (Except RelayError Unit) := do
  match ← Dialogue.request (I := Chains) (s, .latestHeader) with
  | .ok header =>
    modify fun cache => cache.insert (ids.get s) header
    return .ok ()
  | .error e => return .error e

/-- Fetches the latest header of the chain on side `s`, then that of the other chain. -/
def refreshFrom (ids : Pair ChainId) (s : Side) : Syncing (Except RelayError Unit) := do
  match ← fetch ids s with
  | .ok () => fetch ids s.other
  | .error e => return .error e

/-- Fetches the latest header of the source, then that of the destination. -/
def refresh (ids : Pair ChainId) : Syncing (Except RelayError Unit) := refreshFrom ids .src

end Syncing

/-- The cache with the latest header of each chain. -/
def HeaderCache.synced (ids : Pair ChainId) : Relay RelayError HeaderCache :=
  ExceptT.mk do
    let (result, cache) ← (Syncing.refresh ids).run .empty
    return result.map fun _ => cache

end ChannelRelay
