import ChannelRelay.Duration

/-!
# Backing off between attempts

* `Growth`: delays that grow by a fixed amount, and stay where they are once the next
  one would be too long for a duration;
* `Backoff`: so many of them, each cut off at a ceiling;
* `retry`: repeats an attempt, one delay between two attempts, until it succeeds, fails
  for good or the delays are used up.

The waiting itself has no effect on a result, so only its total is kept.
-/

namespace ChannelRelay

structure Growth where
  delay : Duration
  increment : Duration
  deriving DecidableEq, Repr

namespace Growth

/-- The same delay every time. -/
def constant (delay : Duration) : Growth := ⟨delay, .zero⟩

def next (g : Growth) : Growth :=
  match g.delay.add? g.increment with
  | some delay => { g with delay }
  | none => g

/-- The first `n` delays. -/
def take (g : Growth) : Nat → List Duration
  | 0 => []
  | n + 1 => g.delay :: g.next.take n

end Growth

structure Backoff where
  growth : Growth
  ceiling : Duration
  retries : Nat
  deriving DecidableEq, Repr

namespace Backoff

/-- The delay before the next attempt. -/
def current (b : Backoff) : Duration := min b.growth.delay b.ceiling

/-- The first `n` delays, or all of them if there are fewer. -/
def take (b : Backoff) (n : Nat) : List Duration :=
  (b.growth.take (min n b.retries)).map (min · b.ceiling)

def delays (b : Backoff) : List Duration := b.take b.retries

end Backoff

/-- What came of one attempt. -/
inductive Attempt (ε α : Type) where
  | success (a : α)
  /-- It failed, and may be tried again. -/
  | again (e : ε)
  /-- It failed for good. -/
  | failure (e : ε)

/-- The last error of an attempt that was given up, after how many tries and how much delay. -/
structure GivenUp (ε : Type) where
  error : ε
  tries : Nat
  totalDelay : Duration
  deriving DecidableEq, Repr

variable {m : Type → Type} [Monad m] {ε α : Type}

/-- Goes on with try number `index` after `waited`, with `retries` delays left. -/
def retryFrom (attempt : Nat → m (Attempt ε α)) (ceiling : Duration) (growth : Growth)
    (retries index : Nat) (waited : Duration) : m (Except (GivenUp ε) α) := do
  match ← attempt index with
  | .success a => return .ok a
  | .failure e => return .error ⟨e, index, waited⟩
  | .again e =>
    match retries with
    | 0 => return .error ⟨e, index, waited⟩
    | retries + 1 =>
      retryFrom attempt ceiling growth.next retries (index + 1)
        (waited.saturatingAdd (min growth.delay ceiling))

/-- Makes the attempts 1, 2, … with the delays of `b` between them. -/
def retry (b : Backoff) (attempt : Nat → m (Attempt ε α)) : m (Except (GivenUp ε) α) :=
  retryFrom attempt b.ceiling b.growth b.retries 1 .zero

end ChannelRelay
