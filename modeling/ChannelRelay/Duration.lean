import ChannelRelay.Failure

/-!
# Durations

A length of time in whole nanoseconds, of fewer than 2^64 seconds.
-/

namespace ChannelRelay

/-- The nanoseconds of one second. -/
def nanosPerSecond : Nat := 1000000000

structure Duration where
  nanos : Nat
  inRange : nanos < UInt64.size * nanosPerSecond := by decide
  deriving DecidableEq

namespace Duration

instance : Repr Duration := ⟨fun d _ => repr d.nanos ++ " ns"⟩

def zero : Duration := { nanos := 0 }

def millisecond : Duration := { nanos := 1000000 }

/-- The longest duration. -/
def longest : Duration := { nanos := UInt64.size * nanosPerSecond - 1 }

def ofNanos? (nanos : Nat) : Option Duration :=
  if h : nanos < UInt64.size * nanosPerSecond then some ⟨nanos, h⟩ else none

/-- So many seconds and nanoseconds. A precondition is that there is room for the seconds
that the nanoseconds make up. -/
def ofParts (seconds nanos : Nat) : Except Breach Duration :=
  match ofNanos? (seconds * nanosPerSecond + nanos) with
  | some d => .ok d
  | none => .error .durationOverflow

/-- The whole seconds. -/
def seconds (d : Duration) : Nat := d.nanos / nanosPerSecond

/-- The nanoseconds beyond the whole seconds. -/
def subsecond (d : Duration) : Nat := d.nanos % nanosPerSecond

/-- The sum, if it is no longer than a duration can be. -/
def add? (a b : Duration) : Option Duration := ofNanos? (a.nanos + b.nanos)

/-- The sum, or the longest duration if the sum is longer. -/
def saturatingAdd (a b : Duration) : Duration := (a.add? b).getD longest

instance : LE Duration := ⟨fun a b => a.nanos ≤ b.nanos⟩

instance (a b : Duration) : Decidable (a ≤ b) := Nat.decLe a.nanos b.nanos

instance : Min Duration := ⟨fun a b => if a ≤ b then a else b⟩

end Duration

end ChannelRelay
