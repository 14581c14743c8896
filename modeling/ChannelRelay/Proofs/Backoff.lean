import ChannelRelay.Backoff
import ChannelRelay.Proofs.Duration
import Mathlib.Logic.Function.Iterate
import Mathlib.Order.Bounds.Defs

/-!
# Delays in closed form

Each delay of a growth is one increment longer than the one before, until the next would be too
long for a duration; from there on it stays the same. A backoff gives so many of these delays, each
cut off at its ceiling.

* `Duration.add?_eq_some`, `Duration.add?_eq_none`: a sum is exact, or there is none;
* `Growth.room`: how many increments fit on top of the first delay;
* `Growth.next_cases`, `Growth.nanos_delayAt`: one increment takes up one of these places, and so
  the delays by induction;
* `delays_exact`: the delays of a growth and of a backoff, for every index.
-/

namespace ChannelRelay

namespace Duration

variable {a b c : Duration}

theorem nanos_le_longest (d : Duration) : d.nanos ≤ longest.nanos := Nat.le_sub_one_of_lt d.inRange

theorem add?_eq_some : a.add? b = some c ↔ c.nanos = a.nanos + b.nanos := by
  unfold add? ofNanos?
  by_cases fits : a.nanos + b.nanos < UInt64.size * nanosPerSecond
  · rw [dif_pos fits, Option.some.injEq]
    constructor
    · rintro rfl
      rfl
    · intro same
      exact eq_of_nanos same.symm
  · rw [dif_neg fits]
    have room := c.inRange
    constructor
    · nofun
    · intro same
      omega

theorem add?_eq_none : a.add? b = none ↔ longest.nanos < a.nanos + b.nanos := by
  have last : longest.nanos + 1 = UInt64.size * nanosPerSecond := by decide
  unfold add? ofNanos?
  by_cases fits : a.nanos + b.nanos < UInt64.size * nanosPerSecond
  · rw [dif_pos fits]
    constructor
    · nofun
    · omega
  · rw [dif_neg fits]
    constructor
    · intro
      omega
    · intro
      rfl

theorem seconds_add_subsecond (d : Duration) :
    d.seconds * nanosPerSecond + d.subsecond = d.nanos := Nat.div_add_mod' ..

theorem subsecond_lt (d : Duration) : d.subsecond < nanosPerSecond := Nat.mod_lt _ (by decide)

theorem nanos_min : (min a b).nanos = min a.nanos b.nanos := by
  by_cases le : a ≤ b
  · have shorter : min a b = a := if_pos le
    rw [shorter, Nat.min_eq_left le]
  · have shorter : min a b = b := if_neg le
    rw [shorter, Nat.min_eq_right (Nat.le_of_not_le le)]

end Duration

/-! ## Growth -/

namespace Growth

variable {g : Growth}

/-- How many times the increment can be added to the delay before it is too long. -/
def room (g : Growth) : Nat := (Duration.longest.nanos - g.delay.nanos) / g.increment.nanos

/-- The delay number `k`, counted from 0. -/
def delayAt (g : Growth) (k : Nat) : Duration := (next^[k] g).delay

theorem isGreatest_room (growing : 0 < g.increment.nanos) :
    IsGreatest {m | g.delay.nanos + m * g.increment.nanos ≤ Duration.longest.nanos} g.room := by
  have start := g.delay.nanos_le_longest
  constructor
  · have used : g.room * g.increment.nanos ≤ Duration.longest.nanos - g.delay.nanos :=
      Nat.div_mul_le_self ..
    show g.delay.nanos + g.room * g.increment.nanos ≤ Duration.longest.nanos
    omega
  · intro m fits
    replace fits : g.delay.nanos + m * g.increment.nanos ≤ Duration.longest.nanos := fits
    exact (Nat.le_div_iff_mul_le growing).mpr (by omega)

/-- A delay that can grow takes up room for one increment; one that cannot has none left. -/
theorem next_cases : (g.next.increment = g.increment ∧
    g.next.delay.nanos = g.delay.nanos + g.increment.nanos ∧
      (0 < g.increment.nanos → g.room = g.next.room + 1)) ∨ (g.next = g ∧ g.room = 0) := by
  unfold next
  cases sum : g.delay.add? g.increment with
  | some longer =>
    have exact := Duration.add?_eq_some.mp sum
    refine .inl ⟨rfl, exact, ?_⟩
    intro growing
    have fits := longer.nanos_le_longest
    show (Duration.longest.nanos - g.delay.nanos) / g.increment.nanos =
      (Duration.longest.nanos - longer.nanos) / g.increment.nanos + 1
    rw [← Nat.add_div_right _ growing, exact]
    congr 1
    omega
  | none =>
    have tooLong := Duration.add?_eq_none.mp sum
    have start := g.delay.nanos_le_longest
    exact .inr ⟨rfl, Nat.div_eq_of_lt (by omega)⟩

theorem nanos_delayAt (g : Growth) (k : Nat) :
    (g.delayAt k).nanos = g.delay.nanos + min k g.room * g.increment.nanos := by
  induction k generalizing g with
  | zero => simp [delayAt]
  | succ k ih =>
    have later : g.delayAt (k + 1) = g.next.delayAt k := rfl
    rw [later, ih]
    obtain ⟨increment, longer, room⟩ | ⟨stays, full⟩ := next_cases (g := g)
    · rw [increment, longer]
      obtain nothing | growing := Nat.eq_zero_or_pos g.increment.nanos
      · simp [nothing]
      · rw [room growing, Nat.add_min_add_right, Nat.succ_mul]
        omega
    · rw [stays, full]
      simp

theorem delayAt_mono (g : Growth) {i k : Nat} (le : i ≤ k) : g.delayAt i ≤ g.delayAt k := by
  show (g.delayAt i).nanos ≤ (g.delayAt k).nanos
  rw [nanos_delayAt, nanos_delayAt]
  have fewer : min i g.room ≤ min k g.room := by omega
  exact Nat.add_le_add_left (Nat.mul_le_mul_right _ fewer) _

theorem take_eq_map (g : Growth) (n : Nat) : g.take n = (List.range n).map g.delayAt := by
  induction n generalizing g with
  | zero => rfl
  | succ n ih =>
    rw [take, ih, List.range_succ_eq_map, List.map_cons, List.map_map]
    rfl

end Growth

/-! ## Backoff -/

namespace Backoff

variable (b : Backoff)

theorem delays_eq_map :
    b.delays = (List.range b.retries).map fun k => min (b.growth.delayAt k) b.ceiling := by
  rw [delays, take, Nat.min_self, Growth.take_eq_map, List.map_map]
  rfl

theorem take_eq_take (n : Nat) : b.take n = b.delays.take n := by
  rw [delays_eq_map, take, Growth.take_eq_map, List.map_map, ← List.map_take, List.take_range]
  rfl

theorem delays_ascend : b.delays.Pairwise (· ≤ ·) := by
  rw [delays_eq_map, List.pairwise_map]
  apply List.pairwise_lt_range.imp
  intro i k before
  have grown : (b.growth.delayAt i).nanos ≤ (b.growth.delayAt k).nanos :=
    b.growth.delayAt_mono (Nat.le_of_lt before)
  show (min _ b.ceiling).nanos ≤ (min _ b.ceiling).nanos
  rw [Duration.nanos_min, Duration.nanos_min]
  omega

theorem le_ceiling : ∀ d ∈ b.delays, d ≤ b.ceiling := by
  intro d mem
  rw [delays_eq_map] at mem
  obtain ⟨k, -, rfl⟩ := List.mem_map.mp mem
  show (min _ b.ceiling).nanos ≤ b.ceiling.nanos
  rw [Duration.nanos_min]
  exact Nat.min_le_right ..

end Backoff

/-- **Delays.** Delay number `k` of a growth is its first delay with `k` increments added, or with
as many as fit a duration. A backoff gives exactly as many delays as it has retries, each the
smaller of its ceiling and the delay of the growth, so they never get shorter and never pass the
ceiling. -/
theorem delays_exact (g : Growth) (ceiling : Duration) (retries : Nat) :
    let b : Backoff := ⟨g, ceiling, retries⟩
    (∀ d : Duration, d.seconds * nanosPerSecond + d.subsecond = d.nanos ∧
      d.subsecond < nanosPerSecond) ∧
    Duration.longest.seconds = 18446744073709551615 ∧ Duration.longest.subsecond = 999999999 ∧
    (0 < g.increment.nanos →
      IsGreatest {m | g.delay.nanos + m * g.increment.nanos ≤ Duration.longest.nanos} g.room) ∧
    (∀ n, g.take n = (List.range n).map g.delayAt) ∧
    (∀ k, (g.delayAt k).nanos = g.delay.nanos + min k g.room * g.increment.nanos) ∧
    (g.increment = .zero → ∀ k, g.delayAt k = g.delay) ∧
    b.delays = (List.range retries).map (fun k => min (g.delayAt k) ceiling) ∧
    b.delays.length = retries ∧ (∀ n, b.take n = b.delays.take n) ∧
    b.delays.Pairwise (· ≤ ·) ∧ ∀ d ∈ b.delays, d ≤ ceiling := by
  intro b
  refine ⟨?_, by decide, by decide, Growth.isGreatest_room, g.take_eq_map, g.nanos_delayAt, ?_,
    b.delays_eq_map, ?_, b.take_eq_take, b.delays_ascend, b.le_ceiling⟩
  · intro d
    exact ⟨d.seconds_add_subsecond, d.subsecond_lt⟩
  · intro nothing k
    apply Duration.eq_of_nanos
    rw [g.nanos_delayAt, nothing]
    rfl
  · rw [b.delays_eq_map, List.length_map, List.length_range]

/-- Nine nanoseconds below the longest duration there is room for two increments of four. -/
theorem delays_exact_near_longest :
    let g : Growth := ⟨{ nanos := 18446744073709551615999999990 }, { nanos := 4 }⟩
    let b : Backoff := ⟨g, { nanos := 18446744073709551615999999996 }, 4⟩
    0 < g.increment.nanos ∧
      IsGreatest {m | g.delay.nanos + m * g.increment.nanos ≤ Duration.longest.nanos} 2 ∧
      (∀ k, 2 ≤ k → (g.delayAt k).nanos = 18446744073709551615999999998) ∧
      b.delays.map Duration.subsecond = [999999990, 999999994, 999999996, 999999996] := by
  intro g b
  obtain ⟨-, -, -, greatest, -, exact, -, cut, -⟩ := delays_exact g b.ceiling b.retries
  have growing : 0 < g.increment.nanos := by decide
  have room : g.room = 2 := by decide
  refine ⟨growing, room ▸ greatest growing, ?_, ?_⟩
  · intro k late
    rw [exact, room, Nat.min_eq_right late]
    rfl
  · rw [cut]
    decide

end ChannelRelay
