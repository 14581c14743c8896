/-!
# The two sides of a path

A path joins two chains, its source and its destination. What the relayer keeps
for both is a `Pair`; code that treats the two alike takes a `Side`.
-/

namespace ChannelRelay

inductive Side where
  | src
  | dst
  deriving DecidableEq, Repr

namespace Side

def other : Side → Side
  | src => dst
  | dst => src

@[simp] theorem other_src : src.other = dst := rfl

@[simp] theorem other_dst : dst.other = src := rfl

@[simp] theorem other_other (s : Side) : s.other.other = s := by cases s <;> rfl

theorem other_ne (s : Side) : s.other ≠ s := by cases s <;> decide

theorem forall_other {p : Side → Prop} : (∀ s : Side, p s.other) ↔ ∀ s, p s := by
  constructor
  · intro h s
    rw [← s.other_other]
    exact h s.other
  · intro h s
    exact h s.other

end Side

/-- One thing for each side. -/
structure Pair (α : Type) where
  src : α
  dst : α
  deriving DecidableEq, Repr

namespace Pair

variable {α β : Type}

def get (p : Pair α) : Side → α
  | .src => p.src
  | .dst => p.dst

/-- `p` with the entry of one side replaced. -/
def set (p : Pair α) (s : Side) (a : α) : Pair α :=
  match s with
  | .src => { p with src := a }
  | .dst => { p with dst := a }

def map (f : α → β) (p : Pair α) : Pair β := ⟨f p.src, f p.dst⟩

/-- The same two things with the roles exchanged. -/
def swap (p : Pair α) : Pair α := ⟨p.dst, p.src⟩

/-- The pair whose entry on `s` is `mine` and whose other entry is `theirs`. -/
def seen (s : Side) (mine theirs : α) : Pair α :=
  match s with
  | .src => ⟨mine, theirs⟩
  | .dst => ⟨theirs, mine⟩

@[simp] theorem get_src (p : Pair α) : p.get .src = p.src := rfl

@[simp] theorem get_dst (p : Pair α) : p.get .dst = p.dst := rfl

@[simp] theorem get_swap (p : Pair α) (s : Side) : p.swap.get s = p.get s.other := by
  cases s <;> rfl

theorem get_swap_other (p : Pair α) (s : Side) : p.swap.get s.other = p.get s := by
  rw [get_swap, Side.other_other]

@[simp] theorem swap_swap (p : Pair α) : p.swap.swap = p := rfl

@[simp] theorem get_map (f : α → β) (p : Pair α) (s : Side) :
    (p.map f).get s = f (p.get s) := by
  cases s <;> rfl

@[simp] theorem get_set_self (p : Pair α) (s : Side) (a : α) : (p.set s a).get s = a := by
  cases s <;> rfl

@[simp] theorem get_set_other (p : Pair α) (s : Side) (a : α) :
    (p.set s a).get s.other = p.get s.other := by
  cases s <;> rfl

end Pair

end ChannelRelay
