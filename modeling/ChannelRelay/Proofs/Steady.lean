import ChannelRelay.HeaderCache
import ChannelRelay.Proofs.Exchanges

/-!
# Steady chains

A chain is steady if its reply to a call depends on the call alone, not on when it is made. A
dialogue with two such chains comes to the same however often it is run, and it can be computed
part by part.

* `Dialogue.answer`, `run_of_replies`: what a dialogue comes to if the replies are steady;
* `Relay.answer`: the same for a dialogue that may fail, with one lemma for each way to put it
  together;
* `Alike`: two results that are both successes or both failures, and related accordingly;
* `both_swapped`: asking both sides comes to the same with the roles of the chains exchanged,
  unless it fails, and then it fails either way;
* `Syncing.Repeats`: a part of a header sync that comes to the same every time.
-/

namespace ChannelRelay

namespace Dialogue

variable {I : Interface} {α β σ : Type} {replies : (q : I.Request) → I.Reply q}

/-- What the dialogue ends with if each request always gets the same reply. -/
def answer (replies : (q : I.Request) → I.Reply q) : Dialogue I α → α
  | done a => a
  | ask q next => (next (replies q)).answer replies

theorem answer_bind (d : Dialogue I α) (f : α → Dialogue I β) :
    (d >>= f).answer replies = (f (d.answer replies)).answer replies := by
  induction d with
  | done a => rfl
  | ask q next ih => exact ih (replies q)

/-- What a dialogue comes to is what it admits when every exchange has the reply of its request. -/
theorem answer_eq_iff {d : Dialogue I α} {a : α} :
    d.answer replies = a ↔
      ∃ t, d.Admits t a ∧ ∀ e ∈ t, replies e.request = e.reply := by
  induction d with
  | done b =>
    constructor
    · rintro rfl
      exact ⟨[], ⟨rfl, rfl⟩, nofun⟩
    · rintro ⟨_, ⟨_, rfl⟩, _⟩
      rfl
  | ask q next ih =>
    rw [answer, ih]
    constructor
    · rintro ⟨t, h, steady⟩
      refine ⟨⟨q, replies q⟩ :: t, ⟨replies q, t, rfl, h⟩, ?_⟩
      exact List.forall_mem_cons.mpr ⟨rfl, steady⟩
    · rintro ⟨_, ⟨r, t, rfl, h⟩, steady⟩
      obtain ⟨first, later⟩ := List.forall_mem_cons.mp steady
      obtain rfl : replies q = r := first
      exact ⟨t, h, later⟩

/-- The replies do not depend on the state of the partner, and so not on what was asked before. -/
def Partner.Steady (partner : Partner I σ) : Prop :=
  ∀ q s s', (partner q s).1 = (partner q s').1

theorem run_of_replies {partner : Partner I σ} (h : ∀ q s, (partner q s).1 = replies q)
    (d : Dialogue I α) (s : σ) : (d.run partner s).1 = d.answer replies := by
  induction d generalizing s with
  | done a => rfl
  | ask q next ih =>
    rw [run, answer, h q s]
    exact ih _ _

end Dialogue

/-- A steady chain, by its replies. -/
abbrev SteadyChain := (c : ChainCall) → Except RelayError c.Result

/-- The replies of two steady chains in these roles. -/
def SteadyChain.replies (chains : Pair SteadyChain) (q : Side × ChainCall) :
    Except RelayError q.2.Result :=
  chains.get q.1 q.2

/-- The two chains as they reply in the state `w` of this partner. -/
def SteadyChain.ofPartner {σ : Type} (partner : Dialogue.Partner Chains σ) (w : σ) :
    Pair SteadyChain :=
  ⟨fun c => (partner (.src, c) w).1, fun c => (partner (.dst, c) w).1⟩

/-- The same two chains, each in the role of the other one. -/
def exchanged {σ : Type} (partner : Dialogue.Partner Chains σ) : Dialogue.Partner Chains σ :=
  fun q => partner (q.1.other, q.2)

/-! ## Results -/

section
variable {ε ε' δ δ' α α' β β' : Type}

/-- Both are successes, related by `V`, or both are failures, related by `E`. -/
def Alike (E : ε → ε' → Prop) (V : α → α' → Prop) : Except ε α → Except ε' α' → Prop
  | .ok a, .ok a' => V a a'
  | .error e, .error e' => E e e'
  | _, _ => False

variable {E : ε → ε' → Prop} {F : δ → δ' → Prop} {V : α → α' → Prop} {W : β → β' → Prop}
  {x : Except ε α} {x' : Except ε' α'}

theorem Alike.cases (h : Alike E V x x') :
    (∃ a a', x = .ok a ∧ x' = .ok a' ∧ V a a') ∨
      ∃ e e', x = .error e ∧ x' = .error e' ∧ E e e' := by
  cases x <;> cases x'
  · exact .inr ⟨_, _, rfl, rfl, h⟩
  · exact h.elim
  · exact h.elim
  · exact .inl ⟨_, _, rfl, rfl, h⟩

theorem Alike.bind {f : α → Except ε β} {f' : α' → Except ε' β'} (first : Alike E V x x')
    (rest : ∀ a a', x = .ok a → V a a' → Alike E W (f a) (f' a')) :
    Alike E W (x >>= f) (x' >>= f') := by
  obtain ⟨a, a', rfl, rfl, related⟩ | ⟨e, e', rfl, rfl, related⟩ := first.cases
  · exact rest a a' rfl related
  · exact related

theorem Alike.mapError {wrap : ε → δ} {wrap' : ε' → δ'} (h : Alike E V x x')
    (wrapped : ∀ e e', E e e' → F (wrap e) (wrap' e')) :
    Alike F V (x.mapError wrap) (x'.mapError wrap') := by
  obtain ⟨a, a', rfl, rfl, related⟩ | ⟨e, e', rfl, rfl, related⟩ := h.cases
  · exact related
  · exact wrapped e e' related

theorem Alike.map {f : α → β} {f' : α' → β'} (h : Alike E V x x')
    (mapped : ∀ a a', V a a' → W (f a) (f' a')) : Alike E W (x.map f) (x'.map f') := by
  obtain ⟨a, a', rfl, rfl, related⟩ | ⟨e, e', rfl, rfl, related⟩ := h.cases
  · exact mapped a a' related
  · exact related

/-- What it means for either result if the values correspond one to one. -/
theorem Alike.correspond {f : α → α'} (injective : ∀ a b, f a = f b → a = b)
    (h : Alike E (fun a a' => a' = f a) x x') :
    (∀ a, x = .ok a ↔ x' = .ok (f a)) ∧
    (∀ e, x = .error e → ∃ e', x' = .error e' ∧ E e e') ∧
    (∀ e', x' = .error e' → ∃ e, x = .error e ∧ E e e') := by
  obtain ⟨b, _, rfl, rfl, rfl⟩ | ⟨e, e', rfl, rfl, related⟩ := h.cases
  · refine ⟨fun a => ⟨?_, ?_⟩, nofun, nofun⟩
    · rintro ⟨⟩
      rfl
    · intro same
      rw [injective b a (Except.ok.inj same)]
  · refine ⟨fun a => ⟨nofun, nofun⟩, ?_, ?_⟩
    · rintro _ ⟨⟩
      exact ⟨e', rfl, related⟩
    · rintro _ ⟨⟩
      exact ⟨e, rfl, related⟩

/-- The same pair the other way round, or a failure either way. -/
def Swapped (x : Except ε (Pair α)) (x' : Except ε' (Pair α)) : Prop :=
  Alike (fun _ _ => True) (fun p p' => p' = p.swap) x x'

theorem swapped_of_ok_iff {x : Except ε (Pair α)} {x' : Except ε' (Pair α)}
    (h : ∀ p, x = .ok p ↔ x' = .ok p.swap) : Swapped x x' := by
  cases x with
  | ok p =>
    rw [(h p).mp rfl]
    exact rfl
  | error e =>
    cases x' with
    | ok p' => cases (h p'.swap).mpr rfl
    | error e' => trivial

end

/-! ## Relays -/

namespace Relay

variable {ε δ α β : Type} {chains : Pair SteadyChain}

/-- What a relay between steady chains comes to. -/
def answer (chains : Pair SteadyChain) (x : Relay ε α) : Except ε α :=
  Dialogue.answer (SteadyChain.replies chains) x.run

@[simp] theorem answer_pure (a : α) : answer chains (pure a : Relay ε α) = .ok a := rfl

@[simp] theorem answer_ofExcept (r : Except ε α) : answer chains (ofExcept r) = r := rfl

@[simp] theorem answer_call (s : Side) (c : ChainCall) :
    answer chains (call s c) = chains.get s c := rfl

/-- A chain replies the same in either role. -/
theorem answer_call_swap (s : Side) (c : ChainCall) :
    answer chains.swap (call s.other c) = answer chains (call s c) := by
  rw [answer_call, answer_call, Pair.get_swap_other]

@[simp] theorem answer_bind (x : Relay ε α) (f : α → Relay ε β) :
    answer chains (x >>= f) = answer chains x >>= fun a => answer chains (f a) := by
  unfold answer
  rw [ExceptT.run_bind, Dialogue.answer_bind]
  cases x.run.answer (SteadyChain.replies chains) <;> rfl

/-- Two relays come to the same, with these chains and with those, if their parts do. -/
theorem answer_bind_congr {chains' : Pair SteadyChain} {x y : Relay ε α} {f g : α → Relay ε β}
    (first : answer chains x = answer chains' y)
    (rest : ∀ a, answer chains (f a) = answer chains' (g a)) :
    answer chains (x >>= f) = answer chains' (y >>= g) := by
  rw [answer_bind, answer_bind, first]
  exact bind_congr rest

@[simp] theorem answer_wrapError (wrap : ε → δ) (x : Relay ε α) :
    answer chains (wrapError wrap x) = (answer chains x).mapError wrap := by
  unfold answer wrapError
  rw [ExceptT.run_mk, Dialogue.answer_bind]
  rfl

section
variable {σ : Type} {partner : Dialogue.Partner Chains σ}

/-- With a steady partner a relay comes to the same in every state. -/
theorem run_of_steady (steady : partner.Steady) (w v : σ) (x : Relay ε α) :
    (x.run.run partner v).1 = answer (SteadyChain.ofPartner partner w) x := by
  refine Dialogue.run_of_replies (fun q v => ?_) x.run v
  obtain ⟨s, c⟩ := q
  cases s <;> exact steady _ v w

theorem run_exchanged_of_steady (steady : partner.Steady) (w v : σ) (x : Relay ε α) :
    (x.run.run (exchanged partner) v).1 = answer (SteadyChain.ofPartner partner w).swap x := by
  refine Dialogue.run_of_replies (fun q v => ?_) x.run v
  obtain ⟨s, c⟩ := q
  cases s <;> exact steady _ v w

end

/-- The source first, then the destination. -/
def both (f : Side → Relay ε α) : Relay ε (Pair α) := do
  let src ← f .src
  let dst ← f .dst
  return ⟨src, dst⟩

theorem both_eq_ok {f : Side → Relay ε α} {p : Pair α} :
    answer chains (both f) = .ok p ↔ ∀ s, answer chains (f s) = .ok (p.get s) := by
  simp only [both, answer_bind, answer_pure, bind_eq_ok]
  constructor
  · rintro ⟨src, forSrc, dst, forDst, same⟩ s
    cases same
    cases s with
    | src => exact forSrc
    | dst => exact forDst
  · intro h
    exact ⟨p.src, h .src, p.dst, h .dst, rfl⟩

/-- With the roles exchanged, the chains come second that came first. It may be another failure
that is met first then, but there is one or there is none. -/
theorem both_swapped {f g : Side → Relay ε α}
    (same : ∀ s, answer chains.swap (g s.other) = answer chains (f s)) :
    Swapped (answer chains (both f)) (answer chains.swap (both g)) := by
  refine swapped_of_ok_iff fun p => ?_
  rw [both_eq_ok, both_eq_ok]
  constructor
  · intro h s
    rw [Pair.get_swap, ← h s.other, ← same s.other, Side.other_other]
  · intro h s
    rw [← same s, h s.other, Pair.get_swap_other]

end Relay

/-! ## Header syncs -/

namespace Syncing

variable {ε α β : Type} {chains : Pair SteadyChain} {P : HeaderCache → Prop}

/-- From every cache that satisfies `P` this comes to `a`, and the cache still satisfies `P`. -/
def Repeats (chains : Pair SteadyChain) (P : HeaderCache → Prop) (x : Syncing α) (a : α) : Prop :=
  ∀ cache, P cache →
    ∃ after, P after ∧ (x.run cache).answer (SteadyChain.replies chains) = (a, after)

theorem repeats_pure (a : α) : Syncing.Repeats chains P (pure a) a :=
  fun cache holds => ⟨cache, holds, rfl⟩

theorem repeats_bind {x : Syncing α} {f : α → Syncing β} {a : α} {b : β}
    (first : x.Repeats chains P a) (rest : (f a).Repeats chains P b) :
    Syncing.Repeats chains P (x >>= f) b := by
  intro cache holds
  obtain ⟨between, holds, reached⟩ := first cache holds
  obtain ⟨after, holds, ended⟩ := rest between holds
  refine ⟨after, holds, ?_⟩
  rw [StateT.run_bind, Dialogue.answer_bind, reached]
  exact ended

variable {attempt : Nat → Syncing (Attempt ε α)}

theorem repeats_retryFrom_success {a : α} {index : Nat}
    (h : (attempt index).Repeats chains P (.success a))
    (ceiling : Duration) (growth : Growth) (retries : Nat) (waited : Duration) :
    Syncing.Repeats chains P (retryFrom attempt ceiling growth retries index waited) (.ok a) := by
  unfold retryFrom
  exact repeats_bind h (repeats_pure _)

/-- An attempt that fails every time is repeated until there are no delays left. -/
theorem repeats_retryFrom_again {e : ε} (h : ∀ index, (attempt index).Repeats chains P (.again e))
    (ceiling : Duration) (growth : Growth) (retries index : Nat) (waited : Duration) :
    Syncing.Repeats chains P (retryFrom attempt ceiling growth retries index waited)
      (.error ⟨e, index + retries, ((growth.take retries).map (min · ceiling)).foldl
        Duration.saturatingAdd waited⟩) := by
  induction retries generalizing growth index waited with
  | zero =>
    unfold retryFrom
    exact repeats_bind (h index) (repeats_pure _)
  | succ retries ih =>
    unfold retryFrom
    have count : index + (retries + 1) = index + 1 + retries := by omega
    rw [count]
    exact repeats_bind (h index) (ih _ _ _)

end Syncing

end ChannelRelay
