import ChannelRelay.HeaderCache
import ChannelRelay.Backoff

/-!
# The exchanges of a dialogue

What a dialogue with the chains may go through, read off from how it is put together.

* `Dialogue.Admits.unique`: the exchanges determine how far a dialogue gets, and its answer;
* `Dialogue.Asks p d`: every request that `d` may put, whatever the replies, satisfies `p`;
* `Dialogue.Ensures R d Q`: as long as the replies satisfy `R`, the answer of `d` satisfies `Q`,
  with `Relay.Succeeds` and `Syncing.Ensures` for dialogues that may fail or have a state;
* `Relay.admits_bind` and its companions: a relay goes through the exchanges of its parts,
  up to the first part that fails.
-/

namespace ChannelRelay

/-- Two ways to cut one list: at its last element, or before it. -/
theorem append_cons_eq_concat {α : Type} {before after init : List α} {a last : α}
    (same : before ++ a :: after = init ++ [last]) :
    (before = init ∧ a = last ∧ after = []) ∨
      ∃ after', init = before ++ a :: after' ∧ after = after' ++ [last] := by
  rcases List.eq_nil_or_concat after with rfl | ⟨after', final, rfl⟩
  · obtain ⟨rfl, alone⟩ := List.append_inj' same rfl
    exact .inl ⟨rfl, List.singleton_inj.mp alone, rfl⟩
  · rw [List.concat_eq_append, ← List.cons_append, ← List.append_assoc] at same
    obtain ⟨rfl, alone⟩ := List.append_inj' same rfl
    cases List.singleton_inj.mp alone
    exact .inr ⟨after', rfl, List.concat_eq_append⟩

namespace Dialogue

variable {I : Interface} {α β : Type}

/-- No exchanges of a dialogue begin those of another of its runs. -/
theorem Admits.unique {d : Dialogue I α} {t t' u u' : List (Exchange I)} {a a' : α}
    (h : d.Admits t a) (h' : d.Admits t' a') (same : t ++ u = t' ++ u') :
    t = t' ∧ a = a' ∧ u = u' := by
  induction d generalizing t t' with
  | done b =>
    obtain ⟨rfl, rfl⟩ := h
    obtain ⟨rfl, rfl⟩ := h'
    exact ⟨rfl, rfl, same⟩
  | ask q next ih =>
    obtain ⟨r, rest, rfl, h⟩ := h
    obtain ⟨r', rest', rfl, h'⟩ := h'
    obtain ⟨head, tail⟩ := List.cons.inj same
    cases head
    obtain ⟨rfl, rfl, rfl⟩ := ih r h h' tail
    exact ⟨rfl, rfl, rfl⟩

/-- Once the first dialogue is over, what follows is up to the second. -/
theorem admits_bind_append {d : Dialogue I α} {f : α → Dialogue I β}
    {first rest : List (Exchange I)} {a : α} {b : β} (h : d.Admits first a) :
    (d >>= f).Admits (first ++ rest) b ↔ (f a).Admits rest b := by
  rw [admits_bind]
  constructor
  · rintro ⟨a', first', rest', same, h', hf⟩
    obtain ⟨rfl, rfl, rfl⟩ := h.unique h' same
    exact hf
  · intro hf
    exact ⟨a, first, rest, rfl, h, hf⟩

/-- A dialogue that may fail goes through the exchanges of its parts, up to one that fails. -/
theorem admits_exceptBind {ε : Type} {t : List (Exchange I)} {x : ExceptT ε (Dialogue I) α}
    {f : α → ExceptT ε (Dialogue I) β} {r : Except ε β} :
    (x >>= f).run.Admits t r ↔
      (∃ e, r = .error e ∧ x.run.Admits t (.error e)) ∨
      ∃ a first rest, t = first ++ rest ∧ x.run.Admits first (.ok a) ∧
        (f a).run.Admits rest r := by
  rw [ExceptT.run_bind, Dialogue.admits_bind]
  constructor
  · rintro ⟨answer, first, rest, rfl, h, hf⟩
    cases answer with
    | ok a => exact .inr ⟨a, first, rest, rfl, h, hf⟩
    | error e =>
      obtain ⟨rfl, rfl⟩ := hf
      exact .inl ⟨e, rfl, by simpa using h⟩
  · rintro (⟨e, rfl, h⟩ | ⟨a, first, rest, rfl, h, hf⟩)
    · exact ⟨.error e, t, [], by simp, h, rfl, rfl⟩
    · exact ⟨.ok a, first, rest, rfl, h, hf⟩

theorem admits_exceptLift {ε : Type} {t : List (Exchange I)} {d : Dialogue I α}
    {r : Except ε α} :
    (liftM d : ExceptT ε (Dialogue I) α).run.Admits t r ↔ ∃ a, r = .ok a ∧ d.Admits t a := by
  constructor
  · intro lifted
    obtain ⟨a, first, rest, rfl, h, rfl, rfl⟩ := admits_bind.mp lifted
    exact ⟨a, rfl, by rwa [List.append_nil]⟩
  · rintro ⟨a, rfl, h⟩
    exact admits_bind.mpr ⟨a, t, [], (List.append_nil t).symm, h, rfl, rfl⟩

theorem admits_exceptLift_bind {ε : Type} {t : List (Exchange I)} {d : Dialogue I α}
    {f : α → ExceptT ε (Dialogue I) β} {r : Except ε β} :
    ((liftM d : ExceptT ε (Dialogue I) α) >>= f).run.Admits t r ↔
      ∃ a first rest, t = first ++ rest ∧ d.Admits first a ∧ (f a).run.Admits rest r := by
  rw [admits_exceptBind]
  simp only [admits_exceptLift]
  constructor
  · rintro (⟨_, _, _, ⟨⟩, _⟩ | ⟨a, first, rest, rfl, ⟨_, same, h⟩, hf⟩)
    cases same
    exact ⟨a, first, rest, rfl, h, hf⟩
  · rintro ⟨a, first, rest, rfl, h, hf⟩
    exact .inr ⟨a, first, rest, rfl, ⟨a, rfl, h⟩, hf⟩

theorem admits_request {q : I.Request} {t : List (Exchange I)} {r : I.Reply q} :
    (request q).Admits t r ↔ t = [⟨q, r⟩] := by
  constructor
  · rintro ⟨r, rest, rfl, rfl, rfl⟩
    rfl
  · rintro rfl
    exact ⟨r, [], rfl, rfl, rfl⟩

/-- Whatever the replies, every request satisfies `p`. -/
def Asks (p : I.Request → Prop) : Dialogue I α → Prop
  | done _ => True
  | ask q next => p q ∧ ∀ r, (next r).Asks p

variable {p : I.Request → Prop}

theorem asks_request {q : I.Request} (h : p q) : (request q).Asks p := ⟨h, fun _ => trivial⟩

theorem asks_bind {d : Dialogue I α} {f : α → Dialogue I β} (first : d.Asks p)
    (rest : ∀ a, (f a).Asks p) : (d >>= f).Asks p := by
  induction d with
  | done a => exact rest a
  | ask q next ih => exact ⟨first.1, fun r => ih r (first.2 r)⟩

theorem asks_exceptBind {ε : Type} {x : ExceptT ε (Dialogue I) α}
    {f : α → ExceptT ε (Dialogue I) β} (first : x.run.Asks p) (rest : ∀ a, (f a).run.Asks p) :
    (x >>= f).run.Asks p := by
  rw [ExceptT.run_bind]
  refine asks_bind first fun r => ?_
  cases r with
  | ok a => exact rest a
  | error e => trivial

theorem Asks.mono {d : Dialogue I α} {q : I.Request → Prop} (asks : d.Asks p)
    (weaker : ∀ r, p r → q r) : d.Asks q := by
  induction d with
  | done a => trivial
  | ask r next ih => exact ⟨weaker r asks.1, fun reply => ih reply (asks.2 reply)⟩

theorem Asks.of_admits {d : Dialogue I α} {t : List (Exchange I)} {a : α} (asks : d.Asks p)
    (h : d.Admits t a) : ∀ e ∈ t, p e.request := by
  induction d generalizing t with
  | done b =>
    obtain ⟨rfl, _⟩ := h
    simp
  | ask q next ih =>
    obtain ⟨r, rest, rfl, h⟩ := h
    intro e he
    rcases List.mem_cons.mp he with rfl | he
    · exact asks.1
    · exact ih r (asks.2 r) h e he

variable {R : Exchange I → Prop} {P : α → Prop} {Q : β → Prop}

/-- With exchanges that all satisfy `R`, the answer satisfies `P`. -/
def Ensures (R : Exchange I → Prop) (d : Dialogue I α) (P : α → Prop) : Prop :=
  ∀ t a, d.Admits t a → (∀ e ∈ t, R e) → P a

theorem Ensures.mono {d : Dialogue I α} {P' : α → Prop} (h : d.Ensures R P)
    (weaker : ∀ a, P a → P' a) : d.Ensures R P' :=
  fun t a run allowed => weaker a (h t a run allowed)

theorem ensures_done {a : α} (h : P a) : (done a : Dialogue I α).Ensures R P := by
  rintro t _ ⟨rfl, rfl⟩ _
  exact h

theorem ensures_request {q : I.Request} {P : I.Reply q → Prop} (h : ∀ r, R ⟨q, r⟩ → P r) :
    (request q).Ensures R P := by
  intro t r run allowed
  obtain rfl := admits_request.mp run
  exact h r (allowed _ List.mem_cons_self)

theorem ensures_bind {d : Dialogue I α} {f : α → Dialogue I β} (first : d.Ensures R P)
    (rest : ∀ a, P a → (f a).Ensures R Q) : (d >>= f).Ensures R Q := by
  intro t b run allowed
  obtain ⟨a, t₁, t₂, rfl, h₁, h₂⟩ := admits_bind.mp run
  have reached : P a := first t₁ a h₁ fun e mem => allowed e (List.mem_append_left _ mem)
  exact rest a reached t₂ b h₂ fun e mem => allowed e (List.mem_append_right _ mem)

end Dialogue

namespace Relay

variable {ε δ α β : Type} {t : List (Exchange Chains)}

theorem admits_bind {x : Relay ε α} {f : α → Relay ε β} {r : Except ε β} :
    (x >>= f).run.Admits t r ↔
      (∃ e, r = .error e ∧ x.run.Admits t (.error e)) ∨
      ∃ a first rest, t = first ++ rest ∧ x.run.Admits first (.ok a) ∧
        (f a).run.Admits rest r :=
  Dialogue.admits_exceptBind

theorem admits_bind_append {x : Relay ε α} {f : α → Relay ε β}
    {first rest : List (Exchange Chains)} {a : α} {r : Except ε β}
    (h : x.run.Admits first (.ok a)) :
    (x >>= f).run.Admits (first ++ rest) r ↔ (f a).run.Admits rest r := by
  rw [ExceptT.run_bind]
  exact Dialogue.admits_bind_append h

theorem admits_wrapError {wrap : ε → δ} {d : Relay ε α} {r : Except δ α} :
    (wrapError wrap d).run.Admits t r ↔ ∃ r', d.run.Admits t r' ∧ r = r'.mapError wrap := by
  unfold wrapError
  rw [ExceptT.run_mk, Dialogue.admits_bind]
  constructor
  · rintro ⟨r', first, rest, rfl, h, rfl, rfl⟩
    exact ⟨r', by simpa using h, rfl⟩
  · rintro ⟨r', h, rfl⟩
    exact ⟨r', t, [], by simp, h, rfl, rfl⟩

@[simp] theorem admits_wrapError_ok {wrap : ε → δ} {d : Relay ε α} {a : α} :
    (wrapError wrap d).run.Admits t (.ok a) ↔ d.run.Admits t (.ok a) := by
  rw [admits_wrapError]
  constructor
  · rintro ⟨r' | r', h, same⟩
    · cases same
    · cases same
      exact h
  · intro h
    exact ⟨_, h, rfl⟩

theorem admits_wrapError_error {wrap : ε → δ} {d : Relay ε α} {e : δ} :
    (wrapError wrap d).run.Admits t (.error e) ↔
      ∃ cause, e = wrap cause ∧ d.run.Admits t (.error cause) := by
  rw [admits_wrapError]
  constructor
  · rintro ⟨r' | r', h, same⟩
    · cases same
      exact ⟨_, rfl, h⟩
    · cases same
  · rintro ⟨cause, rfl, h⟩
    exact ⟨_, h, rfl⟩

theorem admits_call {s : Side} {c : ChainCall} {r : Except RelayError c.Result} :
    (call s c).run.Admits t r ↔ t = [⟨(s, c), r⟩] := Dialogue.admits_request

/-- A call, and what comes after it if it succeeds. -/
theorem admits_call_bind {s : Side} {c : ChainCall} {f : c.Result → Relay RelayError α}
    {r : Except RelayError α} :
    (call s c >>= f).run.Admits t r ↔
      (∃ e, r = .error e ∧ t = [⟨(s, c), .error e⟩]) ∨
      ∃ a rest, t = ⟨(s, c), .ok a⟩ :: rest ∧ (f a).run.Admits rest r := by
  rw [admits_bind]
  simp only [admits_call]
  constructor
  · rintro (h | ⟨a, first, rest, rfl, rfl, hf⟩)
    · exact .inl h
    · exact .inr ⟨a, rest, rfl, hf⟩
  · rintro (h | ⟨a, rest, rfl, hf⟩)
    · exact .inl h
    · exact .inr ⟨a, _, rest, rfl, rfl, hf⟩

variable {p : Side × ChainCall → Prop}

theorem asks_bind {x : Relay ε α} {f : α → Relay ε β} (first : x.run.Asks p)
    (rest : ∀ a, (f a).run.Asks p) : (x >>= f).run.Asks p :=
  Dialogue.asks_exceptBind first rest

theorem asks_wrapError {wrap : ε → δ} {d : Relay ε α} (h : d.run.Asks p) :
    (wrapError wrap d).run.Asks p :=
  Dialogue.asks_bind h fun _ => trivial

theorem asks_call {s : Side} {c : ChainCall} (h : p (s, c)) : (call s c).run.Asks p :=
  Dialogue.asks_request h

variable {R : Exchange Chains → Prop} {P : α → Prop} {Q : β → Prop}

/-- With exchanges that all satisfy `R`, there is a result, and it satisfies `P`. -/
def Succeeds (R : Exchange Chains → Prop) (x : Relay ε α) (P : α → Prop) : Prop :=
  x.run.Ensures R fun r => ∃ a, r = .ok a ∧ P a

theorem succeeds_pure {a : α} (h : P a) : Relay.Succeeds R (pure a : Relay ε α) P :=
  Dialogue.ensures_done ⟨a, rfl, h⟩

theorem succeeds_ofExcept {x : Except ε α} {a : α} (same : x = .ok a) (h : P a) :
    (ofExcept x).Succeeds R P :=
  Dialogue.ensures_done ⟨a, same, h⟩

theorem succeeds_bind {x : Relay ε α} {f : α → Relay ε β} (first : x.Succeeds R P)
    (rest : ∀ a, P a → (f a).Succeeds R Q) : Relay.Succeeds R (x >>= f) Q := by
  unfold Succeeds
  rw [ExceptT.run_bind]
  refine Dialogue.ensures_bind first ?_
  rintro _ ⟨a, rfl, h⟩
  exact rest a h

theorem succeeds_wrapError {wrap : ε → δ} {x : Relay ε α} (h : x.Succeeds R P) :
    (wrapError wrap x).Succeeds R P := by
  refine Dialogue.ensures_bind h ?_
  rintro _ ⟨a, rfl, h⟩
  exact Dialogue.ensures_done ⟨a, rfl, h⟩

theorem succeeds_call {s : Side} {c : ChainCall} {P : c.Result → Prop}
    (h : ∀ r, R ⟨(s, c), r⟩ → ∃ a, r = .ok a ∧ P a) : (call s c).Succeeds R P :=
  Dialogue.ensures_request h

theorem wrapError_map (wrap : ε → δ) (d : Relay ε α) (f : α → β) :
    wrapError wrap (do return f (← d)) = do return f (← wrapError wrap d) := by
  apply ExceptT.ext
  simp only [wrapError, ExceptT.run_mk, ExceptT.run_bind, bind_assoc]
  congr 1
  funext r
  cases r <;> rfl

end Relay

namespace Syncing

variable {α β ε : Type}

section
variable {cache after : HeaderCache} {t : List (Exchange Chains)}

theorem admits_bind {x : Syncing α} {f : α → Syncing β} {b : β} :
    ((x >>= f).run cache).Admits t (b, after) ↔ ∃ a between first rest, t = first ++ rest ∧
      (x.run cache).Admits first (a, between) ∧ ((f a).run between).Admits rest (b, after) := by
  rw [StateT.run_bind, Dialogue.admits_bind]
  constructor
  · rintro ⟨⟨a, between⟩, first, rest, split, h, hf⟩
    exact ⟨a, between, first, rest, split, h, hf⟩
  · rintro ⟨a, between, first, rest, split, h, hf⟩
    exact ⟨(a, between), first, rest, split, h, hf⟩

theorem admits_lift {d : Dialogue Chains α} {a : α} :
    ((liftM d : Syncing α).run cache).Admits t (a, after) ↔ d.Admits t a ∧ after = cache := by
  constructor
  · intro lifted
    obtain ⟨a', first, rest, rfl, h, rfl, same⟩ := Dialogue.admits_bind.mp lifted
    cases same
    exact ⟨by rwa [List.append_nil], rfl⟩
  · rintro ⟨h, rfl⟩
    exact Dialogue.admits_bind.mpr ⟨a, t, [], (List.append_nil t).symm, h, rfl, rfl⟩

end

variable {p : Side × ChainCall → Prop}

/-- Whatever the replies and the cached headers, every request satisfies `p`. -/
def Asks (p : Side × ChainCall → Prop) (x : Syncing α) : Prop := ∀ cache, (x.run cache).Asks p

theorem asks_bind {x : Syncing α} {f : α → Syncing β} (first : x.Asks p)
    (rest : ∀ a, (f a).Asks p) : Syncing.Asks p (x >>= f) :=
  fun cache => Dialogue.asks_bind (first cache) fun r => rest r.1 r.2

theorem asks_pure (a : α) : Syncing.Asks p (pure a) := fun _ => trivial

theorem asks_lift {d : Dialogue Chains α} (h : d.Asks p) : Syncing.Asks p (liftM d) :=
  fun _ => Dialogue.asks_bind h fun _ => trivial

theorem asks_retryFrom {attempt : Nat → Syncing (Attempt ε α)} (h : ∀ n, (attempt n).Asks p)
    (ceiling : Duration) (growth : Growth) (retries index : Nat) (waited : Duration) :
    Syncing.Asks p (retryFrom attempt ceiling growth retries index waited) := by
  induction retries generalizing growth index waited with
  | zero =>
    unfold retryFrom
    refine asks_bind (h index) fun result => ?_
    cases result <;> exact asks_pure _
  | succ retries ih =>
    unfold retryFrom
    refine asks_bind (h index) fun result => ?_
    cases result with
    | again e => exact ih _ _ _
    | success a => exact asks_pure _
    | failure e => exact asks_pure _

variable {R : Exchange Chains → Prop} {P : HeaderCache → Prop} {Q : α → HeaderCache → Prop}
  {S : β → HeaderCache → Prop}

/-- From a cache that satisfies `P`, with exchanges that all satisfy `R`, the answer and the
cache that is left satisfy `Q`. -/
def Ensures (R : Exchange Chains → Prop) (P : HeaderCache → Prop) (x : Syncing α)
    (Q : α → HeaderCache → Prop) : Prop :=
  ∀ cache, P cache → (x.run cache).Ensures R fun r => Q r.1 r.2

theorem ensures_bind {x : Syncing α} {f : α → Syncing β} (first : Syncing.Ensures R P x Q)
    (rest : ∀ a, Syncing.Ensures R (Q a) (f a) S) : Syncing.Ensures R P (x >>= f) S :=
  fun cache h => Dialogue.ensures_bind (first cache h) fun r h => rest r.1 r.2 h

theorem ensures_lift {d : Dialogue Chains α} {T : α → Prop} (h : d.Ensures R T) :
    Syncing.Ensures R P (liftM d) fun a cache => T a ∧ P cache :=
  fun _ before => Dialogue.ensures_bind h fun _ h => Dialogue.ensures_done ⟨h, before⟩

end Syncing

/-- The calls that leave a chain as it is. -/
def IsQuery (q : Side × ChainCall) : Prop := ∀ tx, q.2 ≠ .submit tx

/-- The calls that only look at a chain: nothing is built yet but headers. -/
def IsLook (q : Side × ChainCall) : Prop :=
  match q.2 with
  | .latestHeader | .latestHeight | .clientHeight _ | .headersForUpdate .. | .channel _ => True
  | _ => False

theorem IsLook.isQuery {q : Side × ChainCall} (h : IsLook q) : IsQuery q := by
  intro tx same
  rw [IsLook, same] at h
  exact h

end ChannelRelay
