/-!
# Dialogues

A dialogue is a program as its partner sees it: it ends with an answer, or it puts a
request and goes on with the reply, whatever that is. Nothing is assumed about the
partner, so a statement about all replies of a dialogue is a statement about every
partner it may meet.

* `Dialogue.Admits d t a`: with the exchanges `t`, one after the other, `d` ends with `a`;
* `Dialogue.run`: the dialogue with a partner that replies from a state of its own;
* `admits_run`: every run is one of the exchanges that the dialogue admits.
-/

namespace ChannelRelay

/-- The requests a dialogue may put, and the type of the reply to each. -/
structure Interface where
  Request : Type
  Reply : Request → Type

inductive Dialogue (I : Interface) (α : Type) : Type where
  | done (a : α)
  | ask (q : I.Request) (next : I.Reply q → Dialogue I α)

/-- A request together with the reply it got. -/
structure Exchange (I : Interface) where
  request : I.Request
  reply : I.Reply request

namespace Dialogue

variable {I : Interface} {α β : Type}

protected def bind (d : Dialogue I α) (f : α → Dialogue I β) : Dialogue I β :=
  match d with
  | done a => f a
  | ask q next => ask q fun r => (next r).bind f

instance : Monad (Dialogue I) where
  pure := done
  bind := Dialogue.bind

@[simp] theorem pure_eq (a : α) : (pure a : Dialogue I α) = done a := rfl

@[simp] theorem done_bind (a : α) (f : α → Dialogue I β) : done a >>= f = f a := rfl

@[simp] theorem ask_bind (q : I.Request) (next : I.Reply q → Dialogue I α)
    (f : α → Dialogue I β) : ask q next >>= f = ask q fun r => next r >>= f := rfl

instance : LawfulMonad (Dialogue I) :=
  LawfulMonad.mk' (Dialogue I)
    (fun d => by
      induction d with
      | done a => rfl
      | ask q next ih => exact congrArg (ask q) (funext ih))
    (fun _ _ => rfl)
    (fun d f g => by
      induction d with
      | done a => rfl
      | ask q next ih => exact congrArg (ask q) (funext ih))

/-- Puts one request and ends with its reply. -/
def request (q : I.Request) : Dialogue I (I.Reply q) := ask q done

/-- The dialogue may go through the exchanges `t` and then end with `a`. -/
def Admits : Dialogue I α → List (Exchange I) → α → Prop
  | done b, t, a => t = [] ∧ a = b
  | ask q next, t, a => ∃ r rest, t = ⟨q, r⟩ :: rest ∧ (next r).Admits rest a

@[simp] theorem admits_done {b a : α} {t : List (Exchange I)} :
    (done b).Admits t a ↔ t = [] ∧ a = b := Iff.rfl

theorem admits_ask {q : I.Request} {next : I.Reply q → Dialogue I α} {a : α}
    {t : List (Exchange I)} :
    (ask q next).Admits t a ↔ ∃ r rest, t = ⟨q, r⟩ :: rest ∧ (next r).Admits rest a := Iff.rfl

theorem admits_bind {d : Dialogue I α} {f : α → Dialogue I β} {t : List (Exchange I)} {b : β} :
    (d >>= f).Admits t b ↔ ∃ a first rest, t = first ++ rest ∧ d.Admits first a ∧
      (f a).Admits rest b := by
  induction d generalizing t with
  | done a =>
    constructor
    · intro h
      exact ⟨a, [], t, rfl, ⟨rfl, rfl⟩, h⟩
    · rintro ⟨_, _, _, rfl, ⟨rfl, rfl⟩, h⟩
      exact h
  | ask q next ih =>
    simp only [ask_bind, admits_ask, ih]
    constructor
    · rintro ⟨r, _, rfl, a, first, rest, rfl, hd, hf⟩
      exact ⟨a, ⟨q, r⟩ :: first, rest, rfl, ⟨r, first, rfl, hd⟩, hf⟩
    · rintro ⟨a, _, rest, rfl, ⟨r, first, rfl, hd⟩, hf⟩
      exact ⟨r, first ++ rest, rfl, a, first, rest, rfl, hd, hf⟩

/-- A partner replies to each request from a state of its own. -/
def Partner (I : Interface) (σ : Type) : Type := (q : I.Request) → σ → I.Reply q × σ

variable {σ : Type}

def run (partner : Partner I σ) : Dialogue I α → σ → α × σ
  | done a, s => (a, s)
  | ask q next, s => (next (partner q s).1).run partner (partner q s).2

/-- The exchanges of a run. -/
def transcript (partner : Partner I σ) : Dialogue I α → σ → List (Exchange I)
  | done _, _ => []
  | ask q next, s =>
    ⟨q, (partner q s).1⟩ :: (next (partner q s).1).transcript partner (partner q s).2

theorem run_bind (partner : Partner I σ) (d : Dialogue I α) (f : α → Dialogue I β) (s : σ) :
    (d >>= f).run partner s = (f (d.run partner s).1).run partner (d.run partner s).2 := by
  induction d generalizing s with
  | done a => rfl
  | ask q next ih => exact ih _ _

theorem admits_run (partner : Partner I σ) (d : Dialogue I α) (s : σ) :
    d.Admits (d.transcript partner s) (d.run partner s).1 := by
  induction d generalizing s with
  | done a => exact ⟨rfl, rfl⟩
  | ask q next ih => exact ⟨_, _, rfl, ih _ _⟩

end Dialogue

end ChannelRelay
