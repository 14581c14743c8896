/-!
# Failures and their reports

A failure has a text of its own and may wrap the failure that caused it. Its report
is one line: a fixed heading, the text, then the text of every cause, outermost
first. A `Breach` is no failure: it is a broken precondition, at which an operation
stops without an answer. A `Reading` can end both ways.
-/

namespace ChannelRelay

/-- A kind of failure, with the texts to report: its own first, then its causes. -/
class Failure (ε : Type) where
  texts : ε → List String

/-- The line that reports a failure. -/
def report {ε : Type} [Failure ε] (e : ε) : String :=
  "StringTracer: " ++ ": ".intercalate (Failure.texts e)

/-- The preconditions an operation can find broken. -/
inductive Breach where
  | reversedBounds
  | additionOverflow
  | durationOverflow
  deriving DecidableEq, Repr

def Breach.text : Breach → String
  | reversedBounds => "assertion failed: max >= min"
  | additionOverflow => "attempt to add with overflow"
  | durationOverflow => "overflow in Duration::new"

/-- Why something could not be read. -/
inductive ReadFault where
  /-- It is not of the form that is read. -/
  | unreadable
  | breach (b : Breach)
  deriving DecidableEq, Repr

/-- What reading comes to. The first fault met is the one that counts. -/
abbrev Reading (α : Type) := Except ReadFault α

def Reading.ofOption {α : Type} : Option α → Reading α
  | some a => .ok a
  | none => .error .unreadable

namespace Reading

variable {α β : Type}

@[simp] theorem ofOption_some (a : α) : ofOption (some a) = .ok a := rfl

@[simp] theorem ok_bind (a : α) (f : α → Reading β) : (.ok a : Reading α) >>= f = f a := rfl

@[simp] theorem error_bind (e : ReadFault) (f : α → Reading β) :
    (.error e : Reading α) >>= f = .error e := rfl

@[simp] theorem pure_eq (a : α) : (pure a : Reading α) = .ok a := rfl

@[simp] theorem map_ok (f : α → β) (a : α) : f <$> (.ok a : Reading α) = .ok (f a) := rfl

@[simp] theorem exceptMap_ok (f : α → β) (a : α) : Except.map f (.ok a : Reading α) = .ok (f a) :=
  rfl

end Reading

end ChannelRelay
