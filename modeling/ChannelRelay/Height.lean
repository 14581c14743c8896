import ChannelRelay.Failure
import ChannelRelay.Text.Decimal

/-!
# Heights

A height names a block: the number of a revision of the chain, and the height within
that revision, which is never 0 in a valid height. Heights are ordered by revision
number first. Written, the two numbers stand with a dash between; read, the revision
number may be left out and is then 0.
-/

namespace ChannelRelay

structure Height where
  revisionNumber : UInt64
  revisionHeight : UInt64
  deriving DecidableEq, Repr

inductive HeightError where
  | invalidHeight
  | invalidHeightResult
  | heightConversion (s : String) (fault : Decimal.Fault)
  deriving DecidableEq, Repr

instance : Failure HeightError where
  texts
    | .invalidHeight => ["height cannot end up zero or negative"]
    | .invalidHeightResult => ["height arithmetic resulted in a zero or negative height"]
    | .heightConversion s fault =>
      [s!"cannot convert into a `Height` type from string {s}", fault.text]

namespace Height

def text (h : Height) : String :=
  Decimal.write h.revisionNumber ++ "-" ++ Decimal.write h.revisionHeight

instance : ToString Height := ⟨text⟩

def Valid (h : Height) : Prop := h.revisionHeight ≠ 0

instance (h : Height) : Decidable h.Valid := inferInstanceAs (Decidable (_ ≠ _))

def make (revisionNumber revisionHeight : UInt64) : Except HeightError Height :=
  if revisionHeight = 0 then .error .invalidHeight else .ok ⟨revisionNumber, revisionHeight⟩

def add (h : Height) (delta : UInt64) : Except Breach Height :=
  if h.revisionHeight.toNat + delta.toNat < UInt64.size then
    .ok { h with revisionHeight := h.revisionHeight + delta }
  else
    .error .additionOverflow

def sub (h : Height) (delta : UInt64) : Except HeightError Height :=
  if h.revisionHeight ≤ delta then
    .error .invalidHeightResult
  else
    .ok { h with revisionHeight := h.revisionHeight - delta }

def increment (h : Height) : Except Breach Height := h.add 1

def decrement (h : Height) : Except HeightError Height := h.sub 1

instance : LT Height where
  lt a b := a.revisionNumber < b.revisionNumber ∨
    (a.revisionNumber = b.revisionNumber ∧ a.revisionHeight < b.revisionHeight)

instance (a b : Height) : Decidable (a < b) := inferInstanceAs (Decidable (_ ∨ _))

instance : LE Height where
  le a b := ¬ b < a

instance (a b : Height) : Decidable (a ≤ b) := inferInstanceAs (Decidable (¬ _))

instance : Ord Height :=
  ⟨fun a b => if a < b then .lt else if b < a then .gt else .eq⟩

instance : Max Height := ⟨fun a b => if b < a then a else b⟩

instance : Min Height := ⟨fun a b => if b < a then b else a⟩

def sort (heights : List Height) : List Height := heights.mergeSort fun a b => decide (a ≤ b)

/-- The parts before and after the first dash. Without a dash, all of it is the second
part and the first is `0`. -/
def splitAtFirstDash (cs : List Char) : List Char × List Char :=
  match cs.dropWhile (· != '-') with
  | [] => (['0'], cs)
  | _ :: height => (cs.takeWhile (· != '-'), height)

/-- Of two malformed numbers, the revision number is the one reported. -/
def parse (s : String) : Except HeightError Height :=
  let (number, height) := splitAtFirstDash s.toList
  match Decimal.read number with
  | .error fault => .error (.heightConversion s fault)
  | .ok revisionNumber =>
    match Decimal.read height with
    | .error fault => .error (.heightConversion s fault)
    | .ok revisionHeight => make revisionNumber revisionHeight

/-- One operation of height arithmetic. -/
inductive Op where
  | add (delta : UInt64)
  | sub (delta : UInt64)
  | increment
  | decrement
  deriving DecidableEq, Repr

/-- The outcome of one operation: a height, an error, or a broken precondition. -/
abbrev OpResult := Except Breach (Except HeightError Height)

def apply (h : Height) : Op → OpResult
  | .add delta => (h.add delta).map .ok
  | .sub delta => .ok (h.sub delta)
  | .increment => h.increment.map .ok
  | .decrement => .ok h.decrement

/-- The height after an operation: the old one unless the operation produced another. -/
def settle (h : Height) : OpResult → Height
  | .ok (.ok next) => next
  | _ => h

/-- Applies operations one after the other. One that fails leaves the height in place. -/
def runOps (h : Height) : List Op → List OpResult
  | [] => []
  | op :: ops => h.apply op :: runOps (h.settle (h.apply op)) ops

end Height

end ChannelRelay
