/-!
# Decimal text of 64-bit words

A word is written with the fewest digits. Read, it may carry one leading `+` and
leading zeros. The characters are scanned from the left, and the first fault met
is the one reported: a character that is no ASCII digit, or the digit at which
the value leaves 64 bits.
-/

namespace ChannelRelay.Decimal

inductive Fault where
  | empty
  | invalidDigit
  | overflow
  deriving DecidableEq, Repr

def Fault.text : Fault → String
  | empty => "cannot parse integer from empty string"
  | invalidDigit => "invalid digit found in string"
  | overflow => "number too large to fit in target type"

/-- The value of an ASCII decimal digit. -/
def digit? (c : Char) : Option Nat :=
  if c.isDigit then some (c.toNat - 48) else none

/-- Reads the remaining digits of a number whose leading digits have the value `value`. -/
def readFrom (value : Nat) : List Char → Except Fault Nat
  | [] => .ok value
  | c :: cs =>
    match digit? c with
    | none => .error .invalidDigit
    | some d =>
      if value * 10 + d < UInt64.size then readFrom (value * 10 + d) cs else .error .overflow

/-- Reads an unsigned number with digits only. -/
def readDigits (cs : List Char) : Except Fault UInt64 :=
  match cs with
  | [] => .error .invalidDigit
  | _ => (readFrom 0 cs).map Nat.toUInt64

def read (cs : List Char) : Except Fault UInt64 :=
  match cs with
  | [] => .error .empty
  | '+' :: rest => readDigits rest
  | _ => readDigits cs

def write (n : UInt64) : String := n.toNat.repr

end ChannelRelay.Decimal
