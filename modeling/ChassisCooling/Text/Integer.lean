/-!
# Reading integers

Decimal digits after an optional sign, with a bound on the value.

* `Text.digit?`: the value of an ASCII digit.
* `Text.readDigits`: digits into a natural number that must stay within a limit. The first fault
  from the left counts, be it a character that is no digit or a value above the limit.
* `Text.readSigned`, `Text.readUnsigned`: integers with a sign. An unsigned one takes `+` only.
-/

namespace ChassisCooling.Text

/-- Why a text is no integer of a range. -/
inductive IntegerFault where
  | empty
  | invalidDigit
  | tooLarge
  | tooSmall
  deriving DecidableEq

namespace IntegerFault

def message : IntegerFault → String
  | .empty => "cannot parse integer from empty string"
  | .invalidDigit => "invalid digit found in string"
  | .tooLarge => "number too large to fit in target type"
  | .tooSmall => "number too small to fit in target type"

end IntegerFault

/-- The value of an ASCII digit. -/
def digit? (c : Char) : Option Nat :=
  if '0' ≤ c ∧ c ≤ '9' then some (c.toNat - '0'.toNat) else none

/-- The value of digits appended to `value`; `beyond` is the fault of a value above `limit`. -/
def readDigits (limit : Nat) (beyond : IntegerFault) (value : Nat) :
    List Char → Except IntegerFault Nat
  | [] => .ok value
  | c :: rest =>
    match digit? c with
    | none => .error .invalidDigit
    | some d =>
      if value * 10 + d ≤ limit then readDigits limit beyond (value * 10 + d) rest
      else .error beyond

/-- Digits that must be there. A sign is no digit, so a sign alone is an invalid digit. -/
def readSomeDigits (limit : Nat) (beyond : IntegerFault) (digits : List Char) :
    Except IntegerFault Nat :=
  if digits.isEmpty then .error .invalidDigit else readDigits limit beyond 0 digits

/-- An integer from `-low` to `high`. -/
def readSigned (low high : Nat) : List Char → Except IntegerFault Int
  | [] => .error .empty
  | '+' :: digits => (readSomeDigits high .tooLarge digits).map Int.ofNat
  | '-' :: digits => (readSomeDigits low .tooSmall digits).map fun n => -(n : Int)
  | digits => (readDigits high .tooLarge 0 digits).map Int.ofNat

/-- A natural number up to `high`. -/
def readUnsigned (high : Nat) : List Char → Except IntegerFault Nat
  | [] => .error .empty
  | '+' :: digits => readSomeDigits high .tooLarge digits
  | digits => readDigits high .tooLarge 0 digits

end ChassisCooling.Text
