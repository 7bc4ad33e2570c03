import ChassisCooling.Decimal.Style

/-!
# The numbers of JSON

Whole numbers of 64 bits are kept exactly. Any other number is a double: its digits, as many of
them as 64 bits hold, are rounded to a double, and that is multiplied or divided by a power of ten
and rounded once more. So a number of up to fifteen digits within reach of an exact power of ten
is the nearest double, and others may be its neighbour.

* `Json.Number`: the numbers, and how messages show them.
* `Json.keepWhole`, `Json.keepPlaces`: the digits that are kept.
* `Json.scale`: a double times a power of ten.
* `Json.numberOf`: the number of digits before and after the point and an exponent.
-/

namespace ChassisCooling.Json

inductive Number where
  | natural (n : Nat)
  /-- The number `-n`, for a positive `n`. -/
  | negative (n : Nat)
  | real (x : Double)
  deriving DecidableEq

namespace Number

/-- The nearest number of a format. -/
def toBinary (f : Format) : Number → Binary f
  | natural n => Binary.ofNat n
  | negative n => Binary.ofInt (-n)
  | real x => x.convert f

/-- A number as messages show it. -/
def describe : Number → String
  | natural n => "integer `" ++ toString n ++ "`"
  | negative n => "integer `-" ++ toString n ++ "`"
  | real x => "floating point `" ++ x.write (.json .double) ++ "`"

end Number

/-! ## The digits that are kept -/

def digitValue (c : Char) : Nat := c.toNat - '0'.toNat

/-- A number with one digit more. -/
def withDigit (n : Nat) (c : Char) : Nat := n * 10 + digitValue c

/-- The digits before the point, after those of `n`. From the first one on that 64 bits cannot
hold, they only count for the exponent. -/
def keepWhole (n : Nat) : List Char → Decimal
  | [] => ⟨n, 0⟩
  | c :: cs =>
    if withDigit n c < UInt64.size then keepWhole (withDigit n c) cs else ⟨n, cs.length + 1⟩

/-- The digits after the point, after those that were kept before it. From the first one on that
64 bits cannot hold, they do not count. -/
def keepPlaces (x : Decimal) : List Char → Decimal
  | [] => x
  | c :: cs =>
    if withDigit x.digits c < UInt64.size then
      keepPlaces ⟨withDigit x.digits c, x.exponent - 1⟩ cs
    else x

/-! ## Doubles -/

/-- The largest power of ten that is a double. -/
def maxPower : Nat := 308

/-- The double nearest to a power of ten. -/
def power (n : Nat) : Double := Binary.ofDecimal false 1 n

/-- The double if it is finite. -/
def finite? (x : Double) : Option Double := if x.isFinite then some x else none

/-- A double times a power of ten, if that is in range. Division by more than the largest power
takes two steps, and two of the largest leave nothing of any number that has digits of 64 bits. -/
def scale (x : Double) (exponent : Int) : Option Double :=
  match exponent with
  | .ofNat e =>
    if e ≤ maxPower then finite? (x * power e)
    else if x.numEq (Binary.signedZero false) then some x
    else none
  | .negSucc e =>
    if e + 1 ≤ maxPower then some (x / power (e + 1))
    else if e + 1 ≤ 2 * maxPower then some (x / power maxPower / power (e + 1 - maxPower))
    else some (Binary.signedZero false)

/-- A double with a given sign, from its magnitude. -/
def signed (negative : Bool) (x : Double) : Double := if negative then -x else x

/-- The double that stands for a decimal, if it is in range. -/
def toReal (negative : Bool) (x : Decimal) : Option Number :=
  (scale (Binary.ofNat x.digits) x.exponent).map fun y => .real (signed negative y)

/-- A number without point and exponent: exact if it is one of 64 bits. Negative zero is a
double. -/
def wholeNumber (negative : Bool) (x : Decimal) : Option Number :=
  if x.exponent ≠ 0 then toReal negative x
  else if ¬negative then some (.natural x.digits)
  else if x.digits ≠ 0 ∧ x.digits ≤ UInt64.size / 2 then some (.negative x.digits)
  else toReal negative x

/-- The number of digits before and after the point and an exponent, if it is in range. -/
def numberOf (negative : Bool) (whole : List Char) (places : Option (List Char))
    (exponent : Option Int) : Option Number :=
  let kept := keepWhole 0 whole
  match places, exponent with
  | none, none => wholeNumber negative kept
  | _, _ =>
    let kept := keepPlaces kept (places.getD [])
    toReal negative ⟨kept.digits, kept.exponent + exponent.getD 0⟩

end ChassisCooling.Json
