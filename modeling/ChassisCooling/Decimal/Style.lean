import ChassisCooling.Decimal.Shortest
import ChassisCooling.Binary.Arithmetic

/-!
# Writing numbers

A `Style` says where positional digits end and the exponent form begins, whether a whole number
keeps `.0`, and how ties between two shortest decimals go.

* `Style.plain`: never an exponent, no `.0`; used in messages and exported rows.
* `Style.inspected`: used where a value is shown with its structure.
* `Style.json`: used in documents; its bounds depend on the width of the number.
* `Binary.write`: a number in a style.
* `Binary.writeFixed`: a number with a fixed count of decimal places.
-/

namespace ChassisCooling

attribute [local instance] naturalPower

/-- The decisions of a number format. -/
structure Style where
  /-- Where a value between two equally short decimals goes. -/
  tie : Tie
  /-- Exponents of the first digit that are written positionally; none means all. -/
  positional : Option (Int × Int)
  /-- A whole number ends in `.0`. -/
  wholeMark : Bool
  /-- A positive exponent has a sign. -/
  exponentSign : Bool

namespace Style

def plain : Style := { tie := .up, positional := none, wholeMark := false, exponentSign := false }

/-- Scientific below `1e-4` and from `1e16` upward. -/
def inspected : Style :=
  { tie := .up, positional := some (-4, 15), wholeMark := true, exponentSign := false }

/-- Positional from `1e-6` below `1e13` for the 32-bit format, and from `1e-5` below `1e16` for
wider ones. -/
def json (f : Format) : Style :=
  { tie := .even
    positional := some (if f.precision ≤ 24 then (-6, 12) else (-5, 15))
    wholeMark := true
    exponentSign := true }

/-- Whether numbers with this exponent of the first digit are written positionally. -/
def isPositional (s : Style) (leading : Int) : Bool :=
  match s.positional with
  | none => true
  | some (low, high) => low ≤ leading && leading ≤ high

end Style

namespace Decimal

def zeros (n : Nat) : String := String.ofList (List.replicate n '0')

/-- Digits around a point. -/
def writePositional (wholeMark : Bool) (x : Decimal) : String :=
  let text := toString x.digits
  match x.exponent with
  | .ofNat e => text ++ zeros e ++ (if wholeMark then ".0" else "")
  | .negSucc e =>
    let places := e + 1
    let digits := text.toList
    if digits.length ≤ places then
      "0." ++ zeros (places - digits.length) ++ text
    else
      String.ofList (digits.take (digits.length - places)) ++ "." ++
        String.ofList (digits.drop (digits.length - places))

/-- One digit before the point, the others after it, and an exponent. -/
def writeScientific (exponentSign : Bool) (x : Decimal) : String :=
  let exponent := x.leading
  let sign := if exponentSign && 0 ≤ exponent then "+" else ""
  let mantissa :=
    match (toString x.digits).toList with
    | [] => ""
    | [d] => String.ofList [d]
    | d :: rest => String.ofList (d :: '.' :: rest)
  mantissa ++ "e" ++ sign ++ toString exponent

def write (s : Style) (x : Decimal) : String :=
  if x.digits = 0 ∨ s.isPositional x.leading then x.writePositional s.wholeMark
  else x.writeScientific s.exponentSign

end Decimal

namespace Binary

variable {f : Format}

/-- A minus sign, for negative numbers and negative zero. -/
def signText (negative : Bool) : String := if negative then "-" else ""

/-- A number in a style, by its shortest decimal. -/
def write (s : Style) : Binary f → String
  | nan => "NaN"
  | infinity negative => signText negative ++ "inf"
  | finite negative steps _ =>
    signText negative ++ (Decimal.shortest f s.tie steps).write s

/-- A number as messages show it. -/
def toPlainText (x : Binary f) : String := x.write .plain

/-- A number with `places` digits after the point, the exact value rounded with halves to even. A
negative number that rounds to zero keeps its sign. -/
def writeFixed (places : Nat) : Binary f → String
  | nan => "NaN"
  | infinity negative => signText negative ++ "inf"
  | finite negative steps _ =>
    let scaled := divideToEven (steps * 10 ^ places) f.unit
    let text := if places = 0 then toString scaled
      else Decimal.writePositional false ⟨scaled, -places⟩
    signText negative ++ text

end Binary

end ChassisCooling
