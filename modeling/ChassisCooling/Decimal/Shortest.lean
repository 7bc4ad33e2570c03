import ChassisCooling.Binary.Basic

/-!
# The shortest decimal of a binary number

Every finite binary number is the nearest one to all reals of an interval around it. Among the
decimals in that interval, `Decimal.shortest` takes one of fewest digits, and of those the nearest
to the number.

* `Format.gapAbove`, `Format.gapBelow`: distances to the two neighbours.
* `Decimal.choose`: the candidate of one decimal grid, if a point of the grid reads back.
* `Decimal.shortest`: the first grid that has a candidate, from one digit upward.
-/

namespace ChassisCooling

/-- The number `digits * 10 ^ exponent`. -/
structure Decimal where
  digits : Nat
  exponent : Int
  deriving DecidableEq

/-- Where a value half way between two grid points goes. -/
inductive Tie where
  | up
  | even
  deriving DecidableEq

attribute [local instance] naturalPower

namespace Format

/-- Steps from a magnitude to the next larger one. -/
def gapAbove (f : Format) (steps : Nat) : Nat := 2 ^ f.excess steps

/-- Steps from a magnitude to the next smaller one: half of the gap above at a power of two,
where the spacing of numbers changes. -/
def gapBelow (f : Format) (steps : Nat) : Nat :=
  if steps = 2 ^ steps.log2 then 2 ^ (f.excess steps - 1) else 2 ^ f.excess steps

/-- The last significant bit is zero, so that a real half way to a neighbour rounds here. -/
def IsEven (f : Format) (steps : Nat) : Prop := steps / 2 ^ f.excess steps % 2 = 0

instance (f : Format) (steps : Nat) : Decidable (f.IsEven steps) :=
  inferInstanceAs (Decidable (_ = _))

end Format

namespace Decimal

/-- The number of decimal digits; zero has one. -/
def digitCount (n : Nat) : Nat := (Nat.toDigits 10 n).length

/-- The exponent of ten of the first digit of `n / d`, for a positive quotient. -/
def leadingExponent (n d : Nat) : Int :=
  if d ≤ n then digitCount (n / d) - 1 else -(digitCount ((d - 1) / n) : Int)

/-- The exponent of ten of the first digit. -/
def leading (x : Decimal) : Int := x.exponent + digitCount x.digits - 1

/-- The same number without the zeros at the end of its digits. At most `fuel` are taken. -/
def stripZeros : Nat → Nat → Int → Decimal
  | 0, digits, exponent => ⟨digits, exponent⟩
  | fuel + 1, digits, exponent =>
    if digits ≠ 0 ∧ digits % 10 = 0 then stripZeros fuel (digits / 10) (exponent + 1)
    else ⟨digits, exponent⟩

/-- The point of the grid of multiples of `10 ^ k` that stands for a magnitude: one of the two
around it, if it reads back; of two that do, the nearer.

All is measured in half steps: the magnitude is `2 * steps`, and the reals that read back lie
within the gap to the neighbour on either side, the ends included for an even magnitude. -/
def choose (f : Format) (tie : Tie) (steps : Nat) (k : Int) : Option Nat :=
  let cell := 2 * f.unit * 10 ^ k.toNat
  let scale := 10 ^ (-k).toNat
  let value := 2 * steps * scale
  let low := (2 * steps - f.gapBelow steps) * scale
  let high := (2 * steps + f.gapAbove steps) * scale
  let down := value / cell
  let up := down + 1
  let even := f.IsEven steps
  let downReads := low < down * cell ∨ (even ∧ low = down * cell)
  let upReads := up * cell < high ∨ (even ∧ up * cell = high)
  let twice := 2 * (value % cell)
  let nearerDown :=
    twice < cell ∨ (twice = cell ∧ tie = .even ∧ down % 2 = 0)
  if downReads ∧ (¬upReads ∨ nearerDown) then some down
  else if upReads then some up
  else none

/-- A magnitude in full: a step is `5 ^ stepBits` units of the place `stepBits` after the point. -/
def exact (f : Format) (steps : Nat) : Decimal := ⟨steps * 5 ^ f.stepBits, -f.stepBits⟩

/-- The first candidate on the grids `10 ^ k`, `10 ^ (k - 1)`, …; after `fuel` of them the
magnitude in full. -/
def search (f : Format) (tie : Tie) (steps : Nat) : Nat → Int → Decimal
  | 0, _ => exact f steps
  | fuel + 1, k =>
    match choose f tie steps k with
    | some digits => ⟨digits, k⟩
    | none => search f tie steps fuel (k - 1)

/-- The decimal of fewest digits that reads back as the magnitude, and of those the nearest. The
search goes from the grid of the first digit to the one that holds the magnitude itself. -/
def shortest (f : Format) (tie : Tie) (steps : Nat) : Decimal :=
  if steps = 0 then ⟨0, 0⟩
  else
    let first := leadingExponent steps f.unit
    let found := search f tie steps (first + f.stepBits).toNat first
    stripZeros (digitCount found.digits) found.digits found.exponent

end Decimal

end ChassisCooling
