import ChassisCooling.Binary.Arithmetic

/-!
# Durations

Whole nanoseconds, below `2 ^ 64` seconds.

* `Duration.ofSeconds?`: the nearest duration to a number of seconds, if it is not negative and
  in range. A half nanosecond goes to the even neighbour.
* `Duration.toSeconds`: seconds as a number, each of the two parts rounded on its own.
-/

namespace ChassisCooling

structure Duration where
  nanoseconds : Nat
  in_range : nanoseconds < UInt64.size * 1000000000
  deriving DecidableEq

namespace Duration

/-- The whole seconds. -/
def seconds (d : Duration) : Nat := d.nanoseconds / 1000000000

/-- What remains beside the whole seconds. -/
def subsecond (d : Duration) : Nat := d.nanoseconds % 1000000000

def zero : Duration := ⟨0, by decide⟩

instance : Inhabited Duration := ⟨zero⟩

/-- A duration from a count of nanoseconds, if it is in range. -/
def ofNanoseconds? (n : Nat) : Option Duration :=
  if h : n < UInt64.size * 1000000000 then some ⟨n, h⟩ else none

/-- The duration nearest to a number of seconds. Negative numbers, numbers from `2 ^ 64` upward
and not-a-number have none; negative zero is zero. -/
def ofSeconds? : Double → Option Duration
  | .nan => none
  | .infinity _ => none
  | .finite negative steps _ =>
    if negative ∧ steps ≠ 0 then none
    else ofNanoseconds? (divideToEven (steps * 1000000000) Format.double.unit)

/-- Seconds as a number: the whole seconds plus the rest divided by a billion. -/
def toSeconds (d : Duration) : Double :=
  Binary.ofNat d.seconds + Binary.ofNat d.subsecond / Binary.ofNat 1000000000

end Duration

end ChassisCooling
