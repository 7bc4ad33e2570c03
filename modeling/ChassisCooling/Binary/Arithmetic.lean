import ChassisCooling.Binary.Basic

/-!
# Arithmetic of binary numbers

Each operation computes the exact result as a sign and a quotient of naturals in the unit of one
step, and rounds once.

* `Binary.instAdd`, `instSub`, `instMul`, `instDiv`, `instNeg`: the four operations and negation.
* `Binary.ofNat`, `ofInt`, `ofDecimal`: the nearest number to an integer or a decimal.
* `Binary.convert`: the nearest number of another format.
* `Binary.roundHalfAway`, `Binary.toByte`: rounding to an integer, and truncation into a byte.
-/

namespace ChassisCooling

attribute [local instance] naturalPower

namespace Binary

variable {f : Format}

/-- The nearest number to a whole number of steps. -/
def ofSteps (z : Int) : Binary f := rounded (z < 0) z.natAbs 1 Nat.one_pos

protected def neg : Binary f → Binary f
  | nan => nan
  | infinity s => infinity (!s)
  | finite s m h => finite (!s) m h

/-- The sum. Opposite infinities have none; an exact zero is negative only if both terms are. -/
protected def add : Binary f → Binary f → Binary f
  | nan, _ => nan
  | _, nan => nan
  | infinity s, infinity t => if s = t then infinity s else nan
  | infinity s, finite .. => infinity s
  | finite .., infinity t => infinity t
  | finite s m _, finite t n _ =>
    let z := applySign s m + applySign t n
    if z = 0 then signedZero (s && t) else ofSteps z

protected def sub (x y : Binary f) : Binary f := x.add y.neg

/-- The product. Zero times infinity has none. -/
protected def mul : Binary f → Binary f → Binary f
  | nan, _ => nan
  | _, nan => nan
  | infinity s, infinity t => infinity (s != t)
  | infinity s, finite t n _ => if n = 0 then nan else infinity (s != t)
  | finite s m _, infinity t => if m = 0 then nan else infinity (s != t)
  | finite s m _, finite t n _ => rounded (s != t) (m * n) f.unit f.unit_pos

/-- The quotient. Zero by zero and infinity by infinity have none; any other number by zero is an
infinity. -/
protected def div : Binary f → Binary f → Binary f
  | nan, _ => nan
  | _, nan => nan
  | infinity _, infinity _ => nan
  | infinity s, finite t _ _ => infinity (s != t)
  | finite s _ _, infinity t => signedZero (s != t)
  | finite s m _, finite t n _ =>
    if hn : n = 0 then
      if m = 0 then nan else infinity (s != t)
    else
      rounded (s != t) (m * f.unit) n (Nat.pos_of_ne_zero hn)

instance : Neg (Binary f) := ⟨Binary.neg⟩
instance : Add (Binary f) := ⟨Binary.add⟩
instance : Sub (Binary f) := ⟨Binary.sub⟩
instance : Mul (Binary f) := ⟨Binary.mul⟩
instance : Div (Binary f) := ⟨Binary.div⟩

/-! ## Numbers from integers, decimals and other formats -/

/-- The nearest number to a natural number. -/
def ofNat (n : Nat) : Binary f := rounded false (n * f.unit) 1 Nat.one_pos

/-- The nearest number to an integer; zero is positive. -/
def ofInt (z : Int) : Binary f := rounded (z < 0) (z.natAbs * f.unit) 1 Nat.one_pos

/-- The nearest number to `digits * 10 ^ exponent` with a given sign. -/
def ofDecimal (negative : Bool) (digits : Nat) (exponent : Int) : Binary f :=
  match exponent with
  | .ofNat e => rounded negative (digits * 10 ^ e * f.unit) 1 Nat.one_pos
  | .negSucc e => rounded negative (digits * f.unit) (10 ^ (e + 1))
      (Nat.pow_pos (by decide))

/-- The nearest number of another format. -/
def convert (g : Format) : Binary f → Binary g
  | nan => nan
  | infinity s => infinity s
  | finite s m _ => rounded s (m * g.unit) f.unit f.unit_pos

/-- The nearest 64-bit number. -/
def toDouble (x : Binary f) : Double := x.convert .double

/-- The nearest 32-bit number. -/
def toSingle (x : Binary f) : Single := x.convert .single

/-! ## Numbers to integers -/

/-- The nearest integer, a half going away from zero. -/
def roundHalfAway : Binary f → Binary f
  | nan => nan
  | infinity s => infinity s
  | finite s m _ =>
    rounded s ((2 * m + f.unit) / (2 * f.unit) * f.unit) 1 Nat.one_pos

/-- The integer part as a byte: not-a-number and negative numbers give zero, large numbers 255. -/
def toByte : Binary f → UInt8
  | nan => 0
  | infinity s => if s then 0 else 255
  | finite s m _ => if s then 0 else UInt8.ofNat (min (m / f.unit) 255)

end Binary

end ChassisCooling
