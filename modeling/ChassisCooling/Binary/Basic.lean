/-!
# Binary floating-point numbers

A finite number is a sign and a whole number of *steps*, a step being the format's smallest
positive number. So the value of every finite number is an integer in the unit of one step, sums
are exact integers before they are rounded, and the order of numbers is the order of integers.

* `Format`: precision, size of a step, and bound on magnitudes.
* `Binary`: the numbers of a format, with one not-a-number.
* `Binary.rounded`: the number nearest to a quotient of naturals, halves going to the even
  neighbour, and an infinity from the bound upward.
* `Format.fits_roundSteps`: what rounding yields has no more digits than the precision allows.
-/

namespace ChassisCooling

/-- Powers of naturals. Where this is the instance at hand, a power is the same term whatever else
is imported. -/
@[reducible] def naturalPower : Pow Nat Nat := instPowNat

attribute [local instance] naturalPower

/-- A binary format: `precision` significant bits, numbers in steps of `2 ^ (-stepBits)`, and
every finite magnitude below `2 ^ topBits` steps. -/
structure Format where
  precision : Nat
  stepBits : Nat
  topBits : Nat
  precision_pos : 0 < precision := by decide
  deriving DecidableEq

namespace Format

/-- The 32-bit interchange format: speeds and temperatures. -/
def single : Format := { precision := 24, stepBits := 149, topBits := 277 }

/-- The 64-bit interchange format: times. -/
def double : Format := { precision := 53, stepBits := 1074, topBits := 2098 }

/-- How many steps make one. -/
def unit (f : Format) : Nat := 2 ^ f.stepBits

theorem unit_pos (f : Format) : 0 < f.unit := Nat.two_pow_pos _

/-- How many low bits of a magnitude lie below its last significant place. -/
def excess (f : Format) (steps : Nat) : Nat :=
  steps.log2 + 1 - f.precision

/-- A magnitude that the format holds exactly: in range, and zero below its last significant
place. -/
def Fits (f : Format) (steps : Nat) : Prop :=
  steps < 2 ^ f.topBits ∧ 2 ^ f.excess steps ∣ steps

instance (f : Format) (steps : Nat) : Decidable (f.Fits steps) :=
  inferInstanceAs (Decidable (_ ∧ _))

end Format

/-- The quotient to the nearest natural number, a half going to the even neighbour. -/
def divideToEven (n d : Nat) : Nat :=
  let q := n / d
  let r := 2 * (n % d)
  if r < d then q else if d < r then q + 1 else q + q % 2

namespace Format

/-- The magnitude with `precision` significant bits nearest to `n / d` steps, a half going to the
even neighbour. The range of the format is not considered. -/
def roundSteps (f : Format) (n d : Nat) : Nat :=
  let e := f.excess (n / d)
  divideToEven n (d * 2 ^ e) * 2 ^ e

/-! ## Rounded magnitudes have few digits -/

theorem dvd_excess_of_lt {f : Format} {m e : Nat} (h : m < 2 ^ f.precision) :
    2 ^ f.excess (m * 2 ^ e) ∣ m * 2 ^ e := by
  by_cases hm : m = 0
  · subst hm; simp
  · apply Nat.dvd_trans (Nat.pow_dvd_pow 2 _) (Nat.dvd_mul_left _ _)
    have hpos : m * 2 ^ e ≠ 0 := Nat.mul_ne_zero hm (by simp)
    have hlt : m * 2 ^ e < 2 ^ (f.precision + e) := by
      rw [Nat.pow_add]
      exact Nat.mul_lt_mul_of_pos_right h (Nat.two_pow_pos e)
    have := (Nat.log2_lt hpos).2 hlt
    unfold excess
    omega

theorem dvd_excess_of_le {f : Format} {m e : Nat} (h : m ≤ 2 ^ f.precision) :
    2 ^ f.excess (m * 2 ^ e) ∣ m * 2 ^ e := by
  rcases Nat.lt_or_eq_of_le h with h | h
  · exact dvd_excess_of_lt h
  · rw [h, ← Nat.pow_add]
    apply Nat.pow_dvd_pow
    have := f.precision_pos
    unfold excess
    rw [Nat.log2_two_pow]
    omega

theorem divideToEven_le {n d b : Nat} (hd : 0 < d) (h : n < b * d) : divideToEven n d ≤ b := by
  have hq : n / d < b := (Nat.div_lt_iff_lt_mul hd).2 h
  have hr : n % d < d := Nat.mod_lt _ hd
  unfold divideToEven
  simp only
  split
  · omega
  · split <;> omega

theorem lt_two_pow_excess (f : Format) (q : Nat) : q < 2 ^ (f.precision + f.excess q) := by
  by_cases hq : q = 0
  · subst hq; exact Nat.two_pow_pos _
  · exact (Nat.log2_lt hq).1 (by unfold excess; omega)

/-- What rounding yields is zero below its last significant place. -/
theorem excess_dvd_roundSteps (f : Format) {n d : Nat} (hd : 0 < d) :
    2 ^ f.excess (f.roundSteps n d) ∣ f.roundSteps n d := by
  apply dvd_excess_of_le
  apply divideToEven_le (Nat.mul_pos hd (Nat.two_pow_pos _))
  have h := lt_two_pow_excess f (n / d)
  rw [Nat.pow_add] at h
  have := (Nat.div_lt_iff_lt_mul hd).1 h
  calc n < 2 ^ f.precision * 2 ^ f.excess (n / d) * d := this
    _ = 2 ^ f.precision * (d * 2 ^ f.excess (n / d)) := by
      rw [Nat.mul_assoc, Nat.mul_comm d]

theorem fits_roundSteps (f : Format) {n d : Nat} (hd : 0 < d)
    (h : f.roundSteps n d < 2 ^ f.topBits) : f.Fits (f.roundSteps n d) :=
  ⟨h, excess_dvd_roundSteps f hd⟩

end Format

/-- A number of a binary format. -/
inductive Binary (f : Format) where
  /-- Not a number. -/
  | nan
  | infinity (negative : Bool)
  /-- `steps` steps, or as many below zero. Zero has both signs. -/
  | finite (negative : Bool) (steps : Nat) (fits : f.Fits steps)
  deriving DecidableEq

/-- Numbers of the 32-bit format. -/
abbrev Single := Binary .single

/-- Numbers of the 64-bit format. -/
abbrev Double := Binary .double

namespace Binary

variable {f : Format}

theorem fits_zero (f : Format) : f.Fits 0 :=
  ⟨Nat.two_pow_pos _, Nat.dvd_zero _⟩

/-- Zero with a given sign. -/
def signedZero (negative : Bool) : Binary f := .finite negative 0 (fits_zero f)

instance : Inhabited (Binary f) := ⟨signedZero false⟩

/-- The number nearest to `n / d` steps with a given sign; from the bound of the format upward it
is an infinity. -/
def rounded (negative : Bool) (n d : Nat) (hd : 0 < d) : Binary f :=
  if h : f.roundSteps n d < 2 ^ f.topBits then
    .finite negative (f.roundSteps n d) (f.fits_roundSteps hd h)
  else
    .infinity negative

def isNaN : Binary f → Bool
  | nan => true
  | _ => false

def isFinite : Binary f → Bool
  | finite .. => true
  | _ => false

/-- A magnitude with a sign. -/
def applySign (negative : Bool) (magnitude : Nat) : Int :=
  if negative then -(magnitude : Int) else magnitude

/-- The value in steps, an infinity standing at the bound of the format. Not-a-number has no
value; it is given zero. -/
def rank : Binary f → Int
  | nan => 0
  | infinity s => applySign s (2 ^ f.topBits)
  | finite s m _ => applySign s m

/-! ## Order

Not-a-number is unordered; all other numbers are in the order of their ranks, so the two zeros are
equal and an infinity lies beyond every finite number. -/

instance : LT (Binary f) where
  lt x y := x.isNaN = false ∧ y.isNaN = false ∧ x.rank < y.rank

instance : LE (Binary f) where
  le x y := x.isNaN = false ∧ y.isNaN = false ∧ x.rank ≤ y.rank

instance (x y : Binary f) : Decidable (x < y) :=
  inferInstanceAs (Decidable (_ ∧ _ ∧ _))

instance (x y : Binary f) : Decidable (x ≤ y) :=
  inferInstanceAs (Decidable (_ ∧ _ ∧ _))

/-- Equality of numbers: the two zeros are equal, and not-a-number equals nothing. -/
def numEq (x y : Binary f) : Bool :=
  !x.isNaN && !y.isNaN && x.rank == y.rank

/-- The smaller of two numbers. Not-a-number gives way to the other one, and of two equal numbers
it is the second. -/
def minNum (x y : Binary f) : Binary f :=
  if y.isNaN then x else if x < y then x else y

/-- The larger of two numbers. Not-a-number gives way to the other one, and of two equal numbers
it is the second. -/
def maxNum (x y : Binary f) : Binary f :=
  if y.isNaN then x else if y < x then x else y

end Binary

end ChassisCooling
