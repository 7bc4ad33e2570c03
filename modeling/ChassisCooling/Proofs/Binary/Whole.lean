import ChassisCooling.Proofs.Binary.Arithmetic
import Mathlib.Order.Monotone.Basic

/-!
# Whole numbers and bytes keep the order

Rounding to a whole number and taking the whole part act on magnitudes and leave the sign alone. So
they keep the order of numbers because they keep the order of magnitudes, and a magnitude of zero
stays zero.

* `Binary.applySign_le_applySign`: a monotone function of magnitudes, under the sign.
* `Binary.roundHalfAway_le_roundHalfAway`, `Binary.toByte_le_toByte`: the two operations.
* `Binary.ofInt_le_ofInt`: the numbers of integers.
-/

namespace ChassisCooling

attribute [local instance] naturalPower

namespace Binary

variable {f : Format} {x y : Binary f}

/-! ## Integers -/

theorem rank_ofInt (z : Int) : (ofInt z : Binary f).rank = f.nearest (z * f.unit) 1 := by
  unfold ofInt
  rw [rank_rounded, ← Format.applySign_mul_natCast, applySign_natAbs]

theorem ofInt_le_ofInt {z z' : Int} (h : z ≤ z') : (ofInt z : Binary f) ≤ ofInt z' := by
  refine ⟨isNaN_rounded .., isNaN_rounded .., ?_⟩
  rw [rank_ofInt, rank_ofInt]
  apply f.nearest_mono Nat.one_pos Nat.one_pos
  apply Int.mul_le_mul_of_nonneg_right _ (Int.natCast_nonneg _)
  exact Int.mul_le_mul_of_nonneg_right h (Int.natCast_nonneg _)

/-! ## Rounding to a whole number -/

/-- A function of magnitudes that keeps their order and zero keeps the order under the sign. -/
theorem applySign_le_applySign {g : Nat → Nat} (hg : Monotone g) (h0 : g 0 = 0) {s t : Bool}
    {m n : Nat} (h : applySign s m ≤ applySign t n) : applySign s (g m) ≤ applySign t (g n) := by
  cases s <;> cases t <;> simp only [applySign, Bool.false_eq_true, if_false, if_true] at h ⊢
  · have := hg (show m ≤ n by omega)
    omega
  · -- A number that is not negative is below one that is not positive: both are zero.
    obtain ⟨rfl, rfl⟩ : m = 0 ∧ n = 0 := by omega
    omega
  · omega
  · have := hg (show n ≤ m by omega)
    omega

/-- The whole number of steps nearest to a magnitude, a half going up. -/
def wholeSteps (f : Format) (m : Nat) : Nat := (2 * m + f.unit) / (2 * f.unit) * f.unit

theorem wholeSteps_mono (f : Format) : Monotone (wholeSteps f) := fun _ _ h =>
  Nat.mul_le_mul_right f.unit (Nat.div_le_div_right (by omega))

theorem wholeSteps_zero (f : Format) : wholeSteps f 0 = 0 := by
  unfold wholeSteps
  have := f.unit_pos
  rw [Nat.div_eq_of_lt (by omega), Nat.zero_mul]

theorem roundHalfAway_finite (s : Bool) {m : Nat} (hm : f.Fits m) :
    (finite s m hm).roundHalfAway = rounded s (wholeSteps f m) 1 Nat.one_pos := rfl

theorem roundHalfAway_le_roundHalfAway (h : x ≤ y) : x.roundHalfAway ≤ y.roundHalfAway := by
  refine mono_of_finite (fun _ => rfl) (fun {x y} hx hy h => ?_) h
  obtain ⟨s, m, hm, rfl⟩ := exists_eq_finite hx
  obtain ⟨t, n, hn, rfl⟩ := exists_eq_finite hy
  rw [roundHalfAway_finite, roundHalfAway_finite]
  refine ⟨isNaN_rounded .., isNaN_rounded .., ?_⟩
  rw [rank_rounded, rank_rounded]
  apply f.nearest_mono Nat.one_pos Nat.one_pos
  apply Int.mul_le_mul_of_nonneg_right _ (Int.natCast_nonneg _)
  exact applySign_le_applySign (wholeSteps_mono f) (wholeSteps_zero f) h.2.2

/-! ## Bytes -/

theorem eq_infinity_of_le (h : infinity false ≤ y) : y = infinity false := by
  cases y with
  | nan => cases h.2.1
  | finite t n hn => exact absurd h (infinity_not_le rfl)
  | infinity t =>
    cases t with
    | false => rfl
    | true =>
      have hzero : infinity false ≤ (ofNat 0 : Binary f) :=
        le_trans h (neg_infinity_le (isNaN_ofNat 0))
      exact absurd hzero (infinity_not_le isFinite_ofNat_zero)

theorem toNat_toByte (hx : x.isFinite) : x.toByte.toNat = min (x.rank.toNat / f.unit) 255 := by
  obtain ⟨s, m, hm, rfl⟩ := exists_eq_finite hx
  rw [rank_finite]
  cases s with
  | true =>
    have hneg : (applySign true m).toNat = 0 := Int.toNat_of_nonpos (Int.neg_nonpos_of_nonneg
      (Int.natCast_nonneg m))
    rw [hneg, Nat.zero_div]
    rfl
  | false =>
    show (UInt8.ofNat (min (m / f.unit) 255)).toNat = min (m / f.unit) 255
    have hlt : min (m / f.unit) 255 < 256 := Nat.lt_succ_of_le (Nat.min_le_right ..)
    rw [UInt8.toNat_ofNat', Nat.mod_eq_of_lt hlt]

theorem toByte_le_toByte (h : x ≤ y) : x.toByte ≤ y.toByte := by
  cases x with
  | nan => cases h.1
  | infinity s =>
    cases s with
    | true => exact Nat.zero_le _
    | false =>
      rw [eq_infinity_of_le h]
      exact Nat.le_refl _
  | finite s m hm =>
    cases y with
    | nan => cases h.2.1
    | infinity t =>
      cases t with
      | true => exact absurd h (not_le_neg_infinity rfl)
      | false => exact Nat.le_of_lt_succ (UInt8.toNat_lt _)
    | finite t n hn =>
      rw [UInt8.le_iff_toNat_le, toNat_toByte rfl, toNat_toByte rfl]
      have hdiv := Nat.div_le_div_right (c := f.unit) (Int.toNat_le_toNat h.2.2)
      omega

end Binary

end ChassisCooling
