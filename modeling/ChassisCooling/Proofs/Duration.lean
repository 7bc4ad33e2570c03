import ChassisCooling.Duration
import ChassisCooling.Proofs.Binary.Arithmetic

/-!
# Which seconds are durations

A number of seconds from zero on has a duration below `2 ^ 64`, and that duration lasts at all from
half a nanosecond on. Half a nanosecond is no number of the format; the least one above it stands
for it.

* `Duration.exists_ofSeconds?_iff`: the numbers that have a duration.
* `Duration.nanoseconds_pos_iff`: the numbers whose duration is not zero.
-/

namespace ChassisCooling

attribute [local instance] naturalPower

open Binary

namespace Duration

/-- The least number of seconds that is too long for a duration. -/
def secondsBound : Double := ofNat UInt64.size

/-- The least number of seconds that is more than half a nanosecond. -/
def leastSeconds : Double := ofDecimal false 5 (-10)

/-- Whole nanoseconds, nearest to a count of steps of seconds. -/
def nanosecondsOf (steps : Nat) : Nat := divideToEven (steps * 1000000000) Format.double.unit

/-! ## The two bounds -/

theorem rank_secondsBound : secondsBound.rank = (UInt64.size * Format.double.unit : Nat) := by
  decide +kernel

theorem isNaN_secondsBound : secondsBound.isNaN = false := isNaN_ofNat _

theorem isNaN_leastSeconds : leastSeconds.isNaN = false := by decide +kernel

/-- The number before the first bound is `2 ^ 11` seconds below it. -/
theorem exists_place_secondsBound :
    ∃ e, 2 ^ e ∣ UInt64.size * Format.double.unit ∧
      2 ^ (Format.double.precision - 1 + e) + 2 ^ e ≤ UInt64.size * Format.double.unit ∧
      2 ^ e = 2048 * Format.double.unit :=
  ⟨1085, by decide +kernel⟩

/-- Half a nanosecond lies between the second bound and the number before it. -/
theorem exists_place_leastSeconds :
    ∃ e, 2 ^ e ∣ leastSeconds.rank.toNat ∧
      2 ^ (Format.double.precision - 1 + e) + 2 ^ e ≤ leastSeconds.rank.toNat ∧
      2 * ((leastSeconds.rank.toNat - 2 ^ e) * 1000000000) ≤ Format.double.unit :=
  ⟨991, by decide +kernel⟩

theorem half_nanosecond_lt :
    Format.double.unit < 2 * (leastSeconds.rank.toNat * 1000000000) := by
  decide +kernel

theorem le_of_lt_secondsBound {steps : Nat} (h : Format.double.Fits steps)
    (hlt : steps < UInt64.size * Format.double.unit) :
    steps ≤ (UInt64.size - 2048) * Format.double.unit := by
  obtain ⟨e, hdvd, hbig, hplace⟩ := exists_place_secondsBound
  have hgap := Format.add_place_le_of_lt h hlt hdvd hbig
  rw [hplace] at hgap
  rw [Nat.sub_mul]
  exact Nat.le_sub_of_add_le hgap

theorem le_of_lt_leastSeconds {steps : Nat} (h : Format.double.Fits steps)
    (hlt : steps < leastSeconds.rank.toNat) : 2 * (steps * 1000000000) ≤ Format.double.unit := by
  obtain ⟨e, hdvd, hbig, hhalf⟩ := exists_place_leastSeconds
  have hgap := Format.add_place_le_of_lt h hlt hdvd hbig
  have hle := Nat.mul_le_mul_right 1000000000 (Nat.le_sub_of_add_le hgap)
  exact Nat.le_trans (Nat.mul_le_mul_left 2 hle) hhalf

/-! ## The nearest nanoseconds -/

theorem nanosecondsOf_lt_iff {steps : Nat} (h : Format.double.Fits steps) :
    nanosecondsOf steps < UInt64.size * 1000000000 ↔
      steps < UInt64.size * Format.double.unit := by
  have hunit := Format.double.unit_pos
  unfold nanosecondsOf
  constructor
  · intro hlt
    rw [← Nat.not_le]
    intro hle
    have hquot : UInt64.size * 1000000000 ≤ steps * 1000000000 / Format.double.unit := by
      rw [Nat.le_div_iff_mul_le hunit, Nat.mul_right_comm]
      exact Nat.mul_le_mul_right 1000000000 hle
    have := div_le_divideToEven (steps * 1000000000) Format.double.unit
    omega
  · -- Rounding to nanoseconds cannot make up for the distance to the bound.
    intro hlt
    have hnear : divideToEven (steps * 1000000000) Format.double.unit ≤
        (UInt64.size - 2048) * 1000000000 + 1 := by
      apply Format.divideToEven_le hunit
      calc steps * 1000000000 ≤ (UInt64.size - 2048) * Format.double.unit * 1000000000 :=
            Nat.mul_le_mul_right 1000000000 (le_of_lt_secondsBound h hlt)
        _ = (UInt64.size - 2048) * 1000000000 * Format.double.unit := Nat.mul_right_comm ..
        _ < ((UInt64.size - 2048) * 1000000000 + 1) * Format.double.unit :=
            Nat.mul_lt_mul_of_pos_right (Nat.lt_succ_self _) hunit
    exact Nat.lt_of_le_of_lt hnear (by decide)

theorem nanosecondsOf_pos_iff {steps : Nat} (h : Format.double.Fits steps) :
    0 < nanosecondsOf steps ↔ leastSeconds.rank.toNat ≤ steps := by
  unfold nanosecondsOf
  rw [divideToEven_pos_iff Format.double.unit_pos]
  constructor
  · intro hlt
    rw [← Nat.not_lt]
    intro hsmall
    exact Nat.not_lt.2 (le_of_lt_leastSeconds h hsmall) hlt
  · intro hle
    have := Nat.mul_le_mul_left 2 (Nat.mul_le_mul_right 1000000000 hle)
    exact Nat.lt_of_lt_of_le half_nanosecond_lt this

/-! ## Numbers from zero on -/

variable {x : Double}

theorem ofSeconds?_of_nonneg (hfin : x.isFinite) (h0 : ofNat 0 ≤ x) :
    Format.double.Fits x.rank.toNat ∧
      ofSeconds? x = ofNanoseconds? (nanosecondsOf x.rank.toNat) := by
  obtain ⟨negative, steps, hfits, rfl⟩ := exists_eq_finite hfin
  have hrank := (zero_le_iff.1 h0).2
  rw [rank_finite] at hrank ⊢
  -- Of the negative numbers only zero is not below zero.
  have hzero : negative = true → steps = 0 := by
    rintro rfl
    change 0 ≤ -(steps : Int) at hrank
    omega
  have hsteps : (applySign negative steps).toNat = steps := by
    cases negative with
    | false => exact Int.toNat_natCast steps
    | true => rw [hzero rfl]; rfl
  rw [hsteps]
  refine ⟨hfits, ?_⟩
  unfold ofSeconds? nanosecondsOf
  simp only
  rw [if_neg fun h => h.2 (hzero h.1)]

/-- A number from zero on has a duration if it is below `2 ^ 64`. -/
theorem exists_ofSeconds?_iff (hfin : x.isFinite) (h0 : ofNat 0 ≤ x) :
    (∃ d, ofSeconds? x = some d) ↔ x < secondsBound := by
  obtain ⟨hfits, heq⟩ := ofSeconds?_of_nonneg hfin h0
  obtain ⟨hnum, hrank⟩ := zero_le_iff.1 h0
  have hlt : x < secondsBound ↔ x.rank.toNat < UInt64.size * Format.double.unit := by
    rw [lt_iff, rank_secondsBound, Int.toNat_lt hrank]
    simp only [hnum, isNaN_secondsBound, true_and]
  rw [heq, hlt, ← nanosecondsOf_lt_iff hfits]
  unfold ofNanoseconds?
  split
  · next h => exact ⟨fun _ => h, fun _ => ⟨_, rfl⟩⟩
  · next h =>
    constructor
    · rintro ⟨d, hd⟩
      cases hd
    · intro h'
      exact absurd h' h

theorem nanoseconds_eq_of_ofSeconds? (hfin : x.isFinite) (h0 : ofNat 0 ≤ x) {d : Duration}
    (hd : ofSeconds? x = some d) : d.nanoseconds = nanosecondsOf x.rank.toNat := by
  rw [(ofSeconds?_of_nonneg hfin h0).2] at hd
  unfold ofNanoseconds? at hd
  split at hd
  · rw [← Option.some.inj hd]
  · cases hd

/-- The duration of a number from zero on lasts if the number is more than half a nanosecond. -/
theorem nanoseconds_pos_iff (hfin : x.isFinite) (h0 : ofNat 0 ≤ x) {d : Duration}
    (hd : ofSeconds? x = some d) : 0 < d.nanoseconds ↔ leastSeconds ≤ x := by
  obtain ⟨hfits, -⟩ := ofSeconds?_of_nonneg hfin h0
  obtain ⟨hnum, hrank⟩ := zero_le_iff.1 h0
  have hle : leastSeconds ≤ x ↔ leastSeconds.rank.toNat ≤ x.rank.toNat := by
    rw [le_iff]
    simp only [hnum, isNaN_leastSeconds, true_and]
    omega
  rw [hle, ← nanosecondsOf_pos_iff hfits, nanoseconds_eq_of_ofSeconds? hfin h0 hd]

end Duration

end ChassisCooling
