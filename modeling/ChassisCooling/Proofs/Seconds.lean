import ChassisCooling.Proofs.Binary.Nearness
import ChassisCooling.Proofs.Duration

/-!
# Durations as seconds

A duration is turned into seconds part by part: the whole seconds, the rest divided by a billion,
and their sum are each rounded. A longer duration still gives no fewer seconds, and what the
roundings take away is a part of it that is far below a nanosecond in the second.

* `Duration.toSeconds_mono`: longer durations give no fewer seconds.
* `Duration.near_toSeconds`: how much the roundings take away.
* `Duration.near_ofSeconds?`: how much the nearest duration takes away.
-/

namespace ChassisCooling

attribute [local instance] naturalPower

open Binary

namespace Duration

variable {d d' : Duration}

/-! ## Whole seconds -/

theorem seconds_lt (d : Duration) : d.seconds < UInt64.size :=
  (Nat.div_lt_iff_lt_mul (by decide)).2 d.in_range

theorem isFinite_secondsBound : secondsBound.isFinite := by decide +kernel

theorem isFinite_ofNat_of_le {n : Nat} (h : n ≤ UInt64.size) : (ofNat n : Double).isFinite :=
  isFinite_of_le_of_le isFinite_ofNat_zero isFinite_secondsBound (zero_le_ofNat n)
    (ofNat_le_ofNat h)

/-- Up to `2 ^ 53` every whole number of seconds is a number of the format. -/
theorem rank_ofNat_of_le {n : Nat} (h : n ≤ 2 ^ Format.double.precision) :
    (ofNat n : Double).rank = (n * Format.double.unit : Nat) := by
  have hfits : 2 ^ Format.double.excess (n * Format.double.unit) ∣ n * Format.double.unit :=
    Format.dvd_excess_of_le h
  have htop : n * Format.double.unit ≤ 2 ^ Format.double.topBits :=
    Nat.le_trans (Nat.mul_le_mul_right _ h) (by decide +kernel)
  have hround := Format.roundSteps_mul hfits Nat.one_pos
  rw [Nat.mul_one] at hround
  rw [rank_ofNat, Format.nearest_natCast, hround, Nat.min_eq_left htop]

theorem le_rank_ofNat {n : Nat} (h : 2 ^ Format.double.precision ≤ n) :
    2 ^ Format.double.precision * Format.double.unit ≤ (ofNat n : Double).rank.toNat := by
  have hle := rank_le_of_le (ofNat_le_ofNat (f := .double) h)
  rw [rank_ofNat_of_le (Nat.le_refl _)] at hle
  omega

/-- A second more makes up for any fraction of a second. -/
theorem whole_add_le {n k : Nat} (h : n < k) (hk : k ≤ UInt64.size) {q : Double} (hq : q.isFinite)
    (h0 : ofNat 0 ≤ q) (h1 : q.rank < Format.double.unit) : ofNat n + q ≤ ofNat k := by
  have hn := isFinite_ofNat_of_le (Nat.le_trans (Nat.le_of_lt h) hk)
  refine ⟨isNaN_add hn hq, isNaN_ofNat k, ?_⟩
  rcases Nat.lt_or_ge n (2 ^ Format.double.precision) with hsmall | hbig
  · -- The next whole second is exact, and the fraction does not reach it.
    have hnext := rank_le_of_le (ofNat_le_ofNat (f := .double) h)
    rw [Nat.succ_eq_add_one, rank_ofNat_of_le hsmall] at hnext
    rw [rank_add hn hq, rank_ofNat_of_le (Nat.le_of_lt hsmall),
      ← nearest_rank_one (isFinite_ofNat_of_le hk)]
    apply Format.nearest_mono _ Nat.one_pos Nat.one_pos
    rw [Nat.succ_mul] at hnext
    push_cast at hnext ⊢
    omega
  · -- The fraction is less than half of the last place, and leaves no trace.
    have hplace := Format.two_mul_unit_le (le_rank_ofNat hbig)
    have hrank := (zero_le_iff.1 h0).2
    rw [rank_add_of_lt hn hq (zero_le_ofNat n) h0 (by omega)]
    exact rank_le_of_le (ofNat_le_ofNat (Nat.le_of_lt h))

/-! ## The two parts -/

/-- The rest as a part of a second. -/
def fraction (d : Duration) : Double := ofNat d.subsecond / ofNat 1000000000

theorem toSeconds_eq (d : Duration) : d.toSeconds = ofNat d.seconds + d.fraction := rfl

theorem nanoseconds_eq (d : Duration) :
    d.nanoseconds = 1000000000 * d.seconds + d.subsecond :=
  (Nat.div_add_mod _ _).symm

theorem subsecond_lt (d : Duration) : d.subsecond < 1000000000 := Nat.mod_lt _ (by decide)

theorem billion_pos :
    (ofNat 1000000000 : Double).isFinite ∧ ofNat 0 < (ofNat 1000000000 : Double) := by
  decide +kernel

theorem fraction_mono (h : d.subsecond ≤ d'.subsecond) : d.fraction ≤ d'.fraction :=
  div_le_div_right billion_pos.1 billion_pos.2 (ofNat_le_ofNat h)

theorem zero_le_fraction (d : Duration) : ofNat 0 ≤ d.fraction :=
  Binary.div_nonneg (zero_le_ofNat _) billion_pos.2
    (isNaN_left_of_le (fraction_mono (Nat.le_refl _)))

/-- The rest is rounded to less than a second. -/
theorem fraction_lt_one (d : Duration) :
    d.fraction.isFinite ∧ d.fraction.rank < Format.double.unit := by
  have most : (ofNat 999999999 / ofNat 1000000000 : Double).isFinite ∧
      (ofNat 999999999 / ofNat 1000000000 : Double).rank < Format.double.unit := by
    decide +kernel
  have hle : d.fraction ≤ ofNat 999999999 / ofNat 1000000000 :=
    div_le_div_right billion_pos.1 billion_pos.2
      (ofNat_le_ofNat (Nat.le_of_lt_succ d.subsecond_lt))
  exact ⟨isFinite_of_le_of_le isFinite_ofNat_zero most.1 d.zero_le_fraction hle,
    Int.lt_of_le_of_lt (rank_le_of_le hle) most.2⟩

theorem toSeconds_le_secondsBound (d : Duration) : d.toSeconds ≤ secondsBound :=
  whole_add_le d.seconds_lt (Nat.le_refl _) d.fraction_lt_one.1 d.zero_le_fraction
    d.fraction_lt_one.2

theorem seconds_le_toSeconds (d : Duration) : ofNat d.seconds ≤ d.toSeconds :=
  le_add_of_nonneg (isFinite_ofNat_of_le (Nat.le_of_lt d.seconds_lt)) d.fraction_lt_one.1
    d.zero_le_fraction

theorem zero_le_toSeconds (d : Duration) : ofNat 0 ≤ d.toSeconds :=
  Binary.le_trans (zero_le_ofNat _) d.seconds_le_toSeconds

theorem isFinite_toSeconds (d : Duration) : d.toSeconds.isFinite :=
  isFinite_of_le_of_le isFinite_ofNat_zero isFinite_secondsBound d.zero_le_toSeconds
    d.toSeconds_le_secondsBound

/-- A longer duration gives no fewer seconds. -/
theorem toSeconds_mono (h : d.nanoseconds ≤ d'.nanoseconds) : d.toSeconds ≤ d'.toSeconds := by
  have hsecs : d.seconds ≤ d'.seconds := Nat.div_le_div_right h
  rcases Nat.lt_or_eq_of_le hsecs with hlt | heq
  · have hle : d.toSeconds ≤ ofNat d'.seconds :=
      whole_add_le hlt (Nat.le_of_lt d'.seconds_lt) d.fraction_lt_one.1 d.zero_le_fraction
        d.fraction_lt_one.2
    exact Binary.le_trans hle d'.seconds_le_toSeconds
  · have hrest : d.subsecond ≤ d'.subsecond := by
      rw [nanoseconds_eq, nanoseconds_eq, heq] at h
      omega
    have hwhole := isFinite_ofNat_of_le (Nat.le_of_lt d'.seconds_lt)
    rw [toSeconds_eq, toSeconds_eq, heq]
    exact Binary.add_le_add hwhole d.fraction_lt_one.1 hwhole d'.fraction_lt_one.1
      (Binary.le_refl (isNaN_ofNat _)) (fraction_mono hrest)

/-! ## What the roundings take away -/

theorem place_le_unit :
    2 ^ (Format.double.precision - 1) * 1000000000 ≤ Format.double.unit := by
  decide +kernel

theorem rank_lt_of_isFinite {x : Double} (hx : x.isFinite) :
    x.rank < (2 ^ Format.double.topBits : Nat) := by
  have := natAbs_rank_lt hx
  omega

theorem near_seconds (d : Duration) :
    ((d.seconds * Format.double.unit : Nat) : Int) * (2 ^ Format.double.precision - 1 : Nat) ≤
      (ofNat d.seconds : Double).rank * (2 ^ Format.double.precision : Nat) := by
  have hfin := isFinite_ofNat_of_le (Nat.le_of_lt d.seconds_lt)
  have hlt := rank_lt_of_isFinite hfin
  rw [rank_ofNat] at hlt ⊢
  have hdigits : d.seconds * Format.double.unit = 0 ∨
      2 ^ (Format.double.precision - 1) * 1 ≤ d.seconds * Format.double.unit := by
    rcases Nat.eq_zero_or_pos d.seconds with h | h
    · exact .inl (by rw [h, Nat.zero_mul])
    · have := place_le_unit
      have := Nat.le_mul_of_pos_left Format.double.unit h
      omega
  have hnear := Format.mul_le_nearest Nat.one_pos hdigits hlt
  rwa [Int.natCast_one, Int.mul_one] at hnear

theorem rank_fraction (d : Duration) :
    d.fraction.rank = Format.double.nearest
      (d.subsecond * Format.double.unit * Format.double.unit : Nat)
      (1000000000 * Format.double.unit) := by
  have hsub : (ofNat d.subsecond : Double).rank = (d.subsecond * Format.double.unit : Nat) :=
    rank_ofNat_of_le (Nat.le_trans (Nat.le_of_lt d.subsecond_lt) (by decide))
  have hbillion : (ofNat 1000000000 : Double).rank = (1000000000 * Format.double.unit : Nat) :=
    rank_ofNat_of_le (by decide)
  have hfin := isFinite_ofNat_of_le (Nat.le_trans (Nat.le_of_lt d.subsecond_lt) (by decide))
  unfold fraction
  rw [rank_div hfin billion_pos.1 billion_pos.2, hsub, hbillion, Int.natAbs_natCast,
    ← Int.natCast_mul]

theorem near_fraction (d : Duration) :
    ((d.subsecond * Format.double.unit : Nat) : Int) * (2 ^ Format.double.precision - 1 : Nat) ≤
      d.fraction.rank * 1000000000 * (2 ^ Format.double.precision : Nat) := by
  have hunit := Format.double.unit_pos
  have hlt := rank_lt_of_isFinite d.fraction_lt_one.1
  rw [rank_fraction] at hlt ⊢
  have hdigits : d.subsecond * Format.double.unit * Format.double.unit = 0 ∨
      2 ^ (Format.double.precision - 1) * (1000000000 * Format.double.unit) ≤
        d.subsecond * Format.double.unit * Format.double.unit := by
    rcases Nat.eq_zero_or_pos d.subsecond with h | h
    · exact .inl (by rw [h, Nat.zero_mul, Nat.zero_mul])
    · rw [← Nat.mul_assoc]
      refine .inr (Nat.mul_le_mul_right _ (Nat.le_trans place_le_unit ?_))
      exact Nat.le_mul_of_pos_left _ h
  have hnear := Format.mul_le_nearest (Nat.mul_pos (by decide) hunit) hdigits hlt
  generalize Format.double.nearest _ _ = q at *
  generalize 2 ^ Format.double.precision - 1 = kept at *
  generalize 2 ^ Format.double.precision = parts at *
  generalize Format.double.unit = u at *
  apply Int.le_of_mul_le_mul_right _ (Int.natCast_pos.2 hunit)
  calc ((d.subsecond * u : Nat) : Int) * kept * u = ((d.subsecond * u * u : Nat) : Int) * kept := by
        push_cast
        ring
    _ ≤ q * (1000000000 * u : Nat) * parts := hnear
    _ = q * 1000000000 * parts * u := by
        push_cast
        ring

/-- A duration that lasts has seconds with all significant digits. -/
theorem parts_big (d : Duration) : d.nanoseconds = 0 ∨
    (2 ^ (Format.double.precision - 1) : Nat) ≤
      (ofNat d.seconds : Double).rank + d.fraction.rank := by
  have hsecs := (zero_le_iff.1 (zero_le_ofNat (f := .double) d.seconds)).2
  have hrest := (zero_le_iff.1 d.zero_le_fraction).2
  have least : ((2 ^ (Format.double.precision - 1) : Nat) : Int) ≤ (ofNat 1 : Double).rank ∧
      ((2 ^ (Format.double.precision - 1) : Nat) : Int) ≤
        (ofNat 1 / ofNat 1000000000 : Double).rank := by
    decide +kernel
  rcases Nat.eq_zero_or_pos d.nanoseconds with h | h
  · exact .inl h
  · right
    rcases Nat.eq_zero_or_pos d.seconds with h0 | hpos
    · have hsub : 1 ≤ d.subsecond := by
        rw [nanoseconds_eq, h0] at h
        omega
      have hle : (ofNat 1 / ofNat 1000000000 : Double) ≤ d.fraction :=
        div_le_div_right billion_pos.1 billion_pos.2 (ofNat_le_ofNat hsub)
      have := rank_le_of_le hle
      omega
    · have := rank_le_of_le (ofNat_le_ofNat (f := .double) (m := 1) hpos)
      have := least.1
      omega

theorem near_sum (d : Duration) : d.nanoseconds = 0 ∨
    ((ofNat d.seconds : Double).rank + d.fraction.rank) * (2 ^ Format.double.precision - 1 : Nat) ≤
      d.toSeconds.rank * (2 ^ Format.double.precision : Nat) := by
  have hsecs := (zero_le_iff.1 (zero_le_ofNat (f := .double) d.seconds)).2
  have hrest := (zero_le_iff.1 d.zero_le_fraction).2
  have hlt := rank_lt_of_isFinite d.isFinite_toSeconds
  have hwhole := isFinite_ofNat_of_le (Nat.le_of_lt d.seconds_lt)
  rw [toSeconds_eq, rank_add hwhole d.fraction_lt_one.1] at hlt ⊢
  refine d.parts_big.imp_right fun hbig => ?_
  obtain ⟨n, hn⟩ := Int.eq_ofNat_of_zero_le (Int.add_nonneg hsecs hrest)
  rw [hn] at hbig hlt ⊢
  have hnear := Format.mul_le_nearest Nat.one_pos (.inr (by omega)) hlt
  rwa [Int.natCast_one, Int.mul_one] at hnear

/-- The seconds are the outcome of two roundings in a row, each of which keeps all but one part in
`2 ^ 53`. -/
theorem near_toSeconds (d : Duration) :
    ((d.nanoseconds * Format.double.unit : Nat) : Int) * (2 ^ 53 - 1) * (2 ^ 53 - 1) ≤
      d.toSeconds.rank * 1000000000 * 2 ^ 53 * 2 ^ 53 := by
  have hsecs := d.near_seconds
  have hrest := d.near_fraction
  have hsplit : d.nanoseconds * Format.double.unit =
      1000000000 * (d.seconds * Format.double.unit) + d.subsecond * Format.double.unit := by
    rw [nanoseconds_eq, Nat.add_mul, Nat.mul_assoc]
  rcases d.near_sum with h | hsum
  · have hrank := (zero_le_iff.1 d.zero_le_toSeconds).2
    rw [h]
    omega
  · rw [hsplit]
    rw [show 2 ^ Format.double.precision = 9007199254740992 from rfl] at hsecs hrest hsum
    generalize d.seconds * Format.double.unit = v at *
    generalize d.subsecond * Format.double.unit = w at *
    generalize (ofNat d.seconds : Double).rank = a at *
    generalize d.fraction.rank = b at *
    omega

/-! ## The nearest duration -/

variable {x : Double}

/-- The duration nearest to some seconds is no more than half a nanosecond too short. -/
theorem near_ofSeconds? (hfin : x.isFinite) (h0 : ofNat 0 ≤ x) (hd : ofSeconds? x = some d) :
    2 * (x.rank * 1000000000) ≤ (2 * (d.nanoseconds * Format.double.unit : Nat) : Int) +
      Format.double.unit := by
  have hrank := (zero_le_iff.1 h0).2
  have hhalf := two_mul_le_divideToEven (x.rank.toNat * 1000000000) Format.double.unit_pos
  rw [nanoseconds_eq_of_ofSeconds? hfin h0 hd]
  unfold nanosecondsOf
  generalize divideToEven (x.rank.toNat * 1000000000) Format.double.unit = n at *
  generalize Format.double.unit = u at *
  rw [Nat.add_mul, Nat.one_mul, Nat.mul_assoc] at hhalf
  omega

/-- The seconds of the duration nearest to a fiftieth of a second or more are the same seconds, but
for one part in `2 ^ 25`. -/
theorem near_toSeconds_of_ofSeconds? (hfin : x.isFinite) (h0 : ofNat 0 ≤ x)
    (hd : ofSeconds? x = some d) (hx : (Format.double.unit : Int) ≤ 51 * x.rank) :
    33554431 * x.rank ≤ d.toSeconds.rank * 33554432 := by
  have hnear := near_ofSeconds? hfin h0 hd
  have hsecs := d.near_toSeconds
  generalize d.nanoseconds * Format.double.unit = n at *
  omega

/-- Of two numbers that have a duration the larger one has the longer duration. -/
theorem ofSeconds?_mono {y : Double} (hx : x.isFinite) (hy : y.isFinite) (h0 : ofNat 0 ≤ x)
    (h : x ≤ y) (hd : ofSeconds? x = some d) (hd' : ofSeconds? y = some d') :
    d.nanoseconds ≤ d'.nanoseconds := by
  rw [nanoseconds_eq_of_ofSeconds? hx h0 hd,
    nanoseconds_eq_of_ofSeconds? hy (Binary.le_trans h0 h) hd']
  have hunit := Format.double.unit_pos
  apply divideToEven_mono hunit hunit
  apply Nat.mul_le_mul_right
  apply Nat.mul_le_mul_right
  exact Int.toNat_le_toNat h.2.2

end Duration

end ChassisCooling
