import ChassisCooling.Proofs.Binary.Whole
import ChassisCooling.Proofs.Config.Valid
import ChassisCooling.Proofs.Hwmon.Calls
import ChassisCooling.Proofs.Hwmon.DutyCycle

/-!
# How near a duty cycle is to its speed

Every step from a speed to its duty cycle keeps the order: moving into the range, the quotient, the
product, the nearest whole number, the byte. So the speeds of one duty cycle lie between any speed
that gives a smaller one and any that gives a larger one. For each of the 256 duty cycles there are
two such speeds close to what it reads back as, one below and one above.

* `DutyCycle.ofPercent_mono`: higher speeds have higher duty cycles, or the same.
* `DutyCycle.near_of_ofPercent_eq`: speeds of one duty cycle are near to what it reads back as.
* `FanChannel.exists_speed_of_setSpeed`: what a channel shows after a speed was set.
* `DutyCycle.ofPercent_mono_and_near`: the main result.
-/

namespace ChassisCooling

open Binary

namespace DutyCycle

variable {p q : Single}

/-- Two speeds differ by a fifth of a percent at most. -/
def Near (p q : Single) : Prop := 5 * (p.rank - q.rank).natAbs ≤ Format.single.unit

instance (p q : Single) : Decidable (Near p q) := inferInstanceAs (Decidable (_ ≤ _))

/-! ## The order of speeds -/

theorem clamp_eq_ok_clampPercent (p : Single) : p.clamp (ofNat 0) maxSpeed = .ok (clampPercent p) :=
  clamp_eq_ok (zero_le_ofNat 100)

theorem clampPercent_mem (hp : p.isNaN = false) :
    ofNat 0 ≤ clampPercent p ∧ clampPercent p ≤ maxSpeed := by
  obtain ⟨y, hy, hmem⟩ := clamp_mem (zero_le_ofNat 100) hp
  obtain rfl := Except.ok.inj (hy.symm.trans (clamp_eq_ok_clampPercent p))
  exact hmem

theorem clampPercent_mono (h : p ≤ q) : clampPercent p ≤ clampPercent q := by
  obtain ⟨hzero, hmax⟩ := clampPercent_mem (isNaN_left_of_le h)
  obtain ⟨hzero', hmax'⟩ := clampPercent_mem (isNaN_right_of_le h)
  by_cases hlow : p < ofNat 0
  · rw [show clampPercent p = ofNat 0 from if_pos hlow]
    exact hzero'
  by_cases hhigh : maxSpeed < q
  · have hq : clampPercent q = maxSpeed := by
      unfold clampPercent
      rw [if_neg (not_lt_of_le (Binary.le_trans (zero_le_ofNat 100) (Binary.le_of_lt hhigh))),
        if_pos hhigh]
    rw [hq]
    exact hmax
  · -- Neither is moved.
    have hp : clampPercent p = p := by
      unfold clampPercent
      rw [if_neg hlow, if_neg fun hlt => hhigh (Binary.lt_of_lt_of_le hlt h)]
    have hq : clampPercent q = q := by
      unfold clampPercent
      rw [if_neg fun hlt => hlow (Binary.lt_of_le_of_lt h hlt), if_neg hhigh]
    rwa [hp, hq]

/-- The part of the range that a speed takes. -/
def part (p : Single) : Single := clampPercent p / ofNat 100

theorem part_mono (h : p ≤ q) : part p ≤ part q :=
  div_le_div_right isFinite_maxSpeed (by decide +kernel) (clampPercent_mono h)

theorem isFinite_part (hp : p.isNaN = false) : (part p).isFinite := by
  obtain ⟨hzero, hmax⟩ := clampPercent_mem hp
  have hpos : ofNat 0 < maxSpeed := by decide +kernel
  have hlow : (ofNat 0 / maxSpeed).isFinite := by decide +kernel
  have hhigh : (maxSpeed / maxSpeed).isFinite := by decide +kernel
  exact isFinite_of_le_of_le hlow hhigh (div_le_div_right isFinite_maxSpeed hpos hzero)
    (div_le_div_right isFinite_maxSpeed hpos hmax)

theorem ofPercent_eq (p : Single) :
    ofPercent p = (part p * ofNat maxValue.toNat).roundHalfAway.toByte := rfl

theorem ofPercent_mono (h : p ≤ q) : ofPercent p ≤ ofPercent q := by
  rw [ofPercent_eq, ofPercent_eq]
  apply toByte_le_toByte
  apply roundHalfAway_le_roundHalfAway
  exact mul_le_mul_right (isFinite_part (isNaN_left_of_le h)) (isFinite_part (isNaN_right_of_le h))
    (by decide +kernel) (zero_le_ofNat _) (part_mono h)

theorem ofPercent_zero : ofPercent (ofNat 0) = 0 := by decide +kernel

theorem ofPercent_maxSpeed : ofPercent maxSpeed = maxValue := by decide +kernel

theorem ofPercent_of_le_zero (h : p ≤ ofNat 0) : ofPercent p = 0 := by
  have hle := ofPercent_mono h
  rw [ofPercent_zero] at hle
  exact UInt8.le_antisymm hle (Nat.zero_le _)

theorem ofPercent_of_maxSpeed_le (h : maxSpeed ≤ p) : ofPercent p = maxValue := by
  have hle := ofPercent_mono h
  rw [ofPercent_maxSpeed] at hle
  exact UInt8.le_antisymm (le_maxValue _) hle

/-! ## The speeds of one duty cycle -/

/-- A little less than a fifth of a percent, and more than half of what one duty cycle is. -/
def reach : Single := ofDecimal false 199 (-3)

/-- The speed below what a duty cycle reads back as has a smaller one. -/
theorem below_toPercent (v : UInt8) :
    v = 0 ∨ ofPercent (toPercent v - reach) < v ∧ Near (toPercent v) (toPercent v - reach) :=
  forall_byte (p := fun v => v = 0 ∨ ofPercent (toPercent v - reach) < v ∧
    Near (toPercent v) (toPercent v - reach)) (by decide +kernel) v

/-- The speed above it has a larger one. -/
theorem above_toPercent (v : UInt8) :
    v = maxValue ∨ v < ofPercent (toPercent v + reach) ∧ Near (toPercent v) (toPercent v + reach) :=
  forall_byte (p := fun v => v = maxValue ∨ v < ofPercent (toPercent v + reach) ∧
    Near (toPercent v) (toPercent v + reach)) (by decide +kernel) v

theorem isFinite_reach : reach.isFinite := by decide +kernel

/-- A speed with a smaller duty cycle is lower. -/
theorem lt_of_ofPercent_lt (hp : p.isNaN = false) (hq : q.isNaN = false)
    (h : ofPercent p < ofPercent q) : p < q :=
  lt_of_not_le hp hq fun hle => UInt8.not_lt.2 (ofPercent_mono hle) h

/-- A speed of the range is near to what its duty cycle reads back as: the speeds on both sides have
other duty cycles, or there are none on a side. -/
theorem near_toPercent_ofPercent (h0 : ofNat 0 ≤ p) (h1 : p ≤ maxSpeed) :
    Near (toPercent (ofPercent p)) p := by
  have hp := isNaN_right_of_le h0
  have hback := isFinite_toPercent (ofPercent p)
  have hlow : 5 * ((toPercent (ofPercent p)).rank - p.rank) ≤ Format.single.unit := by
    rcases below_toPercent (ofPercent p) with hv | ⟨hlt, hnear⟩
    · have hrank := (zero_le_iff.1 h0).2
      have hzero : (toPercent 0).rank = 0 := by decide +kernel
      have := Format.single.unit_pos
      rw [hv, hzero]
      omega
    · have hbelow := (lt_of_ofPercent_lt (isNaN_sub hback isFinite_reach) hp hlt).2.2
      unfold Near at hnear
      omega
  have hhigh : 5 * (p.rank - (toPercent (ofPercent p)).rank) ≤ Format.single.unit := by
    rcases above_toPercent (ofPercent p) with hv | ⟨hlt, hnear⟩
    · have hrank := h1.2.2
      have hmax : (toPercent maxValue).rank = maxSpeed.rank := by decide +kernel
      have := Format.single.unit_pos
      rw [hv, hmax]
      omega
    · have habove := (lt_of_ofPercent_lt hp (isNaN_add hback isFinite_reach) hlt).2.2
      unfold Near at hnear
      omega
  unfold Near
  omega

end DutyCycle

/-! ## Channels -/

namespace Hwmon.FanChannel

open Files (Tree)

variable {c c' : FanChannel} {t t' : Tree} {speed : Single}

theorem readText_of_setSpeed (h : c.setSpeed speed t = (.ok (), c', t')) :
    t'.readText c'.dutyPath = .ok (dutyText speed) := by
  rw [setSpeed_eq] at h
  split at h
  · cases h
  · split at h
    · next hwrite =>
      cases h
      exact Tree.readText_of_writeText hwrite
    · cases h

/-- A channel whose speed was set shows what its duty cycle reads back as. -/
theorem speed_of_setSpeed (h : c.setSpeed speed t = (.ok (), c', t')) :
    c'.speed t' = .ok (DutyCycle.toPercent (DutyCycle.ofPercent speed)) := by
  rw [← toOption_eq_some_iff, toOption_speed, duty?_of_readText (readText_of_setSpeed h)]
  rfl

end Hwmon.FanChannel

namespace DutyCycle

open Hwmon (FanChannel)
open Files (Tree)

/-- Duty cycles are in the order of the speeds, infinities included, and the ends of the range and
all beyond them have the ends of the duty cycles. A speed of the range differs by a fifth of a
percent at most from what its duty cycle reads back as, and so does what a channel shows after that
speed was set. -/
theorem ofPercent_mono_and_near :
    (∀ p q : Single, p ≤ q → ofPercent p ≤ ofPercent q) ∧
    (∀ p, p ≤ ofNat 0 → ofPercent p = 0) ∧
    (∀ p, ofNat 100 ≤ p → ofPercent p = 255) ∧
    ∀ p, ofNat 0 ≤ p → p ≤ ofNat 100 →
      Near (toPercent (ofPercent p)) p ∧
      ∀ (c c' : FanChannel) (t t' : Tree), c.setSpeed p t = (.ok (), c', t') →
        ∃ shown, c'.speed t' = .ok shown ∧ shown.isFinite ∧ Near shown p := by
  refine ⟨fun p q => ofPercent_mono, fun p => ofPercent_of_le_zero,
    fun p => ofPercent_of_maxSpeed_le, fun p h0 h1 => ?_⟩
  have hnear := near_toPercent_ofPercent h0 h1
  exact ⟨hnear, fun c c' t t' h =>
    ⟨_, FanChannel.speed_of_setSpeed h, isFinite_toPercent _, hnear⟩⟩

/-- Half speed is below every larger one, and is written as 128, which shows as a little more. -/
theorem ofPercent_mono_and_near_of_half :
    let half : Single := ofNat 50
    let c := FanChannel.ofIndex "pwmfan" "hw" 1
    let t : Tree :=
      ⟨[(["work"], .directory), (["work", "hw"], .directory),
        (["work", "hw", "pwm1"], .file "0".toUTF8)], ["work"]⟩
    ofPercent half ≤ ofPercent (infinity false) ∧ ofPercent (infinity false) = 255 ∧
      ofPercent (infinity true) = 0 ∧ Near (toPercent (ofPercent half)) half ∧
      ∃ (c' : FanChannel) (t' : Tree) (shown : Single), c.setSpeed half t = (.ok (), c', t') ∧
        t'.readText "hw/pwm1" = .ok "128" ∧ c'.speed t' = .ok shown ∧ Near shown half := by
  intro half c t
  obtain ⟨hmono, hzero, hmax, hrange⟩ := ofPercent_mono_and_near
  obtain ⟨hnear, hset⟩ := hrange half (by decide +kernel) (by decide +kernel)
  have hok : (c.setSpeed half t).1 = .ok () := by decide +kernel
  obtain ⟨shown, hshown, -, hshownNear⟩ := hset c _ t _ (Prod.ext hok rfl)
  exact ⟨hmono half (infinity false) (by decide +kernel), hmax (infinity false) (by decide +kernel),
    hzero (infinity true) (by decide +kernel), hnear, _, _, shown, Prod.ext hok rfl,
    by decide +kernel, hshown, hshownNear⟩

end DutyCycle

end ChassisCooling
