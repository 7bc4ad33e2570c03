import ChassisCooling.Config.Basic
import ChassisCooling.Proofs.Binary.Arithmetic
import ChassisCooling.Proofs.Success

/-!
# Valid configurations

`Config.Valid` lists what is known of a configuration that passed its checks.

* `Config.validate_eq_ok_iff`: the checks accept exactly the valid configurations.
-/

namespace ChassisCooling

open Binary

theorem isFinite_maxSpeed : maxSpeed.isFinite := by decide +kernel

theorem isNaN_maxSpeed : maxSpeed.isNaN = false := isNaN_of_isFinite isFinite_maxSpeed

namespace Config

/-- A configuration in which every field is in range. -/
structure Valid (c : Config) : Prop where
  minSpeed_nonneg : ofNat 0 ≤ c.minSpeed
  minSpeed_le : c.minSpeed ≤ maxSpeed
  maxDecrease_finite : c.maxDecrease.isFinite
  maxDecrease_nonneg : ofNat 0 ≤ c.maxDecrease
  maxIncrease_finite : c.maxIncrease.isFinite
  maxIncrease_nonneg : ofNat 0 ≤ c.maxIncrease
  targetOffset_finite : c.targetOffset.isFinite
  deadbandLow_finite : c.deadbandLow.isFinite
  deadbandHigh_finite : c.deadbandHigh.isFinite
  deadbandLow_le : c.deadbandLow ≤ c.deadbandHigh
  le_historyCapacity : minHistoryCapacity ≤ c.historyCapacity
  intervalSecs_finite : c.intervalSecs.isFinite
  intervalSecs_pos : ofNat 0 < c.intervalSecs
  targetFactor_pos : ofNat 0 < c.targetFactor
  targetFactor_le : c.targetFactor ≤ ofNat 1
  sensorTargets_finite : ∀ entry ∈ c.sensorTargets.entries, entry.2.isFinite

theorem Valid.isNaN_minSpeed {c : Config} (hc : c.Valid) : c.minSpeed.isNaN = false :=
  isNaN_left_of_le hc.minSpeed_le

theorem Valid.isNaN_maxIncrease {c : Config} (hc : c.Valid) : c.maxIncrease.isNaN = false :=
  isNaN_right_of_le hc.maxIncrease_nonneg

theorem Valid.withCapacity {c : Config} (hc : c.Valid) {capacity : Nat}
    (h : minHistoryCapacity ≤ capacity) : ({ c with historyCapacity := capacity } : Config).Valid :=
  { hc with le_historyCapacity := h }

/-- Nothing is asked of where rows go. -/
theorem Valid.withExport {c : Config} (hc : c.Valid) (exportPath : Option String)
    (simulation : Bool) : ({ c with exportPath, simulation } : Config).Valid :=
  { hc with }

theorem Valid.withTargets {c : Config} (hc : c.Valid) {sensorTargets : Targets Single}
    (h : ∀ entry ∈ sensorTargets.entries, entry.2.isFinite) :
    ({ c with sensorTargets } : Config).Valid :=
  { hc with sensorTargets_finite := h }

/-! ## Single checks -/

theorem checkPercentage_ok_iff {field : String} {x : Single} :
    (∃ y, checkPercentage field x = .ok y) ↔ ofNat 0 ≤ x ∧ x ≤ maxSpeed := by
  unfold checkPercentage
  split
  · next h => exact ⟨fun _ => h.2, fun _ => ⟨x, rfl⟩⟩
  · next h =>
    constructor
    · rintro ⟨y, hy⟩
      cases hy
    · intro hx
      exact absurd ⟨isFinite_of_le_of_le isFinite_ofNat_zero isFinite_maxSpeed hx.1 hx.2, hx⟩ h

theorem checkNonNegative_ok_iff {field : String} {x : Single} :
    (∃ y, checkNonNegative field x = .ok y) ↔ x.isFinite ∧ ofNat 0 ≤ x := by
  unfold checkNonNegative
  split
  · next h =>
    exact ⟨fun _ => ⟨h.1, le_of_not_lt (isNaN_ofNat 0) (isNaN_of_isFinite h.1) h.2⟩,
      fun _ => ⟨x, rfl⟩⟩
  · next h =>
    constructor
    · rintro ⟨y, hy⟩
      cases hy
    · intro hx
      exact absurd ⟨hx.1, not_lt_of_le hx.2⟩ h

theorem checkPositive_ok_iff {field : String} {x : Double} :
    (∃ y, checkPositive field x = .ok y) ↔ x.isFinite ∧ ofNat 0 < x := by
  unfold checkPositive
  split
  · next h =>
    exact ⟨fun _ => ⟨h.1, lt_of_not_le (isNaN_ofNat 0) (isNaN_of_isFinite h.1) h.2⟩,
      fun _ => ⟨x, rfl⟩⟩
  · next h =>
    constructor
    · rintro ⟨y, hy⟩
      cases hy
    · intro hx
      exact absurd ⟨hx.1, not_le_of_lt hx.2⟩ h

theorem require_eq_ok_iff {p : Prop} [Decidable p] {problem : Problem} :
    require p problem = .ok () ↔ p := by
  unfold require
  split <;> simp [*]

theorem checkTargets_eq_ok_iff {entries : List (String × Single)} :
    checkTargets entries = .ok () ↔ ∀ entry ∈ entries, entry.2.isFinite := by
  induction entries with
  | nil => simp [checkTargets]
  | cons entry rest ih =>
    rw [checkTargets, check_bind_eq_ok_iff, require_eq_ok_iff, ih]
    simp only [List.mem_cons, forall_eq_or_imp]

/-! ## All checks -/

theorem check_eq_ok_iff {c : Config} : c.check = .ok () ↔ c.Valid := by
  unfold check
  simp only [check_bind_eq_ok_iff, discard_eq_ok_iff, checkPercentage_ok_iff,
    checkNonNegative_ok_iff, checkPositive_ok_iff, require_eq_ok_iff, checkTargets_eq_ok_iff]
  constructor
  · rintro ⟨⟨h0, h1⟩, ⟨h2, h3⟩, ⟨h4, h5⟩, h6, ⟨h7, h8⟩, h9, h10, ⟨h11, h12⟩, ⟨h13, h14⟩, h15⟩
    have hband := le_of_not_lt (isNaN_of_isFinite h7) (isNaN_of_isFinite h8) h9
    exact ⟨h0, h1, h2, h3, h4, h5, h6, h7, h8, hband, h10, h11, h12, h13, h14, h15⟩
  · intro h
    exact ⟨⟨h.minSpeed_nonneg, h.minSpeed_le⟩, ⟨h.maxDecrease_finite, h.maxDecrease_nonneg⟩,
      ⟨h.maxIncrease_finite, h.maxIncrease_nonneg⟩, h.targetOffset_finite,
      ⟨h.deadbandLow_finite, h.deadbandHigh_finite⟩, not_lt_of_le h.deadbandLow_le,
      h.le_historyCapacity, ⟨h.intervalSecs_finite, h.intervalSecs_pos⟩,
      ⟨h.targetFactor_pos, h.targetFactor_le⟩, h.sensorTargets_finite⟩

/-- The checks accept exactly the valid configurations. -/
theorem validate_eq_ok_iff {c : Config} : c.validate = .ok () ↔ c.Valid := by
  unfold validate
  rw [mapError_eq_ok_iff, check_eq_ok_iff]

/-- The defaults pass the checks. -/
theorem validate_default : default.validate = .ok () := by
  rw [validate_eq_ok_iff]
  constructor <;> decide +kernel

end Config

end ChassisCooling
