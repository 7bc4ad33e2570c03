import ChassisCooling.Control.Controller
import ChassisCooling.Proofs.Config.Load
import ChassisCooling.Proofs.Duration

/-!
# Tick periods

A configuration is accepted with any positive finite tick period. Not every such period can be
waited for: from `2 ^ 64` seconds on it is no duration, and up to half a nanosecond it is none at
all. Between the two every accepted configuration can be run.

* `Config.Accepted`: checked, loaded, or taken by a controller.
* `Controller.create_eq_invalidInterval_iff`: when the period keeps a controller from being made.
* `Config.waitable_iff_of_accepted`: the periods that can be waited for.
* `Config.accepted_not_waitable`: two that cannot.
-/

namespace ChassisCooling

open Binary

namespace Config

variable {c : Config}

/-- The ways to find a configuration accepted. -/
inductive Accepted (c : Config) : Prop where
  | checked (h : c.validate = .ok ())
  | loaded (t : Files.Tree) (path : String) (h : load t path = .ok c)
  | taken {Probe Drive Outlet : Type} (before after : Controller Probe Drive Outlet)
      (h : before.reconfigure c = .ok after)

/-- The tick period is a duration, and not an empty one. -/
def Waitable (c : Config) : Prop := ∃ d, c.interval = .ok d ∧ 0 < d.nanoseconds

/-! ## Accepted configurations are valid -/

theorem Accepted.valid (hc : c.Accepted) : c.Valid := by
  rw [← validate_eq_ok_iff]
  cases hc with
  | checked h => exact h
  | loaded t path h => exact validate_of_load h
  | taken before after h =>
    unfold Controller.reconfigure at h
    rw [check_bind_eq_ok_iff] at h
    exact h.1

/-! ## The two bounds -/

theorem interval_eq_ok_iff {d : Duration} :
    c.interval = .ok d ↔ Duration.ofSeconds? c.intervalSecs = some d := by
  unfold interval
  split
  · next d' h => rw [h, Except.ok.injEq, Option.some.injEq]
  · next h =>
    rw [h]
    simp only [reduceCtorEq]

theorem exists_interval_iff (hc : c.Valid) :
    (∃ d, c.interval = .ok d) ↔ c.intervalSecs < Duration.secondsBound := by
  simp only [interval_eq_ok_iff]
  exact Duration.exists_ofSeconds?_iff hc.intervalSecs_finite (Binary.le_of_lt hc.intervalSecs_pos)

theorem interval_eq_error_iff (hc : c.Valid) :
    c.interval = .error .invalidInterval ↔ Duration.secondsBound ≤ c.intervalSecs := by
  have hnum := isNaN_of_isFinite hc.intervalSecs_finite
  have hiff := exists_interval_iff hc
  unfold interval at hiff ⊢
  split at hiff
  · next d _ =>
    simp only [reduceCtorEq, false_iff]
    exact not_le_of_lt (hiff.1 ⟨d, rfl⟩)
  · simp only [true_iff]
    apply le_of_not_lt Duration.isNaN_secondsBound hnum
    intro hlt
    obtain ⟨d, hd⟩ := hiff.2 hlt
    cases hd

end Config

namespace Controller

variable {Probe Drive Outlet : Type}

/-- Only a period that is no duration keeps a controller from being made for its period. -/
theorem create_eq_invalidInterval_iff {c : Config} (hc : c.Valid) :
    (create c : Except Refusal (Controller Probe Drive Outlet)) =
        .error (.breach .invalidInterval) ↔
      History.reservable c.historyCapacity ∧ Duration.secondsBound ≤ c.intervalSecs := by
  have hvalid := Config.validate_eq_ok_iff.2 hc
  rw [← Config.interval_eq_error_iff hc]
  unfold create Zone.create History.create
  rw [hvalid]
  by_cases hroom : History.reservable c.historyCapacity
  · rw [if_pos hroom]
    cases hinterval : c.interval with
    | ok d => simp [bind, Except.bind, Except.mapError, pure, Except.pure, hroom]
    | error b => simp [bind, Except.bind, Except.mapError, pure, Except.pure, hroom]
  · rw [if_neg hroom]
    simp [bind, Except.bind, Except.mapError, hroom]

end Controller

namespace Config

/-- An accepted configuration can be waited for if its period is more than half a nanosecond and
below `2 ^ 64` seconds. From there on no controller is made for it, if not for lack of room. -/
theorem waitable_iff_of_accepted {Probe Drive Outlet : Type} {c : Config} (hc : c.Accepted) :
    (c.Waitable ↔
        Duration.leastSeconds ≤ c.intervalSecs ∧ c.intervalSecs < Duration.secondsBound) ∧
      ((Controller.create c : Except Refusal (Controller Probe Drive Outlet)) =
          .error (.breach .invalidInterval) ↔
        History.reservable c.historyCapacity ∧ Duration.secondsBound ≤ c.intervalSecs) := by
  have hc := hc.valid
  refine ⟨?_, Controller.create_eq_invalidInterval_iff hc⟩
  have hpos : ∀ d, c.interval = .ok d →
      (0 < d.nanoseconds ↔ Duration.leastSeconds ≤ c.intervalSecs) := by
    intro d hd
    exact Duration.nanoseconds_pos_iff hc.intervalSecs_finite
      (Binary.le_of_lt hc.intervalSecs_pos) (interval_eq_ok_iff.1 hd)
  constructor
  · rintro ⟨d, hd, hlong⟩
    exact ⟨(hpos d hd).1 hlong, (exists_interval_iff hc).1 ⟨d, hd⟩⟩
  · rintro ⟨hleast, hbound⟩
    obtain ⟨d, hd⟩ := (exists_interval_iff hc).2 hbound
    exact ⟨d, hd, (hpos d hd).2 hleast⟩

/-- The shortest period that can be waited for. -/
theorem waitable_leastSeconds :
    let c := { Config.default with intervalSecs := Duration.leastSeconds }
    c.Accepted ∧ c.Waitable := by
  intro c
  have hc : c.Accepted := by
    apply Accepted.checked
    rw [validate_eq_ok_iff]
    constructor <;> decide +kernel
  have hiff := @waitable_iff_of_accepted Unit Unit Unit c hc
  exact ⟨hc, hiff.1.2 ⟨by decide +kernel, by decide +kernel⟩⟩

/-- A period of `10 ^ 20` seconds is accepted, but is no duration, so that no controller is made;
one of a tenth of a nanosecond is accepted, and is no time at all. -/
theorem accepted_not_waitable :
    let long := { Config.default with intervalSecs := ofDecimal false 1 20 }
    let short := { Config.default with intervalSecs := ofDecimal false 1 (-10) }
    (long.validate = .ok () ∧ long.interval = .error .invalidInterval ∧
        (Controller.create long : Except Refusal (Controller Unit Unit Unit)) =
          .error (.breach .invalidInterval)) ∧
      short.validate = .ok () ∧ short.interval = .ok .zero := by
  intro long short
  have hlong : long.Valid := by constructor <;> decide +kernel
  have hshort : short.Valid := by constructor <;> decide +kernel
  have hbound : Duration.secondsBound ≤ long.intervalSecs := by decide +kernel
  refine ⟨⟨validate_eq_ok_iff.2 hlong, (interval_eq_error_iff hlong).2 hbound, ?_⟩,
    validate_eq_ok_iff.2 hshort, ?_⟩
  · exact (Controller.create_eq_invalidInterval_iff hlong).2 ⟨by decide +kernel, hbound⟩
  · rw [interval_eq_ok_iff]
    decide +kernel

end Config

end ChassisCooling
