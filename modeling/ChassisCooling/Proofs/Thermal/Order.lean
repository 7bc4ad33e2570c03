import ChassisCooling.Proofs.Thermal.Warmer

/-!
# The order of readings

An aggregate judges each reading by itself, so the order of its readings decides only the order of
its snapshots. Of these it picks the first of highest `deltap`: in another order it may pick another
one, but none of another `deltap`.

* `Reading.Plain`: a reading without anything that is not finite.
* `Aggregate.overheat_of_perm`, `Aggregate.snapshots_of_perm`: flag and snapshots.
* `Aggregate.choose_of_perm`: the chosen snapshots.
-/

namespace ChassisCooling

open Binary

/-- Thresholds and target are finite as far as there are any, and so is the temperature. -/
structure Reading.Plain (r : Reading) : Prop where
  temperature_finite : ∀ x ∈ r.temperature, x.isFinite
  overheat_finite : ∀ x ∈ r.limits.overheat, x.isFinite
  critical_finite : ∀ x ∈ r.limits.critical, x.isFinite
  target_finite : ∀ x ∈ r.limits.target, x.isFinite

/-- A plain reading is as warm as itself. -/
theorem Reading.Plain.warmer {r : Reading} (h : r.Plain) : r.Warmer r := by
  refine ⟨rfl, rfl, ?_, h.overheat_finite, h.critical_finite, h.target_finite⟩
  cases htemp : r.temperature with
  | none => exact .none
  | some x =>
    have hx := h.temperature_finite x htemp
    exact .some ⟨hx, hx, Binary.le_refl (isNaN_of_isFinite hx)⟩

namespace Aggregate

variable {c : Config} {rs rs' : List Reading}

theorem overheat_of_perm (c : Config) (h : rs.Perm rs') :
    ((forConfig c).processAll rs).overheat = ((forConfig c).processAll rs').overheat := by
  rw [overheat_processAll_forConfig, overheat_processAll_forConfig, h.any_eq]

theorem snapshots_of_perm (c : Config) (h : rs.Perm rs') :
    ((forConfig c).processAll rs).snapshots.Perm ((forConfig c).processAll rs').snapshots := by
  rw [snapshots_processAll_forConfig, snapshots_processAll_forConfig]
  exact h.filterMap _

/-- The way from target to ceiling is finite and not zero, so there is a `deltap`. -/
theorem isNaN_deltap_of_plain (hc : c.Valid) (hplain : ∀ r ∈ rs, r.Plain) :
    ∀ s ∈ ((forConfig c).processAll rs).snapshots, s.deltap.isNaN = false := by
  intro s hs
  rw [snapshots_processAll_forConfig, List.mem_filterMap] at hs
  obtain ⟨r, hr, hsnap⟩ := hs
  have hself := snapshot?_of_warmer hc (hplain r hr).warmer
  rw [hsnap, Option.rel_some_some] at hself
  exact isNaN_left_of_le hself

/-- Two aggregates of the same snapshots, in different orders, choose the same highest `deltap`. -/
theorem choose_of_perm {a a' : Aggregate} (h : a.snapshots.Perm a'.snapshots)
    (hnum : ∀ t ∈ a.snapshots, t.deltap.isNaN = false) :
    Option.Rel (fun s s' => s.deltap.numEq s'.deltap) a.choose a'.choose := by
  have hnum' : ∀ t ∈ a'.snapshots, t.deltap.isNaN = false := fun t ht => hnum t (h.mem_iff.2 ht)
  have hempty : a.choose = none ↔ a'.choose = none := by
    rw [choose_eq_none_iff, choose_eq_none_iff, ← List.length_eq_zero_iff,
      ← List.length_eq_zero_iff, h.length_eq]
  cases hs : a.choose with
  | none =>
    rw [hempty.1 hs]
    exact .none
  | some s =>
    cases hs' : a'.choose with
    | none =>
      rw [hempty.2 hs'] at hs
      cases hs
    | some s' =>
      -- Each of the two is a member of the other list, and the other choice is highest there.
      have hle := deltap_le_of_choose hs' hnum' s (h.mem_iff.1 (choose_mem hs))
      have hge := deltap_le_of_choose hs hnum s' (h.mem_iff.2 (choose_mem hs'))
      exact .some (numEq_iff.2 ⟨hle, hge⟩)

end Aggregate

end ChassisCooling
