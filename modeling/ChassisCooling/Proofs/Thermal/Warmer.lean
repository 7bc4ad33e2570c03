import ChassisCooling.Proofs.Config.Valid
import ChassisCooling.Proofs.Lookup
import ChassisCooling.Proofs.Pointwise
import ChassisCooling.Proofs.Thermal.Aggregate

/-!
# Warmer readings

The same sensors at two moments, each of them as warm or warmer at the second. Their targets and
ceilings are then the same, so that nothing but the temperature differs.

* `Reading.Warmer`: the relation.
* `Aggregate.overheat_of_warmer`: an overheat flag stays raised.
* `Aggregate.choose_of_warmer`: the chosen sensor's `deltap` does not fall.
-/

namespace ChassisCooling

open Binary

/-- The same sensor with the same finite thresholds and target, and with a temperature that is as
high or higher, if it has one at all. -/
structure Reading.Warmer (r r' : Reading) : Prop where
  name : r'.name = r.name
  limits : r'.limits = r.limits
  temperature : Option.Rel (fun x x' => x.isFinite ∧ x'.isFinite ∧ x ≤ x')
    r.temperature r'.temperature
  overheat_finite : ∀ x ∈ r.limits.overheat, x.isFinite
  critical_finite : ∀ x ∈ r.limits.critical, x.isFinite
  target_finite : ∀ x ∈ r.limits.target, x.isFinite

/-- The same target and finite ceiling, and a finite temperature that is as high or higher. -/
structure Placement.Warmer (p p' : Placement) : Prop where
  target : p'.target = p.target
  ceiling : p'.ceiling = p.ceiling
  value_finite : p.value.isFinite
  value_finite' : p'.value.isFinite
  value_le : p.value ≤ p'.value
  target_number : p.target.isNaN = false
  ceiling_finite : p.ceiling.isFinite
  target_pos : ofNat 0 < p.target

namespace Aggregate

variable {c : Config}

/-! ## Single readings -/

theorem isFinite_baseTarget (hc : c.Valid) (name : String) {own : Option Single} {overheat : Single}
    (hown : ∀ x ∈ own, x.isFinite) (hover : overheat.isFinite) :
    ((forConfig c).baseTarget name own overheat).isFinite := by
  show ((((c.sensorTargets.get? name).or own).getD (c.targetFactor * overheat))).isFinite
  cases hget : c.sensorTargets.get? name with
  | some x =>
    exact hc.sensorTargets_finite (name, x) (mem_of_lookup hget)
  | none =>
    cases own with
    | some x => exact hown x rfl
    | none =>
      have one : (ofNat 1 : Single).isFinite ∧ (ofNat 1 : Single).rank = Format.single.unit := by
        decide +kernel
      have hle := hc.targetFactor_le
      have hpos := Binary.le_of_lt hc.targetFactor_pos
      have hfin := isFinite_of_le_of_le isFinite_ofNat_zero one.1 hpos hle
      show (c.targetFactor * overheat).isFinite
      rw [Binary.mul_comm]
      exact isFinite_mul_of_le_one hover hfin hpos (by have := rank_le_of_le hle; omega)

/-- A warmer reading stands at the same target and ceiling, or nowhere if the first one does. -/
theorem place?_of_warmer (hc : c.Valid) {r r' : Reading} (h : r.Warmer r') :
    Option.Rel Placement.Warmer ((forConfig c).place? r) ((forConfig c).place? r') := by
  obtain ⟨name, temperature, overheat, critical, own⟩ := r
  obtain ⟨name', temperature', limits'⟩ := r'
  obtain ⟨hname, hlimits, htemp, hover, hcrit, hown⟩ := h
  obtain rfl : name' = name := hname
  obtain rfl : limits' = ⟨overheat, critical, own⟩ := hlimits
  cases htemp with
  | none => exact .none
  | @some value value' hvalue =>
    cases overheat with
    | none => exact .none
    | some overheat =>
      cases critical with
      | none => exact .none
      | some critical =>
        have hbase := isFinite_baseTarget hc name' hown (hover overheat rfl)
        have hceil := isFinite_minNum (hover overheat rfl) (hcrit critical rfl)
        have hnum := isNaN_add hbase hc.targetOffset_finite
        unfold place?
        simp only
        -- Whether the reading stands anywhere depends on target and ceiling only.
        split
        · exact .none
        · next hpos =>
          rw [not_or] at hpos
          exact .some ⟨rfl, rfl, hvalue.1, hvalue.2.1, hvalue.2.2, hnum, hceil,
            lt_of_not_le (isNaN_ofNat 0) hnum hpos.1⟩

theorem raisesFlag_of_warmer (hc : c.Valid) {r r' : Reading} (h : r.Warmer r')
    (hflag : (forConfig c).raisesFlag r = true) : (forConfig c).raisesFlag r' = true := by
  have hplace := place?_of_warmer hc h
  unfold raisesFlag at hflag ⊢
  cases hp : (forConfig c).place? r with
  | none => simp [hp] at hflag
  | some p =>
    cases hp' : (forConfig c).place? r' with
    | none => simp [hp, hp'] at hplace
    | some p' =>
      rw [hp, hp', Option.rel_some_some] at hplace
      simp only [hp, Option.any_some, decide_eq_true_eq] at hflag
      simp only [Option.any_some, decide_eq_true_eq]
      rw [hplace.ceiling]
      exact Binary.lt_of_lt_of_le hflag hplace.value_le

/-- Below a finite ceiling the way from target to ceiling is finite. -/
theorem isFinite_gap {target ceiling : Single} (hceil : ceiling.isFinite)
    (h0 : ofNat 0 < target) (h : target < ceiling) :
    target.isFinite ∧ (ceiling - target).isFinite := by
  have htarget :=
    isFinite_of_le_of_le isFinite_ofNat_zero hceil (Binary.le_of_lt h0) (Binary.le_of_lt h)
  have hneg : (-target).isFinite := by simpa using htarget
  have hnonpos : -target ≤ ofNat 0 := by
    have := (Binary.zero_lt_iff.1 h0).2
    rw [Binary.le_zero_iff, isNaN_neg, rank_neg]
    exact ⟨isNaN_of_isFinite htarget, by omega⟩
  have hle : ceiling - target ≤ ceiling := add_le_of_nonpos hceil hneg hnonpos
  have hpos := Binary.le_of_lt (Binary.sub_pos h)
  exact ⟨htarget, isFinite_of_le_of_le isFinite_ofNat_zero hceil hpos hle⟩

/-- A warmer reading leaves a snapshot if the first one does, with a `deltap` as high or higher. -/
theorem snapshot?_of_warmer (hc : c.Valid) {r r' : Reading} (h : r.Warmer r') :
    Option.Rel (fun s s' => s.deltap ≤ s'.deltap)
      ((forConfig c).snapshot? r) ((forConfig c).snapshot? r') := by
  have hplace := place?_of_warmer hc h
  unfold snapshot?
  generalize (forConfig c).place? r = q at hplace ⊢
  generalize (forConfig c).place? r' = q' at hplace ⊢
  cases hplace with
  | none => exact .none
  | @some p p' hp =>
    simp only [Option.bind_some, hp.target, hp.ceiling]
    split
    · exact .none
    · next hc =>
      have hlt := lt_of_not_le hp.target_number (isNaN_of_isFinite hp.ceiling_finite) hc
      obtain ⟨htarget, hgap⟩ := isFinite_gap hp.ceiling_finite hp.target_pos hlt
      apply Option.Rel.some
      show (p.value - p.target) / (p.ceiling - p.target) ≤
        (p'.value - p.target) / (p.ceiling - p.target)
      apply div_le_div_right hgap (Binary.sub_pos hlt)
      exact Binary.sub_le_sub_right hp.value_finite hp.value_finite' htarget hp.value_le

/-! ## Lists of readings -/

variable {rs rs' : List Reading}

theorem overheat_of_warmer (hc : c.Valid) (h : List.Forall₂ Reading.Warmer rs rs')
    (hhot : ((forConfig c).processAll rs).overheat = true) :
    ((forConfig c).processAll rs').overheat = true := by
  rw [overheat_processAll_forConfig] at hhot ⊢
  induction h with
  | nil => exact hhot
  | cons hr _ ih =>
    rw [List.any_cons, Bool.or_eq_true] at hhot ⊢
    exact hhot.imp (raisesFlag_of_warmer hc hr) ih

/-- The first highest `deltap` of a list does not fall where no member of the list falls. -/
theorem choose_of_forall₂ {a a' : Aggregate}
    (h : List.Forall₂ (fun s s' => s.deltap ≤ s'.deltap) a.snapshots a'.snapshots) :
    Option.Rel (fun s s' => s.deltap ≤ s'.deltap) a.choose a'.choose := by
  have hlen := h.length_eq
  have hnum' : ∀ t ∈ a'.snapshots, t.deltap.isNaN = false := by
    intro t ht
    obtain ⟨s, -, hs⟩ := exists_of_forall₂_of_mem h.flip ht
    exact isNaN_right_of_le hs
  cases hs : a.choose with
  | none =>
    rw [choose_eq_none_iff] at hs
    have hs' : a'.choose = none := by
      rw [choose_eq_none_iff, ← List.length_eq_zero_iff, ← hlen, hs]
      rfl
    rw [hs']
    exact .none
  | some s =>
    -- The partner of the chosen snapshot is a lower bound for the one chosen at the second moment.
    obtain ⟨t, ht, hst⟩ := exists_of_forall₂_of_mem h (choose_mem hs)
    cases hs' : a'.choose with
    | none =>
      rw [choose_eq_none_iff] at hs'
      rw [hs'] at ht
      cases ht
    | some s' => exact .some (Binary.le_trans hst (deltap_le_of_choose hs' hnum' t ht))

theorem choose_of_warmer (hc : c.Valid) (h : List.Forall₂ Reading.Warmer rs rs') :
    Option.Rel (fun s s' => s.deltap ≤ s'.deltap)
      ((forConfig c).processAll rs).choose ((forConfig c).processAll rs').choose := by
  apply choose_of_forall₂
  rw [snapshots_processAll_forConfig, snapshots_processAll_forConfig]
  exact List.rel_filterMap (fun _ _ hr => snapshot?_of_warmer hc hr) h

end Aggregate

end ChassisCooling
