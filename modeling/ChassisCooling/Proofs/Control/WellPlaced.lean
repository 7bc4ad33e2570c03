import ChassisCooling.Proofs.Control.SensorOrder

/-!
# Well-placed snapshots

A snapshot of finite values has room between its target and its ceiling, however close they are,
and so its `deltap` is a number: at most one up to the ceiling, and on the side of zero on which the
temperature is of its target. So long as no sensor is past its ceiling, no step up is long enough to
meet its cap.

* `Snapshot.WellPlaced`: target, ceiling and `deltap` are where they should be.
* `Aggregate.wellPlaced_of_mem`: the snapshots of plain readings.
* `Config.fullStep_eq_of_deltap_le`: a full step that the cap leaves alone.
* `Aggregate.snapshots_wellPlaced`: both, for every list of plain readings.
-/

namespace ChassisCooling

open Binary

/-- There is room between target and ceiling, and `deltap` tells how much of it is used. -/
structure Snapshot.WellPlaced (s : Snapshot) : Prop where
  target_pos : ofNat 0 < s.target
  target_lt : s.target < s.ceiling
  gap_finite : (s.ceiling - s.target).isFinite
  gap_pos : ofNat 0 < s.ceiling - s.target
  deltap_number : s.deltap.isNaN = false
  within : s.value ≤ s.ceiling → s.deltap ≤ ofNat 1
  below : s.delta < ofNat 0 → s.deltap ≤ ofNat 0
  above : ofNat 0 ≤ s.delta → ofNat 0 ≤ s.deltap

/-- Thresholds and target are finite as far as there are any. -/
structure Limits.Finite (l : Limits) : Prop where
  overheat : ∀ x ∈ l.overheat, x.isFinite
  critical : ∀ x ∈ l.critical, x.isFinite
  target : ∀ x ∈ l.target, x.isFinite

theorem Reading.Plain.limits {r : Reading} (h : r.Plain) : r.limits.Finite :=
  ⟨h.overheat_finite, h.critical_finite, h.target_finite⟩

namespace Snapshot

variable {value target ceiling : Single}

/-- Nothing but a temperature that is not a number leaves a snapshot without a number. -/
theorem isNaN_deltap (sensor : String) (value : Single) (hceil : ceiling.isFinite)
    (h0 : ofNat 0 < target) (hlt : target < ceiling) :
    (Snapshot.of sensor value target ceiling).deltap.isNaN = value.isNaN := by
  obtain ⟨htarget, hgap⟩ := Aggregate.isFinite_gap hceil h0 hlt
  have hpos := Binary.sub_pos hlt
  show ((value - target) / (ceiling - target)).isNaN = value.isNaN
  cases value with
  | nan => rfl
  | infinity s =>
    obtain ⟨t, n, hn, rfl⟩ := exists_eq_finite htarget
    exact congrArg isNaN (infinity_div hgap hpos s)
  | finite s m hm =>
    have hdelta := Binary.le_refl (isNaN_sub (x := finite s m hm) rfl htarget)
    exact isNaN_left_of_le (div_le_div_right hgap hpos hdelta)

/-- Up to the ceiling at most the whole way from target to ceiling is used. -/
theorem deltap_le_one (sensor : String) (hvalue : value.isFinite) (hceil : ceiling.isFinite)
    (h0 : ofNat 0 < target) (hlt : target < ceiling) (hle : value ≤ ceiling) :
    (Snapshot.of sensor value target ceiling).deltap ≤ ofNat 1 := by
  obtain ⟨htarget, hgap⟩ := Aggregate.isFinite_gap hceil h0 hlt
  have hpos := Binary.sub_pos hlt
  have hdelta : value - target ≤ ceiling - target :=
    Binary.sub_le_sub_right hvalue hceil htarget hle
  have hquot := div_le_div_right hgap hpos hdelta
  refine ⟨hquot.1, isNaN_ofNat 1, ?_⟩
  rw [← rank_div_self hgap hpos]
  exact rank_le_of_le hquot

theorem wellPlaced_of (sensor : String) (hvalue : value.isFinite) (hceil : ceiling.isFinite)
    (h0 : ofNat 0 < target) (hlt : target < ceiling) :
    (Snapshot.of sensor value target ceiling).WellPlaced := by
  obtain ⟨htarget, hgap⟩ := Aggregate.isFinite_gap hceil h0 hlt
  have hpos := Binary.sub_pos hlt
  have hnum := (isNaN_deltap sensor value hceil h0 hlt).trans (isNaN_of_isFinite hvalue)
  exact
    { target_pos := h0
      target_lt := hlt
      gap_finite := hgap
      gap_pos := hpos
      deltap_number := hnum
      within := deltap_le_one sensor hvalue hceil h0 hlt
      below := fun h => div_nonpos (Binary.le_of_lt h) hpos hnum
      above := fun h => Binary.div_nonneg h hpos hnum }

end Snapshot

namespace Aggregate

variable {c : Config} {r : Reading} {rs : List Reading} {s : Snapshot}

/-! ## Single readings -/

/-- Target and ceiling of a reading that is judged, whatever its temperature. -/
theorem place?_bounds (hc : c.Valid) (hr : r.limits.Finite) {p : Placement}
    (h : (forConfig c).place? r = some p) :
    p.ceiling.isFinite ∧ p.target.isNaN = false ∧ ofNat 0 < p.target := by
  unfold place? at h
  split at h
  · next value overheat critical htemp hover hcrit =>
    have hbase := isFinite_baseTarget hc r.name hr.target (hr.overheat overheat hover)
    have hnum := isNaN_add hbase hc.targetOffset_finite
    simp only at h
    split at h
    · cases h
    · next hpos =>
      rw [not_or] at hpos
      rw [← Option.some.inj h]
      exact ⟨isFinite_minNum (hr.overheat overheat hover) (hr.critical critical hcrit), hnum,
        lt_of_not_le (isNaN_ofNat 0) hnum hpos.1⟩
  · cases h

/-- A plain reading leaves a well-placed snapshot, if it leaves one, and the flag goes up with a
`deltap` above one. -/
theorem snapshot?_of_plain (hc : c.Valid) (hr : r.Plain)
    (h : (forConfig c).snapshot? r = some s) :
    s.WellPlaced ∧ ((forConfig c).raisesFlag r = false → s.value ≤ s.ceiling) := by
  obtain ⟨p, hp, hroom, rfl⟩ := exists_of_snapshot? h
  obtain ⟨hceil, htarget, h0⟩ := place?_bounds hc hr.limits hp
  have hvalue := hr.temperature_finite p.value (place?_eq_some hp).1
  have hceil' := isNaN_of_isFinite hceil
  refine ⟨Snapshot.wellPlaced_of r.name hvalue hceil h0 (lt_of_not_le htarget hceil' hroom), ?_⟩
  intro hflag
  rw [raisesFlag, hp, Option.any_some, decide_eq_false_iff_not] at hflag
  exact le_of_not_lt (isNaN_of_isFinite hvalue) hceil' hflag

/-! ## Lists of readings -/

theorem wellPlaced_of_mem (hc : c.Valid) (hplain : ∀ r ∈ rs, r.Plain)
    (hs : s ∈ ((forConfig c).processAll rs).snapshots) :
    s.WellPlaced ∧ (((forConfig c).processAll rs).overheat = false → s.value ≤ s.ceiling) := by
  rw [snapshots_processAll_forConfig, List.mem_filterMap] at hs
  obtain ⟨r, hr, hsnap⟩ := hs
  obtain ⟨hplaced, hcool⟩ := snapshot?_of_plain hc (hplain r hr) hsnap
  refine ⟨hplaced, fun hflag => hcool ?_⟩
  rw [overheat_processAll_forConfig, List.any_eq_false] at hflag
  exact Bool.eq_false_iff.2 (hflag r hr)

end Aggregate

namespace Config

variable {c : Config} {s : Snapshot}

/-! ## The cap of a step up -/

/-- Up to the ceiling the step up is no longer than its cap. -/
theorem increase_le_of_deltap_le (hc : c.Valid) (hs : s.WellPlaced) (hup : ofNat 0 ≤ s.delta)
    (h1 : s.deltap ≤ ofNat 1) : c.maxIncrease * s.deltap ≤ c.maxIncrease := by
  have one : (ofNat 1 : Single).isFinite ∧ (ofNat 1 : Single).rank = Format.single.unit := by
    decide +kernel
  have hfin := isFinite_of_le_of_le isFinite_ofNat_zero one.1 (hs.above hup) h1
  apply mul_le_of_le_one hc.maxIncrease_finite hfin hc.maxIncrease_nonneg
  exact Int.le_trans (rank_le_of_le h1) (Int.le_of_eq one.2)

theorem fullStep_eq_of_deltap_le (hc : c.Valid) (hs : s.WellPlaced) (hup : ofNat 0 ≤ s.delta)
    (h1 : s.deltap ≤ ofNat 1) : (c.fullStep s).numEq (c.maxIncrease * s.deltap) := by
  have hle := increase_le_of_deltap_le hc hs hup h1
  have hmin : (c.fullStep s).rank = (c.maxIncrease * s.deltap).rank := by
    unfold fullStep
    rw [if_neg (not_lt_of_le hup), rank_minNum hle.1 hle.2.1, Int.min_eq_left hle.2.2]
  have hnum : (c.fullStep s).isNaN = false := by
    unfold fullStep
    rw [if_neg (not_lt_of_le hup)]
    exact isNaN_minNum hle.2.1
  rw [numEq_iff]
  exact ⟨⟨hnum, hle.1, Int.le_of_eq hmin⟩, hle.1, hnum, Int.le_of_eq hmin.symm⟩

/-- A decision to go up that no cap has shortened. -/
theorem nextSpeed_eq_of_deltap_le (hc : c.Valid) {a : Aggregate} (hcool : a.overheat = false)
    (hchosen : a.choose = some s) (hs : s.WellPlaced) (hup : ofNat 0 ≤ s.delta)
    (h1 : s.deltap ≤ ofNat 1) (hout : ¬c.inDeadband s.deltap) (last : Single)
    (elapsed : Duration) :
    c.nextSpeed last a elapsed = c.move last (c.maxIncrease * s.deltap) elapsed := by
  have hle := increase_le_of_deltap_le hc hs hup h1
  have hnonneg := Binary.mul_nonneg hc.maxIncrease_finite hc.maxIncrease_nonneg (hs.above hup) hle.1
  have hfin := isFinite_of_le_of_le isFinite_ofNat_zero hc.maxIncrease_finite hnonneg hle
  obtain ⟨hfull, hfull'⟩ := numEq_iff.1 (fullStep_eq_of_deltap_le hc hs hup h1)
  have hfin' := isFinite_of_le_of_le isFinite_ofNat_zero hfin (Binary.le_trans hnonneg hfull') hfull
  rw [nextSpeed_of_choose hcool hchosen, if_neg hout]
  exact move_eq_of_rank_eq hc hfin' hfin (Int.le_antisymm hfull.2.2 hfull'.2.2) last elapsed

end Config

namespace Aggregate

variable {c : Config} {rs : List Reading}

/-- The snapshots of plain readings are well placed, and one of them that is past its ceiling
raises the overheat flag. Without the flag every step up is as long as `deltap` asks for. -/
theorem snapshots_wellPlaced (hc : c.validate = .ok ()) (hplain : ∀ r ∈ rs, r.Plain) :
    let a := (forConfig c).processAll rs
    (∀ s ∈ a.snapshots, s.WellPlaced ∧ (ofNat 1 < s.deltap → a.overheat = true)) ∧
      (a.overheat = false →
        (∀ s ∈ a.snapshots, ofNat 0 ≤ s.delta →
          (c.fullStep s).numEq (c.maxIncrease * s.deltap)) ∧
        ∀ s, a.choose = some s → ofNat 0 ≤ s.delta → ¬c.inDeadband s.deltap →
          ∀ last elapsed,
            c.nextSpeed last a elapsed = c.move last (c.maxIncrease * s.deltap) elapsed) := by
  intro a
  rw [Config.validate_eq_ok_iff] at hc
  have placed : ∀ s ∈ a.snapshots, s.WellPlaced ∧ (a.overheat = false → s.deltap ≤ ofNat 1) := by
    intro s hs
    obtain ⟨hplaced, hcool⟩ := wellPlaced_of_mem hc hplain hs
    exact ⟨hplaced, fun hflag => hplaced.within (hcool hflag)⟩
  refine ⟨fun s hs => ⟨(placed s hs).1, fun h1 => ?_⟩, fun hcool => ⟨?_, ?_⟩⟩
  · by_contra hflag
    exact not_lt_of_le ((placed s hs).2 (Bool.eq_false_iff.2 hflag)) h1
  · intro s hs hup
    obtain ⟨hplaced, h1⟩ := placed s hs
    exact Config.fullStep_eq_of_deltap_le hc hplaced hup (h1 hcool)
  · intro s hchosen hup hout last elapsed
    obtain ⟨hplaced, h1⟩ := placed s (choose_mem hchosen)
    exact Config.nextSpeed_eq_of_deltap_le hc hcool hchosen hplaced hup (h1 hcool) hout last elapsed

/-- Two of the smallest numbers lie between target and ceiling of the second sensor: halfway there
it asks for half of the largest increase, and gets it. -/
theorem snapshots_wellPlaced_of_smallest_gap :
    let cpu : Reading :=
      ⟨"cpu", some (ofNat 80), ⟨some (ofNat 95), some (ofNat 100), some (ofNat 70)⟩⟩
    let asic : Reading :=
      ⟨"asic", some (ofSteps 2), ⟨some (ofSteps 3), some (ofSteps 3), some (ofSteps 1)⟩⟩
    let a := (forConfig .default).processAll [cpu, asic]
    (Config.default.validate = .ok () ∧ cpu.Plain ∧ asic.Plain) ∧
      (∀ s ∈ a.snapshots, s.WellPlaced) ∧ a.snapshots.map Snapshot.sensor = ["cpu", "asic"] ∧
        Config.default.nextSpeed (ofNat 50) a ⟨60000000000, by decide⟩ = ofNat 60 := by
  intro cpu asic a
  have hcpu : cpu.Plain := by constructor <;> decide +kernel
  have hasic : asic.Plain := by constructor <;> decide +kernel
  have hplain : ∀ r ∈ [cpu, asic], r.Plain := by simp [hcpu, hasic]
  obtain ⟨hplaced, hstep⟩ := snapshots_wellPlaced Config.validate_default hplain
  have hcool : a.overheat = false := by decide +kernel
  let chosen : Snapshot := .of "asic" (ofSteps 2) (ofSteps 1) (ofSteps 3)
  have hchosen : a.choose = some chosen := by decide +kernel
  have hup : ofNat 0 ≤ chosen.delta := by decide +kernel
  have hout : ¬Config.default.inDeadband chosen.deltap := by decide +kernel
  refine ⟨⟨Config.validate_default, hcpu, hasic⟩, fun s hs => (hplaced s hs).1,
    by decide +kernel, ?_⟩
  rw [(hstep hcool).2 chosen hchosen hup hout]
  decide +kernel

end Aggregate

end ChassisCooling
