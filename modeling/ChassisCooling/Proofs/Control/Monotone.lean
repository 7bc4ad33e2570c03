import ChassisCooling.Machine.Basic
import ChassisCooling.Proofs.Control.Step
import ChassisCooling.Proofs.Thermal.Warmer

/-!
# Warmer sensors never slow the fans

Where the deadband contains zero, a decision is monotone in the temperatures. The full step is
monotone in the chosen `deltap` on either side of the target, it has the sign of `deltap`, and the
deadband holds everything between one of its members and zero.

* `Config.fullStep_nonpos`, `Config.fullStep_nonneg`: the sign of the full step.
* `Config.fullStep_mono_below`, `Config.fullStep_mono_above`: its two monotone branches, which
  `Config.fullStep_mono` joins.
* `Zone.nextSpeed_le_of_warmer`: two states of a zone, the second one warmer.
-/

namespace ChassisCooling

open Binary

namespace Config

variable {c : Config} {s s' : Snapshot}

/-! ## The full step against `deltap` -/

theorem fullStep_nonpos (hc : c.Valid) (hs : s.SignsAgree) (hd : s.deltap ≤ ofNat 0) :
    c.fullStep s ≤ ofNat 0 := by
  by_cases h : s.delta < ofNat 0
  · exact (fullStep_of_below hc hs h).2
  · -- At the target and above only a `deltap` of zero is left.
    have hzero := hs.above h (isNaN_left_of_le hd)
    have hfin := isFinite_of_le_of_le isFinite_ofNat_zero isFinite_ofNat_zero hzero hd
    have hnum := isNaN_mul hc.maxIncrease_finite hfin
    have hprod := mul_nonpos hc.maxIncrease_finite hc.maxIncrease_nonneg hd hnum
    unfold fullStep
    rw [if_neg h]
    exact Binary.le_trans (minNum_le_left hnum hc.isNaN_maxIncrease) hprod

theorem fullStep_nonneg (hc : c.Valid) (hs : s.SignsAgree) (hd : ofNat 0 ≤ s.deltap) :
    ofNat 0 ≤ c.fullStep s := by
  by_cases h : s.delta < ofNat 0
  · have hzero := hs.below h (isNaN_right_of_le hd)
    have hfin := isFinite_of_le_of_le isFinite_ofNat_zero isFinite_ofNat_zero hd hzero
    have hnum := isNaN_mul hc.maxDecrease_finite hfin
    have hprod := Binary.mul_nonneg hc.maxDecrease_finite hc.maxDecrease_nonneg hd hnum
    unfold fullStep
    rw [if_pos h]
    exact Binary.le_trans hprod (le_maxNum_left hnum (isNaN_left_of_le (neg_maxDecrease_nonpos hc)))
  · exact (fullStep_of_above hc hs h).1

theorem fullStep_mono_below (hc : c.Valid) (hs : s.SignsAgree) (hs' : s'.SignsAgree)
    (h : s.delta < ofNat 0) (h' : s'.delta < ofNat 0) (hd : s.deltap ≤ s'.deltap) :
    c.fullStep s ≤ c.fullStep s' := by
  by_cases hpos : ofNat 0 < c.maxDecrease
  · have hprod := Binary.mul_le_mul_left hc.maxDecrease_finite hpos hd
    have hlim := isNaN_left_of_le (neg_maxDecrease_nonpos hc)
    unfold fullStep
    rw [if_pos h, if_pos h']
    have hleft := le_maxNum_left (isNaN_right_of_le hprod) hlim
    exact maxNum_le (fun _ => Binary.le_trans hprod hleft) (le_maxNum_right hlim)
  · -- Without any decrease allowed both steps are zero.
    have hzero := rank_eq_zero hc.maxDecrease_nonneg hpos
    obtain ⟨-, hup⟩ := fullStep_of_below hc hs h
    obtain ⟨hlow, -⟩ := fullStep_of_below hc hs' h'
    refine le_of_rank_le (isNaN_left_of_le hup) (isNaN_right_of_le hlow) ?_
    have hr := rank_le_of_le hup
    have hr' := rank_le_of_le hlow
    rw [rank_neg, hzero] at hr'
    rw [rank_ofNat_zero] at hr
    omega

theorem fullStep_mono_above (hc : c.Valid) (hs : s.SignsAgree) (hs' : s'.SignsAgree)
    (h : ¬s.delta < ofNat 0) (h' : ¬s'.delta < ofNat 0) (hd : s.deltap ≤ s'.deltap) :
    c.fullStep s ≤ c.fullStep s' := by
  by_cases hpos : ofNat 0 < c.maxIncrease
  · have hprod := Binary.mul_le_mul_left hc.maxIncrease_finite hpos hd
    have hlim := hc.isNaN_maxIncrease
    unfold fullStep
    rw [if_neg h, if_neg h']
    have hleft := minNum_le_left (isNaN_left_of_le hprod) hlim
    exact le_minNum (fun _ => Binary.le_trans hleft hprod) (minNum_le_right hlim)
  · have hzero := rank_eq_zero hc.maxIncrease_nonneg hpos
    obtain ⟨-, hup⟩ := fullStep_of_above hc hs h
    obtain ⟨hlow, -⟩ := fullStep_of_above hc hs' h'
    refine le_of_rank_le (isNaN_left_of_le hup) (isNaN_right_of_le hlow) ?_
    have hr := rank_le_of_le hup
    have hr' := rank_le_of_le hlow
    rw [hzero] at hr
    rw [rank_ofNat_zero] at hr'
    omega

/-- A higher `deltap` does not lead to a lower step. -/
theorem fullStep_mono (hc : c.Valid) (hs : s.SignsAgree) (hs' : s'.SignsAgree)
    (hd : s.deltap ≤ s'.deltap) : c.fullStep s ≤ c.fullStep s' := by
  by_cases h : s.delta < ofNat 0
  · by_cases h' : s'.delta < ofNat 0
    · exact fullStep_mono_below hc hs hs' h h' hd
    · exact Binary.le_trans (fullStep_of_below hc hs h).2 (fullStep_of_above hc hs' h').1
  · by_cases h' : s'.delta < ofNat 0
    · -- The lower one is above the target and the higher one below it: both are at zero.
      have hge := hs.above h (isNaN_left_of_le hd)
      have hle := hs'.below h' (isNaN_right_of_le hd)
      exact Binary.le_trans (fullStep_nonpos hc hs (Binary.le_trans hd hle))
        (fullStep_nonneg hc hs' (Binary.le_trans hge hd))
    · exact fullStep_mono_above hc hs hs' h h' hd

/-! ## The deadband -/

theorem hundred_ge_one : (ofNat 100 : Single).isFinite ∧ ofNat 0 < (ofNat 100 : Single) ∧
    (Format.single.unit : Int) ≤ (ofNat 100 : Single).rank := by
  decide +kernel

theorem mul_hundred_mono {x y : Single} (h : x ≤ y) : x * ofNat 100 ≤ y * ofNat 100 := by
  rw [Binary.mul_comm x, Binary.mul_comm y]
  exact Binary.mul_le_mul_left hundred_ge_one.1 hundred_ge_one.2.1 h

/-- Below zero the deadband reaches up to zero. -/
theorem inDeadband_of_le_of_neg {x y : Single} (hhigh : ofNat 0 ≤ c.deadbandHigh)
    (hx : c.inDeadband x) (h : x ≤ y) (hy : y < ofNat 0) : c.inDeadband y := by
  have hneg := mul_neg_of_neg hundred_ge_one.1 hundred_ge_one.2.2 hy
  exact ⟨Binary.lt_of_lt_of_le hx.1 (mul_hundred_mono h), Binary.lt_of_lt_of_le hneg hhigh⟩

/-- Above zero the deadband reaches down to zero. -/
theorem inDeadband_of_le_of_pos {x y : Single} (hlow : c.deadbandLow ≤ ofNat 0)
    (hy : c.inDeadband y) (h : x ≤ y) (hx : ofNat 0 < x) : c.inDeadband x := by
  have hpos := mul_pos_of_pos hundred_ge_one.1 hundred_ge_one.2.2 hx
  exact ⟨Binary.lt_of_le_of_lt hlow hpos, Binary.lt_of_le_of_lt (mul_hundred_mono h) hy.2⟩

/-! ## The decision -/

/-- A higher `deltap` of the chosen sensor does not lead to a lower speed. -/
theorem nextSpeed_mono (hc : c.Valid) (hlow : c.deadbandLow ≤ ofNat 0)
    (hhigh : ofNat 0 ≤ c.deadbandHigh) {last : Single} (h : c.minSpeed ≤ last)
    (h' : last ≤ maxSpeed) {a a' : Aggregate} (hcool : a.overheat = false)
    (hcool' : a'.overheat = false) (hs : a.choose = some s) (hs' : a'.choose = some s')
    (hsigns : s.SignsAgree) (hsigns' : s'.SignsAgree) (hd : s.deltap ≤ s'.deltap)
    (elapsed : Duration) : c.nextSpeed last a elapsed ≤ c.nextSpeed last a' elapsed := by
  have hl := isFinite_last hc h h'
  have hfull := isFinite_fullStep hc hsigns
  have hfull' := isFinite_fullStep hc hsigns'
  have hdown : s.deltap ≤ ofNat 0 → c.nextSpeed last a elapsed ≤ last := fun hle =>
    nextSpeed_le_last hc h h' hcool hs hsigns elapsed (fullStep_nonpos hc hsigns hle)
  have hup : ofNat 0 ≤ s'.deltap → last ≤ c.nextSpeed last a' elapsed := fun hge =>
    last_le_nextSpeed hc h h' hcool' hs' hsigns' elapsed (fullStep_nonneg hc hsigns' hge)
  by_cases hneg' : s'.deltap < ofNat 0
  · -- Both below the target: a deadband that holds the lower one holds the higher one.
    have hneg := Binary.lt_of_le_of_lt hd hneg'
    have hstep := fullStep_mono_below hc hsigns hsigns' (hsigns.delta_neg hneg)
      (hsigns'.delta_neg hneg') hd
    by_cases hband' : c.inDeadband s'.deltap
    · rw [nextSpeed_of_choose hcool' hs', if_pos hband']
      exact hdown (Binary.le_of_lt hneg)
    · have hband : ¬c.inDeadband s.deltap := fun hband =>
        hband' (inDeadband_of_le_of_neg hhigh hband hd hneg')
      rw [nextSpeed_of_choose hcool hs, nextSpeed_of_choose hcool' hs', if_neg hband,
        if_neg hband']
      exact move_mono hc hl hfull hfull' hstep elapsed
  by_cases hpos : ofNat 0 < s.deltap
  · -- Both above the target: a deadband that holds the higher one holds the lower one.
    have hpos' := Binary.lt_of_lt_of_le hpos hd
    have hstep := fullStep_mono_above hc hsigns hsigns' (hsigns.not_delta_neg hpos)
      (hsigns'.not_delta_neg hpos') hd
    by_cases hband : c.inDeadband s.deltap
    · rw [nextSpeed_of_choose hcool hs, if_pos hband]
      exact hup (Binary.le_of_lt hpos')
    · have hband' : ¬c.inDeadband s'.deltap := fun hband' =>
        hband (inDeadband_of_le_of_pos hlow hband' hd hpos)
      rw [nextSpeed_of_choose hcool hs, nextSpeed_of_choose hcool' hs', if_neg hband,
        if_neg hband']
      exact move_mono hc hl hfull hfull' hstep elapsed
  · -- On the two sides of the target, or at it: down or no change, then up or no change.
    have hle := le_of_not_lt (isNaN_left_of_le hd) (isNaN_ofNat 0) hpos
    have hge := le_of_not_lt (isNaN_ofNat 0) (isNaN_right_of_le hd) hneg'
    exact Binary.le_trans (hdown hle) (hup hge)

end Config

namespace Zone

section Warmer

variable {World Probe Drive Outlet : Type} {P : Platform World Probe Drive Outlet}

/-- Of two states of a zone with the same configuration, the one whose sensors are as warm or warmer
throughout is driven no slower. -/
theorem nextSpeed_le_of_warmer {z z' : Zone Probe Drive} {w w' : World}
    (hc : z.config.validate = .ok ()) (hlow : z.config.deadbandLow ≤ ofNat 0)
    (hhigh : ofNat 0 ≤ z.config.deadbandHigh) (hconfig : z'.config = z.config)
    (hwarm : List.Forall₂ Reading.Warmer (z.sensors.map (Sensor.reading P w))
      (z'.sensors.map (Sensor.reading P w')))
    {last : Single} (h : z.config.minSpeed ≤ last) (h' : last ≤ maxSpeed) (elapsed : Duration) :
    z.config.nextSpeed last (z.evaluate P w) elapsed ≤
      z'.config.nextSpeed last (z'.evaluate P w') elapsed := by
  rw [Config.validate_eq_ok_iff] at hc
  have hmem := Config.nextSpeed_mem hc h h' (z.evaluate P w) elapsed
  rw [hconfig]
  by_cases hhot' : (z'.evaluate P w').overheat = true
  · rw [Config.nextSpeed_eq_maxSpeed (.inl hhot') last elapsed]
    exact hmem.2
  have hcool : (z.evaluate P w).overheat = false := by
    rw [← Bool.not_eq_true]
    intro hhot
    apply hhot'
    unfold evaluate
    rw [hconfig]
    exact Aggregate.overheat_of_warmer hc hwarm hhot
  have hchoose : Option.Rel (fun s s' => s.deltap ≤ s'.deltap) (z.evaluate P w).choose
      (z'.evaluate P w').choose := by
    unfold evaluate
    rw [hconfig]
    exact Aggregate.choose_of_warmer hc hwarm
  cases hs' : (z'.evaluate P w').choose with
  | none =>
    rw [Config.nextSpeed_eq_maxSpeed (.inr hs') last elapsed]
    exact hmem.2
  | some s' =>
    cases hs : (z.evaluate P w).choose with
    | none => simp [hs, hs'] at hchoose
    | some s =>
      rw [hs, hs', Option.rel_some_some] at hchoose
      have hsigns : s.SignsAgree :=
        Aggregate.signsAgree_of_processAll rfl (Aggregate.choose_mem hs)
      have hsigns' : s'.SignsAgree :=
        Aggregate.signsAgree_of_processAll rfl (Aggregate.choose_mem hs')
      rw [Bool.not_eq_true] at hhot'
      exact Config.nextSpeed_mono hc hlow hhigh h h' hcool hhot' hs hs' hsigns hsigns' hchoose
        elapsed

end Warmer

/-- One sensor warms up past its target while another one keeps its temperature, so that the choice
changes as well. -/
theorem nextSpeed_le_of_warmer_second_sensor :
    let limits : Limits := ⟨some (ofNat 95), some (ofNat 100), some (ofNat 70)⟩
    let bench : Bench := ⟨[⟨"cpu", none, limits⟩, ⟨"asic", none, limits⟩], []⟩
    let w : Machine := { Machine.blank with bench }
    let sensor (i : Nat) (name : String) (value : Single) : Sensor Probe :=
      Sensor.record ⟨.simulated i name, .empty name 10, false⟩ (ofNat 0) value
    let zone (x y : Single) : Zone Probe Drive :=
      ⟨"System", .default, .empty "target" 10, some ⟨[], [sensor 0 "cpu" x, sensor 1 "asic" y]⟩⟩
    let z := zone (ofNat 60) (ofNat 50)
    let z' := zone (ofNat 60) (ofNat 80)
    (z.config.validate = .ok () ∧ z.config.deadbandLow ≤ ofNat 0 ∧
        ofNat 0 ≤ z.config.deadbandHigh ∧ z'.config = z.config ∧
        List.Forall₂ Reading.Warmer (z.sensors.map (Sensor.reading Machine.platform w))
          (z'.sensors.map (Sensor.reading Machine.platform w)) ∧
        z.config.minSpeed ≤ ofNat 50 ∧ ofNat 50 ≤ maxSpeed) ∧
      z.config.nextSpeed (ofNat 50) (z.evaluate Machine.platform w) ⟨60000000000, by decide⟩ ≤
        z'.config.nextSpeed (ofNat 50) (z'.evaluate Machine.platform w)
          ⟨60000000000, by decide⟩ := by
  intro limits bench w sensor zone z z'
  have hc : z.config.validate = .ok () := Config.validate_default
  have hconfig : z'.config = z.config := rfl
  have hlow : z.config.deadbandLow ≤ ofNat 0 := by decide +kernel
  have hhigh : ofNat 0 ≤ z.config.deadbandHigh := by decide +kernel
  have h : z.config.minSpeed ≤ ofNat 50 := by decide +kernel
  have h' : ofNat 50 ≤ maxSpeed := by decide +kernel
  have hlimits : (∀ x ∈ limits.overheat, x.isFinite) ∧ (∀ x ∈ limits.critical, x.isFinite) ∧
      ∀ x ∈ limits.target, x.isFinite := by
    decide +kernel
  have hwarm : List.Forall₂ Reading.Warmer (z.sensors.map (Sensor.reading Machine.platform w))
      (z'.sensors.map (Sensor.reading Machine.platform w)) := by
    refine .cons ?_ (.cons ?_ .nil)
    · exact ⟨rfl, rfl, .some (by decide +kernel), hlimits.1, hlimits.2.1, hlimits.2.2⟩
    · exact ⟨rfl, rfl, .some (by decide +kernel), hlimits.1, hlimits.2.1, hlimits.2.2⟩
  exact ⟨⟨hc, hlow, hhigh, hconfig, hwarm, h, h'⟩,
    nextSpeed_le_of_warmer hc hlow hhigh hconfig hwarm h h' ⟨60000000000, by decide⟩⟩

end Zone

end ChassisCooling
