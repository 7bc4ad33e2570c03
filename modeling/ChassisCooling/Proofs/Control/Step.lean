import ChassisCooling.Control.Zone
import ChassisCooling.Proofs.Config.Valid
import ChassisCooling.Proofs.Seconds
import ChassisCooling.Proofs.Thermal.Aggregate

/-!
# One control step

The decision of one tick: full speed where the thermal state is not known to be safe, otherwise a
move from the last speed, whose direction is the chosen sensor's and whose length is limited.

* `Config.stepFactor_mem`: the factor for the elapsed time is from zero to one.
* `Config.fullStep_mem`: the full step is between the largest decrease and the largest increase.
* `Config.move`: the speed that a step leads to; `Config.move_mem`, `Config.move_mono`.
* `Config.nextSpeed_cases`: a decision holds the speed or ends in the allowed range.
* `Config.nextSpeed_step`: fail-safe, rate limit, direction and deadband of a decision.
-/

namespace ChassisCooling

open Binary

/-! ## The factor for the elapsed time -/

theorem isFinite_one : (ofNat 1 : Double).isFinite := by decide +kernel

namespace Config

variable {c : Config}

/-- The elapsed time as a fraction of the nominal interval, at most one. -/
theorem fraction_mem (hc : c.Valid) (elapsed : Duration) :
    ofNat 0 ≤ (elapsed.toSeconds / c.intervalSecs).minNum (ofNat 1) ∧
      (elapsed.toSeconds / c.intervalSecs).minNum (ofNat 1) ≤ ofNat 1 := by
  have hsecs := elapsed.zero_le_toSeconds
  have hquot := div_le_div_right hc.intervalSecs_finite hc.intervalSecs_pos hsecs
  have hnonneg := Binary.div_nonneg hsecs hc.intervalSecs_pos (isNaN_right_of_le hquot)
  exact ⟨le_minNum (fun _ => hnonneg) (zero_le_ofNat 1), minNum_le_right (isNaN_ofNat 1)⟩

theorem isFinite_fraction (hc : c.Valid) (elapsed : Duration) :
    ((elapsed.toSeconds / c.intervalSecs).minNum (ofNat 1)).isFinite := by
  obtain ⟨h0, h1⟩ := fraction_mem hc elapsed
  exact isFinite_of_le_of_le isFinite_ofNat_zero isFinite_one h0 h1

theorem stepFactor_mem (hc : c.Valid) (elapsed : Duration) :
    ofNat 0 ≤ c.stepFactor elapsed ∧ c.stepFactor elapsed ≤ ofNat 1 := by
  obtain ⟨h0, h1⟩ := fraction_mem hc elapsed
  have hfin := isFinite_fraction hc elapsed
  have zero : (ofNat 0 : Double).convert .single = ofNat 0 := by decide +kernel
  have one : (ofNat 1 : Double).convert .single = ofNat 1 := by decide +kernel
  constructor
  · have := convert_le_convert .single isFinite_ofNat_zero hfin h0
    rwa [zero] at this
  · have := convert_le_convert .single hfin isFinite_one h1
    rwa [one] at this

theorem isFinite_stepFactor (hc : c.Valid) (elapsed : Duration) :
    (c.stepFactor elapsed).isFinite := by
  obtain ⟨h0, h1⟩ := stepFactor_mem hc elapsed
  exact isFinite_of_le_of_le isFinite_ofNat_zero (by decide +kernel) h0 h1

theorem stepFactor_zero (hc : c.Valid) : (c.stepFactor .zero).rank = 0 := by
  have hsecs : Duration.zero.toSeconds = ofNat 0 := by decide +kernel
  have hquot := rank_zero_div hc.intervalSecs_finite hc.intervalSecs_pos
  have hn : (ofNat 0 / c.intervalSecs).isNaN = false :=
    isNaN_div isFinite_ofNat_zero hc.intervalSecs_finite hc.intervalSecs_pos
  have hmin : ((ofNat 0 / c.intervalSecs).minNum (ofNat 1)).rank = 0 := by
    rw [rank_minNum hn (isNaN_ofNat 1), hquot]
    decide +kernel
  unfold stepFactor toSingle
  rw [rank_convert _ (isFinite_fraction hc .zero), hsecs, hmin, Int.zero_mul, Format.nearest_zero]

/-! ## The full step -/

theorem neg_maxDecrease_nonpos (hc : c.Valid) : -c.maxDecrease ≤ ofNat 0 := by
  have := zero_le_iff.1 hc.maxDecrease_nonneg
  rw [Binary.le_zero_iff, isNaN_neg, rank_neg]
  exact ⟨this.1, by omega⟩

/-- Below its target a sensor asks for a decrease within its limit. -/
theorem fullStep_of_below (hc : c.Valid) {s : Snapshot} (hs : s.SignsAgree)
    (h : s.delta < ofNat 0) : -c.maxDecrease ≤ c.fullStep s ∧ c.fullStep s ≤ ofNat 0 := by
  have hneg := neg_maxDecrease_nonpos hc
  unfold fullStep
  rw [if_pos h]
  refine ⟨le_maxNum_right hneg.1, maxNum_le (fun hn => ?_) hneg⟩
  exact mul_nonpos hc.maxDecrease_finite hc.maxDecrease_nonneg
    (hs.below h (numbers_of_mul hn).2) hn

/-- At its target and above a sensor asks for an increase within its limit. -/
theorem fullStep_of_above (hc : c.Valid) {s : Snapshot} (hs : s.SignsAgree)
    (h : ¬s.delta < ofNat 0) : ofNat 0 ≤ c.fullStep s ∧ c.fullStep s ≤ c.maxIncrease := by
  unfold fullStep
  rw [if_neg h]
  refine ⟨le_minNum (fun hn => ?_) hc.maxIncrease_nonneg, minNum_le_right hc.isNaN_maxIncrease⟩
  exact Binary.mul_nonneg hc.maxIncrease_finite hc.maxIncrease_nonneg
    (hs.above h (numbers_of_mul hn).2) hn

theorem fullStep_mem (hc : c.Valid) {s : Snapshot} (hs : s.SignsAgree) :
    -c.maxDecrease ≤ c.fullStep s ∧ c.fullStep s ≤ c.maxIncrease := by
  by_cases h : s.delta < ofNat 0
  · obtain ⟨h1, h2⟩ := fullStep_of_below hc hs h
    exact ⟨h1, Binary.le_trans h2 hc.maxIncrease_nonneg⟩
  · obtain ⟨h1, h2⟩ := fullStep_of_above hc hs h
    exact ⟨Binary.le_trans (neg_maxDecrease_nonpos hc) h1, h2⟩

theorem isFinite_fullStep (hc : c.Valid) {s : Snapshot} (hs : s.SignsAgree) :
    (c.fullStep s).isFinite := by
  obtain ⟨h1, h2⟩ := fullStep_mem hc hs
  exact isFinite_of_le_of_le (by simpa using hc.maxDecrease_finite) hc.maxIncrease_finite h1 h2

/-! ## The move from the last speed -/

/-- The speed that a full step leads to: the step is scaled down for a tick that comes early, and
the result stays within the allowed range. -/
def move (c : Config) (last step : Single) (elapsed : Duration) : Single :=
  ((last + c.scaleStep step elapsed).maxNum c.minSpeed).minNum maxSpeed

variable {last last' step step' z : Single}

theorem isFinite_last (hc : c.Valid) (h : c.minSpeed ≤ last) (h' : last ≤ maxSpeed) :
    last.isFinite := by
  have hnonneg := Binary.le_trans hc.minSpeed_nonneg h
  exact isFinite_of_le_of_le isFinite_ofNat_zero isFinite_maxSpeed hnonneg h'

theorem rank_stepFactor_le (hc : c.Valid) (elapsed : Duration) :
    (c.stepFactor elapsed).rank ≤ Format.single.unit := by
  have one : (ofNat 1 : Single).rank = Format.single.unit := by decide +kernel
  have := rank_le_of_le (stepFactor_mem hc elapsed).2
  omega

theorem isFinite_scaleStep (hc : c.Valid) (hs : step.isFinite) (elapsed : Duration) :
    (c.scaleStep step elapsed).isFinite :=
  isFinite_mul_of_le_one hs (isFinite_stepFactor hc elapsed) (stepFactor_mem hc elapsed).1
    (rank_stepFactor_le hc elapsed)

theorem scaleStep_mono (hc : c.Valid) (hs : step.isFinite) (hs' : step'.isFinite)
    (h : step ≤ step') (elapsed : Duration) :
    c.scaleStep step elapsed ≤ c.scaleStep step' elapsed :=
  Binary.mul_le_mul_right hs hs' (isFinite_stepFactor hc elapsed) (stepFactor_mem hc elapsed).1 h

theorem rank_scaleStep_neg (hc : c.Valid) (hs : step.isFinite) (elapsed : Duration) :
    (c.scaleStep (-step) elapsed).rank = -(c.scaleStep step elapsed).rank :=
  neg_mul_rank hs (isFinite_stepFactor hc elapsed)

theorem scaleStep_nonneg (hc : c.Valid) (hs : step.isFinite) (h : ofNat 0 ≤ step)
    (elapsed : Duration) : ofNat 0 ≤ c.scaleStep step elapsed :=
  Binary.mul_nonneg hs h (stepFactor_mem hc elapsed).1
    (isNaN_of_isFinite (isFinite_scaleStep hc hs elapsed))

theorem scaleStep_nonpos (hc : c.Valid) (hs : step.isFinite) (h : step ≤ ofNat 0)
    (elapsed : Duration) : c.scaleStep step elapsed ≤ ofNat 0 := by
  have hneg : (-step).isFinite := by simpa using hs
  have hpos : ofNat 0 ≤ -step := by
    rw [Binary.le_zero_iff] at h
    rw [zero_le_iff, isNaN_neg, rank_neg]
    exact ⟨h.1, by omega⟩
  have hflip := (zero_le_iff.1 (scaleStep_nonneg hc hneg hpos elapsed)).2
  rw [rank_scaleStep_neg hc hs] at hflip
  exact Binary.le_zero_iff.2 ⟨isNaN_of_isFinite (isFinite_scaleStep hc hs elapsed), by omega⟩

/-- A tick without elapsed time scales every step to nothing. -/
theorem rank_scaleStep_zero (hc : c.Valid) (hs : step.isFinite) :
    (c.scaleStep step .zero).rank = 0 := by
  unfold scaleStep
  rw [rank_mul hs (isFinite_stepFactor hc .zero), stepFactor_zero hc, Int.mul_zero,
    Format.nearest_zero]

/-! The bounds of a move are those of the sum before it is brought into the allowed range. -/

theorem le_move (hc : c.Valid) (hl : last.isFinite) (hs : step.isFinite) {elapsed : Duration}
    (h : z ≤ last + c.scaleStep step elapsed) (hz : z ≤ maxSpeed) :
    z ≤ c.move last step elapsed := by
  have hsum := isNaN_add hl (isFinite_scaleStep hc hs elapsed)
  apply le_minNum _ hz
  intro _
  exact Binary.le_trans h (le_maxNum_left hsum hc.isNaN_minSpeed)

theorem move_le {elapsed : Duration} (h : last + c.scaleStep step elapsed ≤ z)
    (hz : c.minSpeed ≤ z) : c.move last step elapsed ≤ z := by
  have hmax : (last + c.scaleStep step elapsed).maxNum c.minSpeed ≤ z := maxNum_le (fun _ => h) hz
  exact Binary.le_trans (minNum_le_left (isNaN_left_of_le hmax) isNaN_maxSpeed) hmax

/-- Every move ends in the allowed range, whatever it starts from. -/
theorem move_mem (hc : c.Valid) (last step : Single) (elapsed : Duration) :
    c.minSpeed ≤ c.move last step elapsed ∧ c.move last step elapsed ≤ maxSpeed := by
  constructor
  · exact le_minNum (fun _ => le_maxNum_right hc.isNaN_minSpeed) hc.minSpeed_le
  · exact minNum_le_right isNaN_maxSpeed

/-- A larger step does not lead to a lower speed. -/
theorem move_mono (hc : c.Valid) (hl : last.isFinite) (hs : step.isFinite) (hs' : step'.isFinite)
    (h : step ≤ step') (elapsed : Duration) :
    c.move last step elapsed ≤ c.move last step' elapsed := by
  have hscaled := scaleStep_mono hc hs hs' h elapsed
  have hsum : last + c.scaleStep step elapsed ≤ last + c.scaleStep step' elapsed :=
    Binary.add_le_add hl (isFinite_scaleStep hc hs elapsed) hl (isFinite_scaleStep hc hs' elapsed)
      (Binary.le_refl (isNaN_of_isFinite hl)) hscaled
  have hsum' := le_maxNum_left (isNaN_right_of_le hsum) hc.isNaN_minSpeed
  have hmax := maxNum_le (fun _ => Binary.le_trans hsum hsum') (le_maxNum_right hc.isNaN_minSpeed)
  apply le_minNum (fun _ => ?_) (minNum_le_right isNaN_maxSpeed)
  exact Binary.le_trans (minNum_le_left (isNaN_left_of_le hmax) isNaN_maxSpeed) hmax

theorem sub_scaleStep_le_last (hc : c.Valid) (hl : last.isFinite) {limit : Single}
    (hlim : limit.isFinite) (h0 : ofNat 0 ≤ limit) (elapsed : Duration) :
    last - c.scaleStep limit elapsed ≤ last := by
  have hscaled := isFinite_scaleStep hc hlim elapsed
  have hnonneg := zero_le_iff.1 (scaleStep_nonneg hc hlim h0 elapsed)
  rw [Binary.sub_eq_add_neg]
  apply add_le_of_nonpos hl (by simpa using hscaled)
  rw [Binary.le_zero_iff, isNaN_neg, rank_neg]
  exact ⟨hnonneg.1, by omega⟩

section InRange

variable (h : c.minSpeed ≤ last) (h' : last ≤ maxSpeed)

include h h'

theorem last_le_move (hc : c.Valid) (hs : step.isFinite) {elapsed : Duration}
    (hup : ofNat 0 ≤ c.scaleStep step elapsed) : last ≤ c.move last step elapsed := by
  have hl := isFinite_last hc h h'
  exact le_move hc hl hs (le_add_of_nonneg hl (isFinite_scaleStep hc hs elapsed) hup) h'

theorem move_le_last (hc : c.Valid) (hs : step.isFinite) {elapsed : Duration}
    (hdown : c.scaleStep step elapsed ≤ ofNat 0) : c.move last step elapsed ≤ last := by
  have hl := isFinite_last hc h h'
  exact move_le (add_le_of_nonpos hl (isFinite_scaleStep hc hs elapsed) hdown) h

/-- A step within a limit downward lowers the speed by no more than the scaled limit. -/
theorem sub_scaleStep_le_move (hc : c.Valid) {limit : Single} (hlim : limit.isFinite)
    (h0 : ofNat 0 ≤ limit) (hs : step.isFinite) (hstep : -limit ≤ step) (elapsed : Duration) :
    last - c.scaleStep limit elapsed ≤ c.move last step elapsed := by
  have hl := isFinite_last hc h h'
  have hneg : (-limit).isFinite := by simpa using hlim
  have hscaled : (-c.scaleStep limit elapsed).isFinite := by
    simpa using isFinite_scaleStep hc hlim elapsed
  have hlow : -c.scaleStep limit elapsed ≤ c.scaleStep step elapsed := by
    have hmono := scaleStep_mono hc hneg hs hstep elapsed
    refine le_of_rank_le (isNaN_of_isFinite hscaled) (isNaN_right_of_le hmono) ?_
    have hr := rank_le_of_le hmono
    rw [rank_scaleStep_neg hc hlim] at hr
    rwa [rank_neg]
  apply le_move hc hl hs
  · rw [Binary.sub_eq_add_neg]
    exact Binary.add_le_add hl hscaled hl (isFinite_scaleStep hc hs elapsed)
      (Binary.le_refl (isNaN_of_isFinite hl)) hlow
  · exact Binary.le_trans (sub_scaleStep_le_last hc hl hlim h0 elapsed) h'

/-- A step within a limit upward raises the speed by no more than the scaled limit. -/
theorem move_le_add_scaleStep (hc : c.Valid) {limit : Single} (hlim : limit.isFinite)
    (h0 : ofNat 0 ≤ limit) (hs : step.isFinite) (hstep : step ≤ limit) (elapsed : Duration) :
    c.move last step elapsed ≤ last + c.scaleStep limit elapsed := by
  have hl := isFinite_last hc h h'
  have hscaled := isFinite_scaleStep hc hlim elapsed
  apply move_le
  · exact Binary.add_le_add hl (isFinite_scaleStep hc hs elapsed) hl hscaled
      (Binary.le_refl (isNaN_of_isFinite hl)) (scaleStep_mono hc hs hlim hstep elapsed)
  · exact Binary.le_trans h (le_add_of_nonneg hl hscaled (scaleStep_nonneg hc hlim h0 elapsed))

end InRange

/-! ## The decision -/

variable {a : Aggregate} {s : Snapshot}

/-- Where the thermal state is not known to be safe, the decision is full speed. -/
theorem nextSpeed_eq_maxSpeed (h : a.overheat = true ∨ a.choose = none) (last : Single)
    (elapsed : Duration) : c.nextSpeed last a elapsed = maxSpeed := by
  unfold nextSpeed
  rcases h with h | h
  · rw [if_pos h]
  · rw [h]
    exact ite_self _

/-- Otherwise the chosen sensor decides: no change within the deadband, else a move. -/
theorem nextSpeed_of_choose (h : a.overheat = false) (hs : a.choose = some s) (last : Single)
    (elapsed : Duration) :
    c.nextSpeed last a elapsed =
      if c.inDeadband s.deltap then last else c.move last (c.fullStep s) elapsed := by
  unfold nextSpeed move
  rw [if_neg (by simp [h]), hs]

/-- The decision is to hold the speed: no sensor overheats, the chosen one is in the deadband. -/
def Holds (c : Config) (a : Aggregate) : Prop :=
  a.overheat = false ∧ ∃ s, a.choose = some s ∧ c.inDeadband s.deltap

/-- A decision that is not to hold the speed ends in the allowed range, whatever it starts from. -/
theorem nextSpeed_cases (hc : c.Valid) (last : Single) (a : Aggregate) (elapsed : Duration) :
    c.Holds a ∧ c.nextSpeed last a elapsed = last ∨
      ¬c.Holds a ∧
        c.minSpeed ≤ c.nextSpeed last a elapsed ∧ c.nextSpeed last a elapsed ≤ maxSpeed := by
  have hfull : c.minSpeed ≤ maxSpeed ∧ maxSpeed ≤ maxSpeed :=
    ⟨hc.minSpeed_le, Binary.le_refl isNaN_maxSpeed⟩
  cases hhot : a.overheat with
  | true =>
    rw [nextSpeed_eq_maxSpeed (.inl hhot)]
    exact .inr ⟨fun h => Bool.noConfusion (hhot.symm.trans h.1), hfull⟩
  | false =>
    cases hs : a.choose with
    | none =>
      rw [nextSpeed_eq_maxSpeed (.inr hs)]
      refine .inr ⟨?_, hfull⟩
      rintro ⟨-, s, hs', -⟩
      rw [hs] at hs'
      cases hs'
    | some s =>
      rw [nextSpeed_of_choose hhot hs]
      split
      · next hband => exact .inl ⟨⟨hhot, s, hs, hband⟩, rfl⟩
      · next hout =>
        refine .inr ⟨?_, move_mem hc last _ elapsed⟩
        rintro ⟨-, s', hs', hband⟩
        obtain rfl : s = s' := Option.some.inj (hs.symm.trans hs')
        exact hout hband

/-- Every decision keeps to the allowed range. -/
theorem nextSpeed_mem (hc : c.Valid) (h : c.minSpeed ≤ last) (h' : last ≤ maxSpeed)
    (a : Aggregate) (elapsed : Duration) :
    c.minSpeed ≤ c.nextSpeed last a elapsed ∧ c.nextSpeed last a elapsed ≤ maxSpeed := by
  rcases nextSpeed_cases hc last a elapsed with ⟨-, heq⟩ | ⟨-, hmem⟩
  · rw [heq]
    exact ⟨h, h'⟩
  · exact hmem

section Chosen

variable (hc : c.Valid) (h : c.minSpeed ≤ last) (h' : last ≤ maxSpeed) (hcool : a.overheat = false)
  (hs : a.choose = some s) (hsigns : s.SignsAgree) (elapsed : Duration)

include hc h h' hcool hs hsigns

/-- The rate limits hold within the deadband, where nothing changes, and for every move. -/
theorem nextSpeed_bounds :
    last - c.scaleStep c.maxDecrease elapsed ≤ c.nextSpeed last a elapsed ∧
      c.nextSpeed last a elapsed ≤ last + c.scaleStep c.maxIncrease elapsed := by
  have hl := isFinite_last hc h h'
  have hfull := isFinite_fullStep hc hsigns
  obtain ⟨hlow, hhigh⟩ := fullStep_mem hc hsigns
  rw [nextSpeed_of_choose hcool hs]
  split
  · constructor
    · exact sub_scaleStep_le_last hc hl hc.maxDecrease_finite hc.maxDecrease_nonneg elapsed
    · exact le_add_of_nonneg hl (isFinite_scaleStep hc hc.maxIncrease_finite elapsed)
        (scaleStep_nonneg hc hc.maxIncrease_finite hc.maxIncrease_nonneg elapsed)
  · constructor
    · exact sub_scaleStep_le_move h h' hc hc.maxDecrease_finite hc.maxDecrease_nonneg hfull hlow
        elapsed
    · exact move_le_add_scaleStep h h' hc hc.maxIncrease_finite hc.maxIncrease_nonneg hfull hhigh
        elapsed

theorem nextSpeed_le_last (hdown : c.fullStep s ≤ ofNat 0) :
    c.nextSpeed last a elapsed ≤ last := by
  have hfull := isFinite_fullStep hc hsigns
  rw [nextSpeed_of_choose hcool hs]
  split
  · exact Binary.le_refl (isNaN_right_of_le h)
  · exact move_le_last h h' hc hfull (scaleStep_nonpos hc hfull hdown elapsed)

theorem last_le_nextSpeed (hup : ofNat 0 ≤ c.fullStep s) :
    last ≤ c.nextSpeed last a elapsed := by
  have hfull := isFinite_fullStep hc hsigns
  rw [nextSpeed_of_choose hcool hs]
  split
  · exact Binary.le_refl (isNaN_right_of_le h)
  · exact last_le_move h h' hc hfull (scaleStep_nonneg hc hfull hup elapsed)

omit elapsed in
theorem nextSpeed_zero_numEq : (c.nextSpeed last a .zero).numEq last := by
  have hfull := isFinite_fullStep hc hsigns
  have hnum := isNaN_of_isFinite (isFinite_scaleStep hc hfull .zero)
  have hzero := rank_scaleStep_zero hc hfull
  rw [nextSpeed_of_choose hcool hs, numEq_iff]
  split
  · exact ⟨Binary.le_refl (isNaN_right_of_le h), Binary.le_refl (isNaN_right_of_le h)⟩
  · constructor
    · exact move_le_last h h' hc hfull (Binary.le_zero_iff.2 ⟨hnum, by omega⟩)
    · exact last_le_move h h' hc hfull (zero_le_iff.2 ⟨hnum, by omega⟩)

end Chosen

/-- A decision is within the limits for the elapsed time, in the direction of the chosen sensor,
and no change at all within the deadband or without elapsed time. -/
theorem nextSpeed_step (hc : c.validate = .ok ()) (offset factor : Single)
    (targets : Targets Single) (readings : List Reading) (h : c.minSpeed ≤ last)
    (h' : last ≤ maxSpeed) (elapsed : Duration) :
    let a := ({ Aggregate.start offset factor with targets }).processAll readings
    let f := ((elapsed.toSeconds / c.intervalSecs).minNum (ofNat 1)).toSingle
    let r := c.nextSpeed last a elapsed
    (a.overheat = true ∨ a.snapshots = [] → r = maxSpeed) ∧
      (a.overheat = false → a.snapshots ≠ [] →
        ∃ s ∈ a.snapshots, a.choose = some s ∧
          (last - c.maxDecrease * f ≤ r ∧ r ≤ last + c.maxIncrease * f) ∧
          (s.delta < ofNat 0 → r ≤ last) ∧ (¬s.delta < ofNat 0 → last ≤ r) ∧
          (c.deadbandLow < s.deltap * ofNat 100 ∧ s.deltap * ofNat 100 < c.deadbandHigh →
            r = last) ∧
          (elapsed = .zero → r.numEq last)) := by
  intro a f r
  rw [validate_eq_ok_iff] at hc
  constructor
  · intro hsafe
    rw [← Aggregate.choose_eq_none_iff] at hsafe
    exact nextSpeed_eq_maxSpeed hsafe last elapsed
  intro hcool hne
  obtain ⟨s, hs⟩ := Option.ne_none_iff_exists'.1 (mt Aggregate.choose_eq_none_iff.1 hne)
  have hmem := Aggregate.choose_mem hs
  have hsigns : s.SignsAgree := Aggregate.signsAgree_of_processAll rfl hmem
  refine ⟨s, hmem, hs, ?_, ?_, ?_, ?_, ?_⟩
  · exact nextSpeed_bounds hc h h' hcool hs hsigns elapsed
  · intro hbelow
    have hdown := (fullStep_of_below hc hsigns hbelow).2
    exact nextSpeed_le_last hc h h' hcool hs hsigns elapsed hdown
  · intro habove
    have hup := (fullStep_of_above hc hsigns habove).1
    exact last_le_nextSpeed hc h h' hcool hs hsigns elapsed hup
  · intro (hband : c.inDeadband s.deltap)
    show c.nextSpeed last a elapsed = last
    rw [nextSpeed_of_choose hcool hs, if_pos hband]
  · rintro rfl
    exact nextSpeed_zero_numEq hc h h' hcool hs hsigns

/-- Half an interval at ten degrees below the target: the speed does not rise, and it falls by no
more than half of the largest decrease. -/
theorem nextSpeed_step_below_target :
    let reading : Reading :=
      ⟨"cpu", some (ofNat 60), ⟨some (ofNat 95), some (ofNat 100), some (ofNat 70)⟩⟩
    let a := ({ Aggregate.start (ofNat 0) (ofNat 1) with targets := .empty }).processAll [reading]
    let r := Config.default.nextSpeed (ofNat 50) a ⟨30000000000, by decide⟩
    (Config.default.validate = .ok () ∧ Config.default.minSpeed ≤ ofNat 50 ∧
        ofNat 50 ≤ maxSpeed) ∧
      a.overheat = false ∧ a.snapshots ≠ [] ∧ ofNat 45 ≤ r ∧ r ≤ ofNat 50 := by
  intro reading a r
  have h : Config.default.minSpeed ≤ ofNat 50 := by decide +kernel
  have h' : ofNat 50 ≤ maxSpeed := by decide +kernel
  have hcool : a.overheat = false := by decide +kernel
  have hne : a.snapshots ≠ [] := by decide +kernel
  have hdelta : ∀ s ∈ a.snapshots, s.delta < ofNat 0 := by decide +kernel
  obtain ⟨s, hmem, -, ⟨hlow, -⟩, hbelow, -⟩ :=
    (nextSpeed_step validate_default (ofNat 0) (ofNat 1) .empty [reading] h h'
      ⟨30000000000, by decide⟩).2 hcool hne
  have hhalf : (ofNat 45 : Single) ≤ ofNat 50 - Config.default.maxDecrease *
      (((⟨30000000000, by decide⟩ : Duration).toSeconds / Config.default.intervalSecs).minNum
        (ofNat 1)).toSingle := by
    decide +kernel
  exact ⟨⟨validate_default, h, h'⟩, hcool, hne, Binary.le_trans hhalf hlow, hbelow (hdelta s hmem)⟩

end Config

end ChassisCooling
