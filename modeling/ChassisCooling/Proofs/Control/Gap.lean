import ChassisCooling.Machine.Basic
import ChassisCooling.Proofs.Control.Interval
import ChassisCooling.Proofs.Control.Reachable
import ChassisCooling.Proofs.Control.Step
import ChassisCooling.Proofs.Seconds

/-!
# The time between two ticks

A tick scales its step by the time since the last one, as a part of the nominal interval. A later
tick never has the weaker step, so long as the gap is a duration at all: from `2 ^ 64` seconds on it
counts as none. A gap of the nominal interval is as good as the interval rounded to nanoseconds,
which is a full step for intervals from a fiftieth of a second on.

* `Duration.ofGap`: what a gap between two clock readings counts as; `Duration.ofGap_mono`.
* `Config.stepFactor_mono`, `Config.stepFactor_ofGap`: the part of the step that it allows.
* `System.Reachable.tick_strength`: a controller that has ticked, at two later times.
* `System.longer_gap_weaker`: a gap that is no duration, and an interval of a few nanoseconds.
-/

namespace ChassisCooling

attribute [local instance] naturalPower

open Binary

namespace Duration

variable {gap gap' : Double}

/-! ## What a gap counts as -/

/-- A gap that is negative or not a number counts as none, and so does one that is too long for a
duration. -/
def ofGap (gap : Double) : Duration := (ofSeconds? (gap.maxNum (ofNat 0))).getD .zero

theorem ofGap_of_isNaN (h : gap.isNaN = true) : ofGap gap = .zero := by
  unfold ofGap
  rw [maxNum_of_isNaN_left h]
  decide +kernel

theorem ofGap_of_le (h : secondsBound ≤ gap) : ofGap gap = .zero := by
  have hle : secondsBound ≤ gap.maxNum (ofNat 0) :=
    Binary.le_trans h (le_maxNum_left h.2.1 (isNaN_ofNat 0))
  unfold ofGap
  cases hd : ofSeconds? (gap.maxNum (ofNat 0)) with
  | none => rfl
  | some d =>
    have hfin : (gap.maxNum (ofNat 0)).isFinite := by
      generalize gap.maxNum (ofNat 0) = x at *
      cases x with
      | nan => cases hd
      | infinity s => cases hd
      | finite s m hm => rfl
    have h0 := le_maxNum_right (x := gap) (isNaN_ofNat 0)
    exact absurd hle (not_le_of_lt ((exists_ofSeconds?_iff hfin h0).1 ⟨d, hd⟩))

/-- A gap below the bound has a duration, if it is brought up to zero. -/
theorem ofSeconds?_gap (hnum : gap.isNaN = false) (h : ¬secondsBound ≤ gap) :
    (gap.maxNum (ofNat 0)).isFinite ∧ ofNat 0 ≤ gap.maxNum (ofNat 0) ∧
      ofSeconds? (gap.maxNum (ofNat 0)) = some (ofGap gap) := by
  have h0 := le_maxNum_right (x := gap) (isNaN_ofNat (f := .double) 0)
  have hlt : gap.maxNum (ofNat 0) < secondsBound := by
    refine ⟨h0.2.1, isNaN_secondsBound, ?_⟩
    have hrank := (lt_of_not_le hnum isNaN_secondsBound h).2.2
    have hbound : 0 < secondsBound.rank := by decide +kernel
    rw [rank_maxNum hnum (isNaN_ofNat 0), rank_ofNat_zero]
    omega
  have hfin := isFinite_of_le_of_le isFinite_ofNat_zero isFinite_secondsBound h0
    (Binary.le_of_lt hlt)
  obtain ⟨d, hd⟩ := (exists_ofSeconds?_iff hfin h0).2 hlt
  refine ⟨hfin, h0, ?_⟩
  unfold ofGap
  rw [hd]
  rfl

theorem ofGap_mono (h : gap ≤ gap') (hbound : ¬secondsBound ≤ gap') :
    (ofGap gap).nanoseconds ≤ (ofGap gap').nanoseconds := by
  have hbound' : ¬secondsBound ≤ gap := fun hle => hbound (Binary.le_trans hle h)
  obtain ⟨hfin, h0, hd⟩ := ofSeconds?_gap h.1 hbound'
  obtain ⟨hfin', -, hd'⟩ := ofSeconds?_gap h.2.1 hbound
  refine ofSeconds?_mono hfin hfin' h0 ?_ hd hd'
  have hzero := isNaN_ofNat (f := .double) 0
  refine ⟨isNaN_maxNum hzero, isNaN_maxNum hzero, ?_⟩
  rw [rank_maxNum h.1 hzero, rank_maxNum h.2.1 hzero]
  have := h.2.2
  omega

end Duration

namespace Config

variable {c : Config} {d d' : Duration}

/-! ## The part of the step -/

theorem stepFactor_mono (hc : c.Valid) (h : d.nanoseconds ≤ d'.nanoseconds) :
    c.stepFactor d ≤ c.stepFactor d' := by
  have hquot := div_le_div_right hc.intervalSecs_finite hc.intervalSecs_pos
    (Duration.toSeconds_mono h)
  have hmin : (d.toSeconds / c.intervalSecs).minNum (ofNat 1) ≤
      (d'.toSeconds / c.intervalSecs).minNum (ofNat 1) := by
    have hone := isNaN_ofNat (f := .double) 1
    apply le_minNum (fun _ => ?_) (minNum_le_right hone)
    exact Binary.le_trans (minNum_le_left hquot.1 hone) hquot
  unfold stepFactor toSingle
  exact convert_le_convert .single (isFinite_fraction hc d) (isFinite_fraction hc d') hmin

theorem stepFactor_eq_one_of_one_le (hc : c.Valid) (h : ofNat 1 ≤ c.stepFactor d) :
    c.stepFactor d = ofNat 1 := by
  have hcap := (stepFactor_mem hc d).2
  have hne : (ofNat 1 : Single).rank ≠ 0 := by decide +kernel
  exact (eq_of_rank_eq h.1 h.2.1 (Int.le_antisymm h.2.2 hcap.2.2) hne).symm

/-- A part in `2 ^ 25` below one is rounded to one in the shorter format. -/
def almostOne : Double := ofNat 33554431 / ofNat 33554432

theorem almostOne_mem : almostOne.isFinite ∧ almostOne ≤ ofNat 1 ∧
    almostOne.convert .single = ofNat 1 := by
  decide +kernel

theorem rank_almostOne :
    almostOne.rank * 33554432 = (33554431 * Format.double.unit : Nat) := by
  decide +kernel

/-- Seconds that fall short of the interval by one part in `2 ^ 25` at most allow a full step. -/
theorem stepFactor_eq_one (hc : c.Valid)
    (h : 33554431 * c.intervalSecs.rank ≤ d.toSeconds.rank * 33554432) :
    c.stepFactor d = ofNat 1 := by
  obtain ⟨hfin, hle, hconvert⟩ := almostOne_mem
  have hpos := (Binary.zero_lt_iff.1 hc.intervalSecs_pos).2
  have hquot : almostOne ≤ d.toSeconds / c.intervalSecs := by
    refine ⟨isNaN_of_isFinite hfin,
      isNaN_div d.isFinite_toSeconds hc.intervalSecs_finite hc.intervalSecs_pos, ?_⟩
    obtain ⟨n, hn⟩ := Int.eq_ofNat_of_zero_le (Int.le_of_lt hpos)
    rw [rank_div d.isFinite_toSeconds hc.intervalSecs_finite hc.intervalSecs_pos]
    rw [hn] at h hpos ⊢
    have hpos' : 0 < (n : Int).natAbs := by omega
    rw [← nearest_rank hfin hpos']
    apply Format.nearest_mono _ hpos' hpos'
    apply Int.mul_le_mul_of_nonneg_right _ (Int.natCast_nonneg _)
    rw [Int.natAbs_natCast]
    have hrank := rank_almostOne
    generalize almostOne.rank = a at *
    generalize d.toSeconds.rank = t at *
    generalize Format.double.unit = u at *
    apply Int.le_of_mul_le_mul_right _ (show (0 : Int) < 33554432 by decide)
    calc a * n * 33554432 = a * 33554432 * n := Int.mul_right_comm ..
      _ = 33554431 * n * u := by
        rw [hrank]
        push_cast
        ring
      _ ≤ t * 33554432 * u := Int.mul_le_mul_of_nonneg_right h (Int.natCast_nonneg _)
      _ = t * u * 33554432 := Int.mul_right_comm ..
  have hmin : almostOne ≤ (d.toSeconds / c.intervalSecs).minNum (ofNat 1) :=
    le_minNum (fun _ => hquot) hle
  have hlow := convert_le_convert .single hfin (isFinite_fraction hc d) hmin
  rw [hconvert] at hlow
  exact stepFactor_eq_one_of_one_le hc hlow

theorem stepFactor_eq_one_of_le (hc : c.Valid) (h : c.intervalSecs ≤ d.toSeconds) :
    c.stepFactor d = ofNat 1 := by
  apply stepFactor_eq_one hc
  have hpos := (Binary.zero_lt_iff.1 hc.intervalSecs_pos).2
  have := h.2.2
  omega

/-- The interval itself allows a full step, if it is not too short for nanoseconds. -/
theorem stepFactor_interval (hc : c.Valid) (hd : c.interval = .ok d)
    (h : ofDecimal false 2 (-2) ≤ c.intervalSecs) : c.stepFactor d = ofNat 1 := by
  have fiftieth : (Format.double.unit : Int) ≤ 51 * (ofDecimal false 2 (-2) : Double).rank := by
    decide +kernel
  have hlong := h.2.2
  exact stepFactor_eq_one hc (Duration.near_toSeconds_of_ofSeconds? hc.intervalSecs_finite
    (Binary.le_of_lt hc.intervalSecs_pos) (interval_eq_ok_iff.1 hd) (by omega))

/-- A gap of the interval or more is worth the interval at least. -/
theorem interval_le_ofGap (hc : c.Valid) {gap : Double} (h : c.intervalSecs ≤ gap)
    (hbound : ¬Duration.secondsBound ≤ gap) :
    ∃ nominal, c.interval = .ok nominal ∧
      nominal.nanoseconds ≤ (Duration.ofGap gap).nanoseconds := by
  have hpos := Binary.le_of_lt hc.intervalSecs_pos
  have hlt : c.intervalSecs < Duration.secondsBound := by
    apply lt_of_not_le h.1 Duration.isNaN_secondsBound
    exact fun hle => hbound (Binary.le_trans hle h)
  obtain ⟨nominal, hnominal⟩ := (exists_interval_iff hc).2 hlt
  obtain ⟨hfin, -, hd⟩ := Duration.ofSeconds?_gap h.2.1 hbound
  refine ⟨nominal, hnominal, Duration.ofSeconds?_mono hc.intervalSecs_finite hfin hpos ?_
    (interval_eq_ok_iff.1 hnominal) hd⟩
  exact Binary.le_trans h (le_maxNum_left h.2.1 (isNaN_ofNat 0))

/-- A gap of the interval or more allows the step of the interval in whole nanoseconds, or more of
it. -/
theorem stepFactor_ofGap (hc : c.Valid) {gap : Double} (h : c.intervalSecs ≤ gap)
    (hbound : ¬Duration.secondsBound ≤ gap) :
    ∃ nominal, c.interval = .ok nominal ∧
      c.stepFactor nominal ≤ c.stepFactor (Duration.ofGap gap) ∧
      (ofDecimal false 2 (-2) ≤ c.intervalSecs ∨ c.intervalSecs ≤ nominal.toSeconds →
        c.stepFactor (Duration.ofGap gap) = ofNat 1) := by
  obtain ⟨nominal, hnominal, hle⟩ := interval_le_ofGap hc h hbound
  have hstrong := stepFactor_mono hc hle
  refine ⟨nominal, hnominal, hstrong, fun hexact => ?_⟩
  have hfull : c.stepFactor nominal = ofNat 1 := by
    rcases hexact with hlong | hnear
    · exact stepFactor_interval hc hnominal hlong
    · exact stepFactor_eq_one_of_le hc hnear
  rw [hfull] at hstrong
  exact stepFactor_eq_one_of_one_le hc hstrong

theorem stepFactor_zero_numEq (hc : c.Valid) : (c.stepFactor .zero).numEq (ofNat 0) := by
  have hnum := (stepFactor_mem hc .zero).1.2.1
  have hrank := stepFactor_zero hc
  rw [numEq_iff, zero_le_iff, Binary.le_zero_iff]
  exact ⟨⟨hnum, Int.le_of_eq hrank⟩, hnum, Int.le_of_eq hrank.symm⟩

end Config

section Runs

variable {World Probe Drive Outlet : Type} {P : Platform World Probe Drive Outlet}

namespace Controller

variable {c : Controller Probe Drive Outlet} {previous t t' : Timestamp}

/-! ## Ticks -/

/-- The part of a full step that a tick is allowed at some time. -/
def factorAt (c : Controller Probe Drive Outlet) (now : Timestamp) : Single :=
  c.zone.config.stepFactor (c.elapsedAt now)

theorem elapsedAt_eq (hlast : c.lastTick = some previous) (now : Timestamp) :
    c.elapsedAt now = Duration.ofGap (now - previous) := by
  unfold elapsedAt
  rw [hlast]
  rfl

/-- A tick without an elapsed time of its own uses the time since the last one. -/
theorem tick_measured (hc : c.zone.config.Valid) (w : World) (now : Timestamp)
    {options : TickOptions Probe Drive} (hoptions : options.elapsed = none) :
    let z := c.zone.prepared P w now (options.members.lookup c.zone.name) options.refresh
    ∃ report c' w' last, c.tick P w now options = .ok (report, c', w') ∧
      report.elapsed = c.elapsedAt now ∧ z.startingSpeed = .ok last ∧
      report.zone.speed = c.zone.config.nextSpeed last (z.evaluate P w) (c.elapsedAt now) := by
  intro z
  rw [tick_eq, hoptions, Option.getD_none]
  generalize c.elapsedAt now = elapsed
  have hconfig : z.config = c.zone.config := Zone.config_prepared ..
  obtain ⟨last, hlast⟩ := Zone.startingSpeed_ok (hconfig ▸ hc)
  have hrun : c.zone.run P w ⟨now, elapsed⟩ (options.members.lookup c.zone.name) options.refresh =
      .ok (z.conclude P w ⟨now, elapsed⟩ last) :=
    Zone.run_eq_ok P hlast
  rw [hrun, ← hconfig]
  exact ⟨_, _, _, last, rfl, rfl, hlast, rfl⟩

theorem elapsedAt_mono (hlast : c.lastTick = some previous) (ht : t.isFinite) (ht' : t'.isFinite)
    (h : t ≤ t') (hbound : ¬Duration.secondsBound ≤ t' - previous) :
    (c.elapsedAt t).nanoseconds ≤ (c.elapsedAt t').nanoseconds := by
  rw [elapsedAt_eq hlast, elapsedAt_eq hlast]
  rcases Binary.sub_le_sub_right_or ht ht' h previous with hle | ⟨hnan, hnan'⟩
  · exact Duration.ofGap_mono hle hbound
  · rw [Duration.ofGap_of_isNaN hnan, Duration.ofGap_of_isNaN hnan']

end Controller

namespace System

/-- A controller that has ticked before, at two later clock readings. Its ticks end and scale their
step by the time since the last one. So long as the later gap is below `2 ^ 64` seconds, the later
tick has no less elapsed time and no weaker step; and if that gap is the interval or more, no weaker
a step than a gap of the interval in whole nanoseconds, which is a full step if the interval is a
fiftieth of a second or more or was not rounded down. From `2 ^ 64` seconds on a gap counts as no
time at all, and there is no step. -/
theorem Reachable.tick_strength {s : System World Probe Drive Outlet} (hs : s.Reachable P)
    {previous t t' : Timestamp} (hlast : s.controller.lastTick = some previous)
    (ht : t.isFinite) (ht' : t'.isFinite) (h : t ≤ t') :
    let c := s.controller
    (∀ (w : World) (now : Timestamp) (options : TickOptions Probe Drive), options.elapsed = none →
        let z := c.zone.prepared P w now (options.members.lookup c.zone.name) options.refresh
        ∃ report c' w' last, c.tick P w now options = .ok (report, c', w') ∧
          report.elapsed = c.elapsedAt now ∧ z.startingSpeed = .ok last ∧
          report.zone.speed = c.zone.config.nextSpeed last (z.evaluate P w) (c.elapsedAt now)) ∧
      (¬Duration.secondsBound ≤ t' - previous →
        (c.elapsedAt t).nanoseconds ≤ (c.elapsedAt t').nanoseconds ∧
        c.factorAt t ≤ c.factorAt t' ∧
        (c.zone.config.intervalSecs ≤ t' - previous →
          ∃ nominal, c.zone.config.interval = .ok nominal ∧
            c.zone.config.stepFactor nominal ≤ c.factorAt t' ∧
            (ofDecimal false 2 (-2) ≤ c.zone.config.intervalSecs ∨
                c.zone.config.intervalSecs ≤ nominal.toSeconds →
              c.factorAt t' = ofNat 1))) ∧
      (Duration.secondsBound ≤ t' - previous →
        c.elapsedAt t' = .zero ∧ (c.factorAt t').numEq (ofNat 0)) := by
  intro c
  have hc : c.zone.config.Valid := hs.settled.config_eq ▸ hs.settled.valid
  refine ⟨fun w now options hoptions => c.tick_measured hc w now hoptions, fun hbound => ?_,
    fun hbound => ?_⟩
  · have helapsed := Controller.elapsedAt_mono hlast ht ht' h hbound
    refine ⟨helapsed, Config.stepFactor_mono hc helapsed, fun hlong => ?_⟩
    rw [Controller.factorAt, Controller.elapsedAt_eq hlast]
    exact Config.stepFactor_ofGap hc hlong hbound
  · have hzero : c.elapsedAt t' = .zero := by
      rw [Controller.elapsedAt_eq hlast, Duration.ofGap_of_le hbound]
    rw [Controller.factorAt, hzero]
    exact ⟨rfl, Config.stepFactor_zero_numEq hc⟩

/-- The first tick of a new controller. -/
theorem exists_ticked {config : Config} {c : Controller Probe Drive Outlet}
    (h : Controller.create config = .ok c) (w : World) (now : Timestamp) :
    ∃ s : System World Probe Drive Outlet, s.Reachable P ∧ s.controller.lastTick = some now ∧
      s.controller.zone.config = config := by
  have hnew : (System.mk c w).Reachable P := .new h w
  obtain ⟨⟨outcome, s, log⟩, hstep⟩ := exists_step_eq_ok (P := P) hnew.settled (.tick now {})
  obtain ⟨report, -, htick⟩ := exists_tick_of_step hstep
  obtain ⟨z, hc, -, hz⟩ := Controller.exists_tick_eq htick
  refine ⟨s, hnew.step hstep, by rw [hc], ?_⟩
  obtain ⟨-, -, elapsed, -, rfl⟩ := Controller.create_eq_ok_iff.1 h
  rw [hc]
  exact hz

end System

end Runs

namespace System

/-- A controller of the defaults, half a minute and a minute after its first tick. -/
theorem Reachable.tick_strength_of_minute :
    ∃ s : System Machine Probe Drive Recorder,
      (s.Reachable Machine.platform ∧ s.controller.lastTick = some (ofNat 0) ∧
        (ofNat 30 : Timestamp).isFinite ∧ (ofNat 60 : Timestamp).isFinite ∧
        (ofNat 30 : Timestamp) ≤ ofNat 60) ∧
      (s.controller.elapsedAt (ofNat 30)).nanoseconds ≤
          (s.controller.elapsedAt (ofNat 60)).nanoseconds ∧
      s.controller.factorAt (ofNat 30) ≤ s.controller.factorAt (ofNat 60) ∧
      s.controller.factorAt (ofNat 60) = ofNat 1 := by
  obtain ⟨s, hs, hlast, hconfig⟩ :=
    exists_ticked (P := Machine.platform) Controller.create_default Machine.blank (ofNat 0)
  have ht : (ofNat 30 : Timestamp).isFinite := by decide +kernel
  have ht' : (ofNat 60 : Timestamp).isFinite := by decide +kernel
  have hle : (ofNat 30 : Timestamp) ≤ ofNat 60 := by decide +kernel
  have hbound : ¬Duration.secondsBound ≤ (ofNat 60 : Timestamp) - ofNat 0 := by decide +kernel
  obtain ⟨-, hbelow, -⟩ := hs.tick_strength hlast ht ht' hle
  obtain ⟨helapsed, hfactor, hfull⟩ := hbelow hbound
  rw [hconfig] at hfull
  obtain ⟨nominal, -, -, hexact⟩ := hfull (by decide +kernel)
  exact ⟨s, ⟨hs, hlast, ht, ht', hle⟩, helapsed, hfactor, hexact (.inl (by decide +kernel))⟩

/-- After a gap of `10 ^ 20` seconds there is less elapsed time than after a minute, and a weaker
step; and an interval of 1.4 nanoseconds is measured as one nanosecond, which is no full step. -/
theorem longer_gap_weaker :
    (∃ s : System Machine Probe Drive Recorder,
      s.Reachable Machine.platform ∧ s.controller.lastTick = some (ofNat 0) ∧
        let c := s.controller
        let minute : Timestamp := ofNat 60
        let late : Timestamp := ofDecimal false 1 20
        minute ≤ late ∧ late.isFinite ∧ c.zone.config.intervalSecs ≤ late - ofNat 0 ∧
          (c.elapsedAt late).nanoseconds < (c.elapsedAt minute).nanoseconds ∧
          c.factorAt late < c.factorAt minute) ∧
      ∃ s : System Machine Probe Drive Recorder,
        s.Reachable Machine.platform ∧ s.controller.lastTick = some (ofNat 0) ∧
          let c := s.controller
          let soon : Timestamp := ofDecimal false 14 (-10)
          c.zone.config.intervalSecs ≤ soon - ofNat 0 ∧ c.factorAt soon < ofNat 1 := by
  let short := { Config.default with intervalSecs := ofDecimal false 14 (-10) }
  have hshort : short.Valid := by constructor <;> decide +kernel
  have hcreate : ∃ c : Controller Probe Drive Recorder, Controller.create short = .ok c :=
    ⟨_, Controller.create_eq_ok_iff.2 ⟨hshort, by decide, ⟨1, by decide⟩,
      Config.interval_eq_ok_iff.2 (by decide +kernel), rfl⟩⟩
  obtain ⟨c, hc⟩ := hcreate
  obtain ⟨s, hs, hlast, hconfig⟩ :=
    exists_ticked (P := Machine.platform) Controller.create_default Machine.blank (ofNat 0)
  obtain ⟨s', hs', hlast', hconfig'⟩ :=
    exists_ticked (P := Machine.platform) hc Machine.blank (ofNat 0)
  refine ⟨⟨s, hs, hlast, ?_⟩, s', hs', hlast', ?_⟩
  · intro c minute late
    unfold Controller.factorAt
    rw [Controller.elapsedAt_eq hlast, Controller.elapsedAt_eq hlast, hconfig]
    decide +kernel
  · intro c soon
    unfold Controller.factorAt
    rw [Controller.elapsedAt_eq hlast', hconfig']
    decide +kernel

end System

end ChassisCooling
