import ChassisCooling.Machine.Basic
import ChassisCooling.Proofs.Control.FreshReadings
import ChassisCooling.Proofs.Control.Monotone
import ChassisCooling.Proofs.Thermal.Order

/-!
# The order of sensors

Of several sensors of the highest `deltap` the first one is chosen, so the order of the sensors
decides which of them is named. It decides nothing else: their targets and ceilings may differ, but
the step depends on `deltap` alone, except where that is zero, and then there is no step.

* `Config.move_eq_of_rank_eq`, `Config.nextSpeed_eq_of_numEq`: decisions by the value of `deltap`.
* `Zone.Reordered`: two zones that differ in the order of their sensors.
* `Zone.run_of_reordered`: their ticks.
-/

namespace ChassisCooling

open Binary

namespace Config

variable {c : Config}

/-! ## Decisions by the value of `deltap` -/

/-- Finite terms of one rank give sums that differ in the sign of a zero at most. -/
theorem add_eq_of_rank_eq (last : Single) {x y : Single} (hx : x.isFinite) (hy : y.isFinite)
    (h : x.rank = y.rank) :
    (last + x).isNaN = (last + y).isNaN ∧ (last + x).rank = (last + y).rank := by
  obtain ⟨s, m, hm, rfl⟩ := exists_eq_finite hx
  obtain ⟨t, n, hn, rfl⟩ := exists_eq_finite hy
  cases last with
  | nan => exact ⟨rfl, rfl⟩
  | infinity u => exact ⟨rfl, rfl⟩
  | finite u k hk =>
    have hl : (finite u k hk : Single).isFinite := rfl
    rw [isNaN_add hl hx, isNaN_add hl hy, rank_add hl hx, rank_add hl hy, h]
    exact ⟨rfl, rfl⟩

/-- A move goes by the rank of its step, whatever it starts from: a zero that is left after it is
the lowest speed. -/
theorem move_eq_of_rank_eq (hc : c.Valid) {step step' : Single} (hs : step.isFinite)
    (hs' : step'.isFinite) (h : step.rank = step'.rank) (last : Single) (elapsed : Duration) :
    c.move last step elapsed = c.move last step' elapsed := by
  have hfactor := isFinite_stepFactor hc elapsed
  have hscaled : (c.scaleStep step elapsed).rank = (c.scaleStep step' elapsed).rank := by
    unfold scaleStep
    rw [rank_mul hs hfactor, rank_mul hs' hfactor, h]
  obtain ⟨hnan, hrank⟩ := add_eq_of_rank_eq last (isFinite_scaleStep hc hs elapsed)
    (isFinite_scaleStep hc hs' elapsed) hscaled
  have hlow := zero_le_iff.1 hc.minSpeed_nonneg
  unfold move
  rw [maxNum_eq_of_rank_eq hnan hrank hlow.1 hlow.2]

theorem inDeadband_of_numEq {x y : Single} (h : x.numEq y) (hx : c.inDeadband x) :
    c.inDeadband y := by
  obtain ⟨hle, hge⟩ := numEq_iff.1 h
  exact ⟨Binary.lt_of_lt_of_le hx.1 (mul_hundred_mono hle),
    Binary.lt_of_le_of_lt (mul_hundred_mono hge) hx.2⟩

variable {a a' : Aggregate} {s s' : Snapshot}

/-- Two choices of the same `deltap` lead to the same speed. -/
theorem nextSpeed_eq_of_numEq (hc : c.Valid) (hcool : a.overheat = false)
    (hcool' : a'.overheat = false) (hs : a.choose = some s) (hs' : a'.choose = some s')
    (hsigns : s.SignsAgree) (hsigns' : s'.SignsAgree) (h : s.deltap.numEq s'.deltap)
    (last : Single) (elapsed : Duration) :
    c.nextSpeed last a elapsed = c.nextSpeed last a' elapsed := by
  obtain ⟨hle, hge⟩ := numEq_iff.1 h
  have hband : c.inDeadband s.deltap ↔ c.inDeadband s'.deltap :=
    ⟨inDeadband_of_numEq h, inDeadband_of_numEq (numEq_iff.2 ⟨hge, hle⟩)⟩
  have hup := rank_le_of_le (fullStep_mono hc hsigns hsigns' hle)
  have hdown := rank_le_of_le (fullStep_mono hc hsigns' hsigns hge)
  have hmove : c.move last (c.fullStep s) elapsed = c.move last (c.fullStep s') elapsed :=
    move_eq_of_rank_eq hc (isFinite_fullStep hc hsigns) (isFinite_fullStep hc hsigns')
      (by omega) last elapsed
  rw [nextSpeed_of_choose hcool hs, nextSpeed_of_choose hcool' hs', hmove]
  simp only [hband]

/-- An aggregate of the same readings in another order leads to the same speed. -/
theorem nextSpeed_of_perm (hc : c.Valid) {rs rs' : List Reading} (hperm : rs.Perm rs')
    (hplain : ∀ r ∈ rs, r.Plain) (last : Single) (elapsed : Duration) :
    c.nextSpeed last ((Aggregate.forConfig c).processAll rs) elapsed =
      c.nextSpeed last ((Aggregate.forConfig c).processAll rs') elapsed := by
  have hflag := Aggregate.overheat_of_perm c hperm
  have hchoose := Aggregate.choose_of_perm (Aggregate.snapshots_of_perm c hperm)
    (Aggregate.isNaN_deltap_of_plain hc hplain)
  generalize ha : (Aggregate.forConfig c).processAll rs = a at hflag hchoose ⊢
  generalize ha' : (Aggregate.forConfig c).processAll rs' = a' at hflag hchoose ⊢
  cases hhot : a.overheat with
  | true =>
    rw [nextSpeed_eq_maxSpeed (.inl hhot), nextSpeed_eq_maxSpeed (.inl (hflag.symm.trans hhot))]
  | false =>
    cases hs : a.choose with
    | none =>
      cases hs' : a'.choose with
      | none => rw [nextSpeed_eq_maxSpeed (.inr hs), nextSpeed_eq_maxSpeed (.inr hs')]
      | some s' => simp [hs, hs'] at hchoose
    | some s =>
      cases hs' : a'.choose with
      | none => simp [hs, hs'] at hchoose
      | some s' =>
        rw [hs, hs', Option.rel_some_some] at hchoose
        have hsigns : s.SignsAgree :=
          Aggregate.signsAgree_of_processAll rfl (ha ▸ Aggregate.choose_mem hs)
        have hsigns' : s'.SignsAgree :=
          Aggregate.signsAgree_of_processAll rfl (ha' ▸ Aggregate.choose_mem hs')
        exact nextSpeed_eq_of_numEq hc hhot (hflag.symm.trans hhot) hs hs' hsigns hsigns' hchoose
          last elapsed

end Config

/-! ## Zones with their sensors in another order -/

namespace Zone

section Reordering

variable {World Probe Drive Outlet : Type} {P : Platform World Probe Drive Outlet}

/-- Two zones that have the same sensors in different orders, and are the same otherwise. -/
structure Reordered (z z' : Zone Probe Drive) : Prop where
  name : z'.name = z.name
  config : z'.config = z.config
  speed : z'.speed = z.speed
  initialized : z'.isInitialized = z.isInitialized
  fans : z'.fans = z.fans
  sensors : z.sensors.Perm z'.sensors

variable {z z' : Zone Probe Drive}

theorem Reordered.refl (z : Zone Probe Drive) : z.Reordered z :=
  ⟨rfl, rfl, rfl, rfl, rfl, .refl _⟩

/-- Without members there is nothing in any order. -/
theorem Reordered.eq_of_new (h : z.Reordered z') (hz : z.isInitialized = false) : z' = z := by
  obtain ⟨name, config, speed, members⟩ := z
  obtain ⟨name', config', speed', members'⟩ := z'
  obtain ⟨rfl, rfl, rfl, hinit, -, -⟩ := h
  cases members with
  | some m => cases hz
  | none =>
    cases members' with
    | some m => cases hinit
    | none => rfl

theorem Reordered.load (h : z.Reordered z') (m : Members Probe Drive) :
    (z.load m).Reordered (z'.load m) := by
  refine ⟨h.name, h.config, h.speed, ?_, ?_, ?_⟩
  · rw [isInitialized_load, isInitialized_load]
  · rw [fans_load, fans_load, h.initialized, h.fans]
  · rw [sensors_load, sensors_load, h.initialized]
    split
    · exact h.sensors
    · exact .refl _

theorem Reordered.refresh (h : z.Reordered z') (w : World) (now : Timestamp) :
    (z.refresh P w now).Reordered (z'.refresh P w now) := by
  refine ⟨h.name, h.config, h.speed, ?_, ?_, ?_⟩
  · rw [isInitialized_refresh, isInitialized_refresh, h.initialized]
  · rw [fans_refresh, fans_refresh, h.fans]
  · rw [sensors_refresh, sensors_refresh]
    exact h.sensors.map _

theorem Reordered.prepared (h : z.Reordered z') (w : World) (now : Timestamp)
    (offered : Option (Members Probe Drive)) (refresh : Bool) :
    (z.prepared P w now offered refresh).Reordered (z'.prepared P w now offered refresh) := by
  unfold Zone.prepared
  split
  · exact (h.load _).refresh w now
  · exact h.load _

theorem Reordered.startingSpeed_eq (h : z.Reordered z') : z'.startingSpeed = z.startingSpeed := by
  unfold startingSpeed lastSpeed
  rw [h.speed, h.fans, h.config]

/-- The sensors show the same, in another order. -/
theorem Reordered.readings (h : z.Reordered z') (w : World) :
    (z.sensors.map (Sensor.reading P w)).Perm (z'.sensors.map (Sensor.reading P w)) :=
  h.sensors.map _

/-- Everything that a zone's sensors show is plain. -/
def Plain (P : Platform World Probe Drive Outlet) (z : Zone Probe Drive) (w : World) : Prop :=
  ∀ r ∈ z.sensors.map (Sensor.reading P w), r.Plain

theorem Plain.of_sensors {w : World} (h : ∀ s ∈ z.sensors, (s.reading P w).Plain) :
    z.Plain P w := by
  intro r hr
  obtain ⟨s, hs, rfl⟩ := List.mem_map.1 hr
  exact h s hs

/-- Reading the sensors again yields finite temperatures or none, under the same limits. -/
theorem Plain.prepared {w : World} (h : z.Plain P w) (hz : z.isInitialized = true)
    (now : Timestamp) (offered : Option (Members Probe Drive)) (refresh : Bool) :
    (z.prepared P w now offered refresh).Plain P w := by
  have hload : (z.load (offered.getD .empty)).sensors = z.sensors := by
    rw [sensors_load, if_pos hz]
  unfold Zone.prepared
  cases refresh with
  | false =>
    unfold Plain
    rw [if_neg Bool.false_ne_true, hload]
    exact h
  | true =>
    unfold Plain
    rw [if_pos rfl, sensors_refresh, hload, List.map_map]
    intro r hr
    obtain ⟨s, hs, rfl⟩ := List.mem_map.1 hr
    have hplain := h _ (List.mem_map_of_mem hs)
    show ((s.refresh P w now).reading P w).Plain
    rw [Sensor.reading_refresh]
    exact ⟨fun x hx => (Sensor.read?_eq_some_iff.1 hx).2, hplain.overheat_finite,
      hplain.critical_finite, hplain.target_finite⟩

theorem evaluate_overheat_of_reordered (h : z.Reordered z') (w : World) :
    (z'.evaluate P w).overheat = (z.evaluate P w).overheat := by
  unfold evaluate
  rw [h.config]
  exact (Aggregate.overheat_of_perm z.config (h.readings w)).symm

theorem evaluate_snapshots_of_reordered (h : z.Reordered z') (w : World) :
    (z.evaluate P w).snapshots.Perm (z'.evaluate P w).snapshots := by
  unfold evaluate
  rw [h.config]
  exact Aggregate.snapshots_of_perm z.config (h.readings w)

theorem nextSpeed_of_reordered (hc : z.config.Valid) (h : z.Reordered z') {w : World}
    (hplain : z.Plain P w) (last : Single) (elapsed : Duration) :
    z'.config.nextSpeed last (z'.evaluate P w) elapsed =
      z.config.nextSpeed last (z.evaluate P w) elapsed := by
  unfold evaluate
  rw [h.config]
  exact (Config.nextSpeed_of_perm hc (h.readings w) hplain last elapsed).symm

/-- The conclusion of a tick names the first sensor of the highest `deltap`, and does not depend on
the order of the sensors otherwise. -/
theorem conclude_of_reordered (hc : z.config.Valid) (h : z.Reordered z') {w : World}
    (hplain : z.Plain P w) (tick : Tick) (last : Single) :
    ∃ report after after' w',
      z.conclude P w tick last = (report, after, w') ∧
      z'.conclude P w tick last =
        ({ report with selected := (z'.evaluate P w).choose.map Snapshot.sensor }, after', w') ∧
      report.selected = (z.evaluate P w).choose.map Snapshot.sensor ∧
      after.Reordered after' := by
  have hconclude' := conclude_eq P z' w tick last
  rw [nextSpeed_of_reordered hc h hplain, evaluate_overheat_of_reordered h, h.name, h.fans]
    at hconclude'
  refine ⟨_, _, _, _, conclude_eq P z w tick last, hconclude', rfl, ?_⟩
  exact ⟨rfl, h.config, congrArg (fun g => History.recordCommanded g tick.now _) h.speed, rfl,
    rfl, h.sensors⟩

/-- The names that two orders lead to belong to sensors of the same `deltap`. -/
theorem selected_of_reordered (hc : z.config.Valid) (h : z.Reordered z') {w : World}
    (hplain : z.Plain P w) :
    (z'.evaluate P w).choose.map Snapshot.sensor = (z.evaluate P w).choose.map Snapshot.sensor ∨
      ∃ s ∈ (z.evaluate P w).snapshots, ∃ s' ∈ (z.evaluate P w).snapshots,
        (z.evaluate P w).choose.map Snapshot.sensor = some s.sensor ∧
        (z'.evaluate P w).choose.map Snapshot.sensor = some s'.sensor ∧
        s.deltap.numEq s'.deltap := by
  have hperm := evaluate_snapshots_of_reordered (P := P) h w
  have hchoose := Aggregate.choose_of_perm hperm (Aggregate.isNaN_deltap_of_plain hc hplain)
  cases hs : (z.evaluate P w).choose with
  | none =>
    cases hs' : (z'.evaluate P w).choose with
    | none => exact .inl rfl
    | some s' => simp [hs, hs'] at hchoose
  | some s =>
    cases hs' : (z'.evaluate P w).choose with
    | none => simp [hs, hs'] at hchoose
    | some s' =>
      rw [hs, hs', Option.rel_some_some] at hchoose
      exact .inr ⟨s, Aggregate.choose_mem hs, s', hperm.mem_iff.2 (Aggregate.choose_mem hs'), rfl,
        rfl, hchoose⟩

/-- A zone with its sensors in another order, all of them plain: it judges its sensors alike,
decides on the same speed from every last speed and for every elapsed time, and its ticks end alike,
with the same writes. Only the sensor that is named may be another one, and then of the same
`deltap`. -/
theorem run_of_reordered (hc : z.config.validate = .ok ()) (h : z.Reordered z') {w : World}
    (hplain : ∀ s ∈ z.sensors, (s.reading P w).Plain) :
    (z'.evaluate P w).overheat = (z.evaluate P w).overheat ∧
      (z.evaluate P w).snapshots.Perm (z'.evaluate P w).snapshots ∧
      (∀ last elapsed, z'.config.nextSpeed last (z'.evaluate P w) elapsed =
        z.config.nextSpeed last (z.evaluate P w) elapsed) ∧
      ∀ (tick : Tick) (offered : Option (Members Probe Drive)) (refresh : Bool),
        ∃ report selected after after' w',
          z.run P w tick offered refresh = .ok (report, after, w') ∧
          z'.run P w tick offered refresh = .ok ({ report with selected }, after', w') ∧
          after.Reordered after' ∧
          (selected = report.selected ∨
            let snapshots := ((z.prepared P w tick.now offered refresh).evaluate P w).snapshots
            ∃ s ∈ snapshots, ∃ s' ∈ snapshots, report.selected = some s.sensor ∧
              selected = some s'.sensor ∧ s.deltap.numEq s'.deltap) := by
  rw [Config.validate_eq_ok_iff] at hc
  refine ⟨evaluate_overheat_of_reordered h w, evaluate_snapshots_of_reordered h w,
    nextSpeed_of_reordered hc h (.of_sensors hplain), ?_⟩
  intro tick offered refresh
  cases hz : z.isInitialized with
  | false =>
    -- Both zones are the same one, whatever members are offered.
    obtain ⟨⟨report, after, w'⟩, hrun, -⟩ := exists_run_eq_ok P hc w tick offered refresh
    rw [h.eq_of_new hz]
    exact ⟨report, report.selected, after, after, w', hrun, hrun, .refl after, .inl rfl⟩
  | true =>
    have hprepared := h.prepared (P := P) w tick.now offered refresh
    have hc' : (z.prepared P w tick.now offered refresh).config.Valid := by
      rwa [config_prepared]
    have hplain' := (Plain.of_sensors hplain).prepared hz tick.now offered refresh
    obtain ⟨last, hlast⟩ := startingSpeed_ok hc'
    have hlast' := hprepared.startingSpeed_eq.trans hlast
    obtain ⟨report, after, after', w', hconclude, hconclude', hselected, hafter⟩ :=
      conclude_of_reordered hc' hprepared hplain' tick last
    have hrun := run_eq_ok P hlast
    have hrun' := run_eq_ok P hlast'
    rw [hconclude] at hrun
    rw [hconclude'] at hrun'
    refine ⟨report, _, after, after', w', hrun, hrun', hafter, ?_⟩
    rw [hselected]
    exact selected_of_reordered hc' hprepared hplain'

end Reordering

/-- Two sensors halfway between target and ceiling, though ten degrees and twenty above their
targets: whichever comes first is named, and the speed is the same. -/
theorem run_of_reordered_halfway :
    let bench : Bench :=
      ⟨[⟨"cpu", none, ⟨some (ofNat 90), some (ofNat 100), some (ofNat 70)⟩⟩,
        ⟨"asic", none, ⟨some (ofNat 80), some (ofNat 85), some (ofNat 40)⟩⟩],
        [⟨"fan1", some (ofNat 50), [], false⟩]⟩
    let w : Machine := { Machine.blank with bench }
    let sensor (i : Nat) (name : String) (value : Nat) : Sensor Probe :=
      Sensor.record ⟨.simulated i name, .empty name 10, false⟩ (ofNat 0) (ofNat value)
    let zone (sensors : List (Sensor Probe)) : Zone Probe Drive :=
      ⟨"System", .default, .empty "target" 10,
        some ⟨[⟨.simulated 0 "fan1", .empty "fan1" 10⟩], sensors⟩⟩
    let z := zone [sensor 0 "cpu" 80, sensor 1 "asic" 60]
    let z' := zone [sensor 1 "asic" 60, sensor 0 "cpu" 80]
    let tick : Tick := ⟨ofNat 60, ⟨60000000000, by decide⟩⟩
    (z.config.validate = .ok () ∧ z.Reordered z' ∧
        ∀ s ∈ z.sensors, (s.reading Machine.platform w).Plain) ∧
      ∃ report selected after after' w',
        z.run Machine.platform w tick none false = .ok (report, after, w') ∧
        z'.run Machine.platform w tick none false = .ok ({ report with selected }, after', w') ∧
        report.selected = some "cpu" ∧ selected = some "asic" := by
  intro bench w sensor zone z z' tick
  have hc : z.config.validate = .ok () := Config.validate_default
  have hz : z.Reordered z' := ⟨rfl, rfl, rfl, rfl, rfl, .swap ..⟩
  have hplain : ∀ s ∈ z.sensors, (s.reading Machine.platform w).Plain := by
    intro s hs
    rcases List.mem_cons.1 hs with rfl | hs
    · constructor <;> decide +kernel
    · obtain rfl := List.mem_singleton.1 hs
      constructor <;> decide +kernel
  obtain ⟨-, -, -, hticks⟩ := run_of_reordered hc hz hplain
  obtain ⟨report, selected, after, after', w', hrun, hrun', -⟩ := hticks tick none false
  have hnames : (z.run Machine.platform w tick none false).toOption.map (·.1.selected) =
        some (some "cpu") ∧
      (z'.run Machine.platform w tick none false).toOption.map (·.1.selected) =
        some (some "asic") := by
    decide +kernel
  rw [hrun, hrun'] at hnames
  exact ⟨⟨hc, hz, hplain⟩, report, selected, after, after', w', hrun, hrun',
    Option.some.inj hnames.1, Option.some.inj hnames.2⟩

end Zone

end ChassisCooling
