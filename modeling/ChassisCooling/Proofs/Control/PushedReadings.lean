import ChassisCooling.Machine.Basic
import ChassisCooling.Proofs.Control.Alike
import ChassisCooling.Proofs.Control.FreshReadings
import ChassisCooling.Proofs.Control.StartingSpeed
import ChassisCooling.Proofs.Control.WellPlaced

/-!
# Readings pushed into a sensor

A probe's reading is recorded only if it is finite. A temperature that comes from elsewhere is
recorded whatever it is, so that is the only way in for one that is not finite. Among the sensors of
a tick one that does not show a number is passed over, unless it comes first: then it is chosen.

* `Sensor.Shows`: what a sensor may show, by what is pushed.
* `Sensor.Touched`, `ZoneOperation.Pushes`: operations that push nothing else.
* `Zone.shows_operateAll`: every sensor shows a finite temperature, a pushed one, or none.
* `Aggregate.selected_of_choose`: the chosen sensor among the usable ones.
* `Zone.operateAll_selected`: both, after any operations on a new zone.
* `Zone.selected_not_number`: a pushed value that is not a number, and a tick that selects it.
-/

namespace ChassisCooling

open Binary

/-! ## The chosen snapshot -/

/-- What a snapshot is among all those of a tick if it is the chosen one. -/
structure Snapshot.Selected (snapshots : List Snapshot) (s : Snapshot) : Prop where
  mem : s ∈ snapshots
  /-- It is without a number just where the first one is. -/
  isNaN_iff : s.deltap.isNaN = true ↔
    ∃ first, snapshots.head? = some first ∧ first.value.isNaN = true
  /-- Otherwise nothing but a snapshot without a number is not below it. -/
  highest : s.deltap.isNaN = false → ∀ t ∈ snapshots, t.deltap.isNaN = true ∨ t.deltap ≤ s.deltap

namespace Aggregate

variable {c : Config} {rs : List Reading} {s : Snapshot}

/-- Where all limits are finite, a snapshot has a number if its temperature is one. -/
theorem isNaN_deltap_of_mem (hc : c.Valid) (hlimits : ∀ r ∈ rs, r.limits.Finite)
    (hs : s ∈ ((forConfig c).processAll rs).snapshots) :
    s.deltap.isNaN = s.value.isNaN ∧ ∃ r ∈ rs, r.temperature = some s.value := by
  rw [snapshots_processAll_forConfig, List.mem_filterMap] at hs
  obtain ⟨r, hr, hsnap⟩ := hs
  obtain ⟨p, hp, hroom, rfl⟩ := exists_of_snapshot? hsnap
  obtain ⟨hceil, htarget, h0⟩ := place?_bounds hc (hlimits r hr) hp
  have hlt := lt_of_not_le htarget (isNaN_of_isFinite hceil) hroom
  exact ⟨Snapshot.isNaN_deltap r.name p.value hceil h0 hlt, r, hr, (place?_eq_some hp).1⟩

theorem selected_of_choose (hc : c.Valid) (hlimits : ∀ r ∈ rs, r.limits.Finite)
    (h : ((forConfig c).processAll rs).choose = some s) :
    s.Selected ((forConfig c).processAll rs).snapshots := by
  obtain ⟨first, hfirst, hnan⟩ := isNaN_of_choose h
  have hvalue := (isNaN_deltap_of_mem hc hlimits (List.mem_of_head? hfirst)).1
  refine ⟨choose_mem h, ?_, fun hnum t ht => ?_⟩
  · rw [hnan, hvalue, hfirst]
    simp
  · cases hn : t.deltap.isNaN with
    | true => exact .inl rfl
    | false => exact .inr (le_of_not_lt hn hnum (not_lt_of_choose h t ht))

end Aggregate

section Runs

variable {World Probe Drive Outlet : Type} {P : Platform World Probe Drive Outlet}
  {pushed : Single → Prop}

/-! ## Single sensors -/

namespace Sensor

/-- A sensor shows no temperature, a finite one, or one of those that are pushed. -/
def Shows (pushed : Single → Prop) (s : Sensor Probe) : Prop :=
  ∀ x ∈ s.temperature, x.isFinite = true ∨ pushed x

/-- A sensor is read, or a temperature is pushed into it. -/
inductive Touched (P : Platform World Probe Drive Outlet) (pushed : Single → Prop)
    (s : Sensor Probe) : Sensor Probe → Prop where
  | refresh (w : World) (now : Timestamp) : Touched P pushed s (s.refresh P w now)
  | record (now : Timestamp) {x : Single} (hx : pushed x) : Touched P pushed s (s.record now x)

variable {s s' : Sensor Probe}

theorem shows_refresh (pushed : Single → Prop) (w : World) (now : Timestamp) (s : Sensor Probe) :
    (s.refresh P w now).Shows pushed := by
  intro x hx
  rw [temperature_refresh] at hx
  exact .inl (read?_eq_some_iff.1 hx).2

theorem Shows.setCapacity (hs : s.Shows pushed) (capacity : Nat) :
    (s.setCapacity capacity).Shows pushed := by
  intro x hx
  rw [((Alike.refl s).setCapacity_left capacity).temperature_eq] at hx
  exact hs x hx

theorem Touched.shows (h : s.Touched P pushed s') : s'.Shows pushed := by
  cases h with
  | refresh w now => exact shows_refresh pushed w now s
  | @record now x hx =>
    intro y hy
    have htemp : (s.record now x).temperature = some x :=
      History.lastMeasured_recordMeasured s.history now x
    rw [htemp, Option.mem_some_iff] at hy
    exact .inr (hy ▸ hx)

end Sensor

/-- The operation pushes nothing else into sensors, and offers none that show anything else. -/
def ZoneOperation.Pushes (P : Platform World Probe Drive Outlet) (pushed : Single → Prop) :
    ZoneOperation World Probe Drive → Prop
  | .load members => ∀ s ∈ members.sensors, s.Shows pushed
  | .run _ _ offered _ => ∀ s ∈ (offered.getD .empty).sensors, s.Shows pushed
  | .touchSensor _ change => ∀ s : Sensor Probe, s.Touched P pushed (change s)
  | _ => True

namespace Zone

variable {z z' : Zone Probe Drive} {records : List (TickRecord Drive)}
  {op : ZoneOperation World Probe Drive} {ops : List (ZoneOperation World Probe Drive)}

/-! ## The sensors of a zone -/

theorem shows_load (hz : ∀ s ∈ z.sensors, s.Shows pushed) {m : Members Probe Drive}
    (hm : ∀ s ∈ m.sensors, s.Shows pushed) : ∀ s ∈ (z.load m).sensors, s.Shows pushed := by
  rw [sensors_load]
  split
  · exact hz
  · exact hm

theorem shows_refresh (pushed : Single → Prop) (z : Zone Probe Drive) (w : World)
    (now : Timestamp) : ∀ s ∈ (z.refresh P w now).sensors, s.Shows pushed := by
  rw [sensors_refresh, List.forall_mem_map]
  exact fun s _ => s.shows_refresh pushed w now

theorem shows_prepared (hz : ∀ s ∈ z.sensors, s.Shows pushed)
    {offered : Option (Members Probe Drive)}
    (hoffered : ∀ s ∈ (offered.getD .empty).sensors, s.Shows pushed) (w : World) (now : Timestamp)
    (refresh : Bool) : ∀ s ∈ (z.prepared P w now offered refresh).sensors, s.Shows pushed := by
  unfold prepared
  split
  · exact shows_refresh pushed _ w now
  · exact shows_load hz hoffered

theorem shows_operate (hz : ∀ s ∈ z.sensors, s.Shows pushed) (hop : op.Pushes P pushed)
    (h : z.operate P op = .ok (records, z')) : ∀ s ∈ z'.sensors, s.Shows pushed := by
  cases op with
  | load m =>
    cases h
    exact shows_load hz hop
  | refresh w now =>
    cases h
    exact shows_refresh pushed z w now
  | run w tick offered refresh =>
    obtain ⟨report, w', hrun, -⟩ := operate_run_eq_ok h
    obtain ⟨last, hconclude, -, -⟩ := of_run_eq_ok P hrun
    have hsensors : z'.sensors = (z.prepared P w tick.now offered refresh).sensors := by
      rw [← (Prod.mk.inj (Prod.mk.inj hconclude).2).1]
      rfl
    rw [hsensors]
    exact shows_prepared hz hop w tick.now refresh
  | reconfigure config =>
    cases h
    rw [sensors_reconfigure]
    split
    · exact hz
    · rw [List.forall_mem_map]
      exact fun s hs => (hz s hs).setCapacity config.historyCapacity
  | touchSensor sensor change =>
    cases h
    rw [touchSensor_eq, sensors_eq]
    cases hm : z.members with
    | none => exact List.forall_mem_nil _
    | some m =>
      rw [sensors_eq, hm] at hz
      intro s hs
      rcases mem_touchFirst hs with hmem | ⟨g, -, rfl⟩
      · exact hz s hmem
      · exact (hop g).shows
  | touchFan fan change keeps =>
    cases h
    obtain ⟨fans, heq⟩ := exists_touchFan_eq z fan change
    rw [heq, sensors_eq]
    rw [sensors_eq] at hz
    cases hm : z.members with
    | none => exact List.forall_mem_nil _
    | some m =>
      rw [hm] at hz
      exact hz

/-- Whatever is done to a zone, its sensors show finite temperatures, pushed ones, or none. -/
theorem shows_operateAll (hz : ∀ s ∈ z.sensors, s.Shows pushed)
    (hops : ∀ op ∈ ops, op.Pushes P pushed) (h : z.operateAll P ops = .ok (records, z')) :
    ∀ s ∈ z'.sensors, s.Shows pushed := by
  induction ops generalizing z records with
  | nil =>
    cases h
    exact hz
  | cons op ops ih =>
    obtain ⟨first, z₁, rest, hop, hrest, -⟩ := operateAll_cons_eq_ok h
    rw [List.forall_mem_cons] at hops
    exact ih (shows_operate hz hops.1 hop) hops.2 hrest

/-! ## Ticks -/

/-- Preparation does not exchange a probe. -/
theorem limits_prepared {w : World} {offered : Option (Members Probe Drive)}
    (h : ∀ s ∈ (z.load (offered.getD .empty)).sensors, (P.limits s.probe w).Finite)
    (now : Timestamp) (refresh : Bool) :
    ∀ s ∈ (z.prepared P w now offered refresh).sensors, (P.limits s.probe w).Finite := by
  unfold prepared
  split
  · rw [sensors_refresh, List.forall_mem_map]
    intro s hs
    rw [s.probe_refresh]
    exact h s hs
  · exact h

/-- Where the sensors show numbers, what a zone decides by has numbers only. -/
theorem isNaN_deltap_of_shows (hc : z.config.Valid) {w : World}
    (hlimits : ∀ s ∈ z.sensors, (P.limits s.probe w).Finite)
    (hz : ∀ s ∈ z.sensors, s.Shows pushed) (hnan : ¬pushed .nan) :
    ∀ t ∈ (z.evaluate P w).snapshots, t.deltap.isNaN = false := by
  intro t ht
  obtain ⟨hvalue, r, hr, htemp⟩ :=
    Aggregate.isNaN_deltap_of_mem hc (List.forall_mem_map.2 hlimits) ht
  obtain ⟨s, hs, rfl⟩ := List.mem_map.1 hr
  rw [hvalue]
  rcases hz s hs t.value htemp with hfin | hpushed
  · exact isNaN_of_isFinite hfin
  · cases hv : t.value with
    | nan => exact absurd (hv ▸ hpushed) hnan
    | infinity | finite => rfl

/-- After any operations on a new zone under valid configurations every sensor shows a finite
temperature, a pushed one, or none. A tick by finite limits comes to an end. The sensor that it
selects, if any, is without a number just where the first usable one is; otherwise its `deltap` is
as high as that of every other with a number. If the tick reads its sensors, or if whatever is
pushed is a number, then the selected one has a number, as high as that of every usable sensor. -/
theorem operateAll_selected {name : String} {config : Config}
    (hcreate : Zone.create name config = .ok z) (hc : config.validate = .ok ())
    (hops : ∀ later, .reconfigure later ∈ ops → later.validate = .ok ())
    (hpushes : ∀ op ∈ ops, op.Pushes P pushed) :
    ∃ records z', z.operateAll P ops = .ok (records, z') ∧
      (∀ s ∈ z'.sensors, s.Shows pushed) ∧
      ∀ (w : World) (tick : Tick) (offered : Option (Members Probe Drive)) (refresh : Bool),
        (∀ s ∈ (offered.getD .empty).sensors, s.Shows pushed) →
        (∀ s ∈ (z'.load (offered.getD .empty)).sensors, (P.limits s.probe w).Finite) →
        ∃ report after w', z'.run P w tick offered refresh = .ok (report, after, w') ∧
          let a := (z'.prepared P w tick.now offered refresh).evaluate P w
          ∀ sensor, report.selected = some sensor →
            ∃ s : Snapshot, s.sensor = sensor ∧ s.Selected a.snapshots ∧
              (refresh = true ∨ ¬pushed .nan →
                s.deltap.isNaN = false ∧ ∀ t ∈ a.snapshots, t.deltap ≤ s.deltap) := by
  obtain ⟨hconfig, -⟩ := create_eq_ok hcreate
  rw [Config.validate_eq_ok_iff, ← hconfig] at hc
  simp only [Config.validate_eq_ok_iff] at hops
  obtain ⟨⟨records, z'⟩, h⟩ := exists_operateAll_eq_ok (P := P) hc hops
  have hz : ∀ s ∈ z.sensors, s.Shows pushed := by
    rw [sensors_eq, members_create hcreate]
    exact List.forall_mem_nil _
  have hz' := shows_operateAll hz hpushes h
  refine ⟨records, z', h, hz', ?_⟩
  intro w tick offered refresh hoffered hlimits
  have hvalid : (z'.prepared P w tick.now offered refresh).config.Valid := by
    rw [config_prepared]
    exact valid_operateAll hc hops h
  have hlimits' := limits_prepared hlimits tick.now refresh
  obtain ⟨last, hlast⟩ := startingSpeed_ok hvalid
  refine ⟨_, _, _, run_eq_ok P hlast, ?_⟩
  intro a sensor hselected
  obtain ⟨s, hs, hname⟩ := Option.map_eq_some_iff.1 hselected
  have hs' := Aggregate.selected_of_choose hvalid (List.forall_mem_map.2 hlimits') hs
  refine ⟨s, hname, hs', fun hnumbers => ?_⟩
  have hnum : ∀ t ∈ a.snapshots, t.deltap.isNaN = false := by
    rcases hnumbers with rfl | hnan
    · have hfresh : ∀ s ∈ (z'.prepared P w tick.now offered true).sensors, s.Shows fun _ => False :=
        shows_refresh _ _ w tick.now
      exact isNaN_deltap_of_shows hvalid hlimits' hfresh not_false
    · exact isNaN_deltap_of_shows hvalid hlimits'
        (shows_prepared hz' hoffered w tick.now refresh) hnan
  exact ⟨hnum s hs'.mem, Aggregate.deltap_le_of_choose hs hnum⟩

end Zone

end Runs

namespace Zone

/-- A temperature pushed into one sensor, and another one whose probe shows no number: the first one
is selected. -/
theorem operateAll_selected_of_finite_push :
    let limits : Limits := ⟨some (ofNat 95), some (ofNat 100), some (ofNat 70)⟩
    let bench : Bench := ⟨[⟨"asic", some .nan, limits⟩, ⟨"cpu", some (ofNat 60), limits⟩], []⟩
    let w : Machine := { Machine.blank with bench }
    let asic : Sensor Probe := ⟨.simulated 0 "asic", .empty "asic" 10, false⟩
    let cpu : Sensor Probe := ⟨.simulated 1 "cpu", .empty "cpu" 10, false⟩
    let ops : List (ZoneOperation Machine Probe Drive) :=
      [.load ⟨[], [asic, cpu]⟩, .touchSensor "cpu" (fun s => s.record (ofNat 1) (ofNat 90)),
        .touchSensor "asic" (fun s => s.refresh Machine.platform w (ofNat 1))]
    let tick : Tick := ⟨ofNat 2, ⟨60000000000, by decide⟩⟩
    let pushed (x : Single) : Prop := x = ofNat 90
    ∃ (z z' after : Zone Probe Drive) (report : ZoneReport) (w' : Machine),
      (Zone.create "System" .default = .ok z ∧ Config.default.validate = .ok () ∧
        (∀ later, .reconfigure later ∈ ops → later.validate = .ok ()) ∧
        (∀ op ∈ ops, op.Pushes Machine.platform pushed) ∧
        ∀ s ∈ (z'.load .empty).sensors, (Machine.platform.limits s.probe w).Finite) ∧
      z.operateAll Machine.platform ops = .ok ([], z') ∧ (∀ s ∈ z'.sensors, s.Shows pushed) ∧
      z'.run Machine.platform w tick none false = .ok (report, after, w') ∧
      report.selected = some "cpu" ∧
      ∃ s : Snapshot, s.sensor = "cpu" ∧ s.deltap.isNaN = false := by
  intro limits bench w asic cpu ops tick pushed
  obtain ⟨z, z', hcreate, hrun, hlimits, hselected⟩ : ∃ z z' : Zone Probe Drive,
      Zone.create "System" .default = .ok z ∧ z.operateAll Machine.platform ops = .ok ([], z') ∧
      (∀ s ∈ (z'.load .empty).sensors, Machine.platform.limits s.probe w = limits) ∧
      (z'.run Machine.platform w tick none false).toOption.map (fun r => r.1.selected) =
        some (some "cpu") :=
    ⟨_, _, rfl, rfl, by decide +kernel, by decide +kernel⟩
  have hops : ∀ later, .reconfigure later ∈ ops → later.validate = .ok () := by
    intro later hlater
    simp [ops] at hlater
  have hpushes : ∀ op ∈ ops, op.Pushes Machine.platform pushed := by
    have hempty : ∀ s ∈ [asic, cpu], s.Shows pushed := by
      simp [asic, cpu, Sensor.Shows, Sensor.temperature, History.lastMeasured,
        History.lastMeasuredSample, History.empty]
    intro op hop
    simp only [ops, List.mem_cons, List.not_mem_nil, or_false] at hop
    rcases hop with rfl | rfl | rfl
    · exact hempty
    · exact fun s => .record _ rfl
    · exact fun s => .refresh w _
  have hfinite : limits.Finite := by constructor <;> decide +kernel
  have hlimits' : ∀ s ∈ (z'.load .empty).sensors, (Machine.platform.limits s.probe w).Finite :=
    fun s hs => (hlimits s hs).symm ▸ hfinite
  obtain ⟨records, z₁, h, hshows, hticks⟩ :=
    operateAll_selected (P := Machine.platform) hcreate Config.validate_default hops hpushes
  obtain ⟨rfl, rfl⟩ := Prod.mk.inj (Except.ok.inj (hrun.symm.trans h))
  obtain ⟨report, after, w', htick, hselects⟩ :=
    hticks w tick none false (List.forall_mem_nil _) hlimits'
  rw [htick] at hselected
  have hcpu : report.selected = some "cpu" := Option.some.inj hselected
  obtain ⟨s, hname, -, hnumber⟩ := hselects "cpu" hcpu
  have hnan : ¬pushed .nan := by decide +kernel
  exact ⟨z, z', after, report, w',
    ⟨hcreate, Config.validate_default, hops, hpushes, hlimits'⟩, hrun, hshows, htick, hcpu, s,
    hname, (hnumber (.inr hnan)).1⟩

/-- A value that is not a number is pushed into the first sensor: that one shows it, and is selected
in the place of a warm one. -/
theorem selected_not_number :
    let limits : Limits := ⟨some (ofNat 95), some (ofNat 100), some (ofNat 70)⟩
    let bench : Bench := ⟨[⟨"cpu", none, limits⟩, ⟨"asic", some (ofNat 90), limits⟩], []⟩
    let w : Machine := { Machine.blank with bench }
    let cpu : Sensor Probe := ⟨.simulated 0 "cpu", .empty "cpu" 10, false⟩
    let asic : Sensor Probe := ⟨.simulated 1 "asic", .empty "asic" 10, false⟩
    let ops : List (ZoneOperation Machine Probe Drive) :=
      [.load ⟨[], [cpu, asic]⟩, .refresh w (ofNat 1),
        .touchSensor "cpu" (fun s => s.record (ofNat 1) .nan)]
    ∃ z z' : Zone Probe Drive,
      Config.default.validate = .ok () ∧ Zone.create "System" .default = .ok z ∧
      z.operateAll Machine.platform ops = .ok ([], z') ∧
      z'.sensors.map Sensor.temperature = [some .nan, some (ofNat 90)] ∧
      (z'.run Machine.platform w ⟨ofNat 2, ⟨60000000000, by decide⟩⟩ none false).toOption.map
        (fun r => r.1.selected) = some (some "cpu") ∧
      (z'.evaluate Machine.platform w).snapshots.map (fun s => (s.sensor, s.deltap.isNaN)) =
        [("cpu", true), ("asic", false)] :=
  ⟨_, _, Config.validate_default, rfl, rfl, by decide +kernel, by decide +kernel,
    by decide +kernel⟩

end Zone

end ChassisCooling
