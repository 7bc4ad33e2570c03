import ChassisCooling.Machine.Basic
import ChassisCooling.Proofs.Control.Frame
import ChassisCooling.Proofs.Control.Step
import ChassisCooling.Proofs.Thermal.Aggregate

/-!
# Ticks that read their sensors rest on nothing older

A tick that reads its sensors first decides by what their probes show at that moment. What a sensor
showed before stays in its history for export, but takes no part: neither after a good read, which
adds a newer temperature, nor after a failed one, which leaves the sensor without any.

* `Source.reading`: what a probe shows, without a sensor around it.
* `Sensor.reading_refresh`: what a sensor shows after it was read.
* `Zone.Outline`, `Zone.outline`: a zone without what was read at its sensors.
* `ZoneReport.RestsOn`: what a report owes to the probes.
* `Zone.run_of_outline_eq`: a tick of two zones of one outline.
-/

namespace ChassisCooling

open Binary

/-- A probe under the name of its sensor. -/
structure Source (Probe : Type) where
  probe : Probe
  name : String

def Sensor.source {Probe : Type} (s : Sensor Probe) : Source Probe := ⟨s.probe, s.name⟩

section Readings

variable {World Probe Drive Outlet : Type} (P : Platform World Probe Drive Outlet)

/-! ## What a sensor shows after it was read -/

/-- What a probe shows right now. -/
def Source.reading (w : World) (s : Source Probe) : Reading :=
  ⟨s.name, Sensor.read? P s.probe w, P.limits s.probe w⟩

namespace Sensor

variable {P} in
theorem read?_eq_some_iff {probe : Probe} {w : World} {value : Single} :
    read? P probe w = some value ↔
      P.temperature probe w = .ok value ∧ value.isFinite = true := by
  unfold read?
  cases P.temperature probe w with
  | error e => simp
  | ok v => grind

theorem source_refresh (w : World) (now : Timestamp) (s : Sensor Probe) :
    (s.refresh P w now).source = s.source := by
  rw [refresh_eq]
  split <;> rfl

/-- A good read shows, and a failed one hides, whatever was there before. -/
theorem temperature_refresh (w : World) (now : Timestamp) (s : Sensor Probe) :
    (s.refresh P w now).temperature = read? P s.probe w := by
  rw [refresh_eq]
  cases read? P s.probe w with
  | none => rfl
  | some value => exact History.lastMeasured_recordMeasured s.history now value

theorem reading_refresh (w : World) (now : Timestamp) (s : Sensor Probe) :
    (s.refresh P w now).reading P w = s.source.reading P w := by
  show Reading.mk (s.refresh P w now).source.name _
    (P.limits (s.refresh P w now).source.probe w) = _
  rw [temperature_refresh, source_refresh]
  rfl

end Sensor

/-! ## What an aggregate of fresh readings owes to the probes -/

/-- A report of a tick owes the chosen sensor and the overheat flag to probes that can be read; if
there are none, it is of full speed. -/
structure ZoneReport.RestsOn (report : ZoneReport) (w : World) (sources : List (Source Probe)) :
    Prop where
  selected : ∀ name, report.selected = some name → ∃ s ∈ sources, s.name = name ∧
    ∃ value, P.temperature s.probe w = .ok value ∧ value.isFinite = true
  overheat : report.overheat = true → ∃ s ∈ sources,
    ∃ value overheat critical, P.temperature s.probe w = .ok value ∧ value.isFinite = true ∧
      (P.limits s.probe w).overheat = some overheat ∧
      (P.limits s.probe w).critical = some critical ∧ overheat.minNum critical < value
  blind : (∀ s ∈ sources, ∀ value, P.temperature s.probe w = .ok value → value.isFinite = false) →
    report.speed = maxSpeed ∧ report.overheat = false ∧ report.selected = none

namespace Source

variable {P} {c : Config} {w : World}

/-- Only a good read is judged. -/
theorem temperature_of_place? {a : Aggregate} {s : Source Probe} {p : Placement}
    (h : a.place? (s.reading P w) = some p) :
    P.temperature s.probe w = .ok p.value ∧ p.value.isFinite = true :=
  Sensor.read?_eq_some_iff.1 (Aggregate.place?_eq_some h).1

theorem limits_of_place? {a : Aggregate} {s : Source Probe} {p : Placement}
    (h : a.place? (s.reading P w) = some p) :
    ∃ overheat critical, (P.limits s.probe w).overheat = some overheat ∧
      (P.limits s.probe w).critical = some critical ∧ p.ceiling = overheat.minNum critical :=
  (Aggregate.place?_eq_some h).2

variable {sources : List (Source Probe)}

theorem exists_of_choose {snapshot : Snapshot}
    (h : ((Aggregate.forConfig c).processAll (sources.map (reading P w))).choose = some snapshot) :
    ∃ s ∈ sources, s.name = snapshot.sensor ∧
      ∃ value, P.temperature s.probe w = .ok value ∧ value.isFinite = true := by
  have hmem := Aggregate.choose_mem h
  rw [Aggregate.snapshots_processAll_forConfig, List.mem_filterMap] at hmem
  obtain ⟨r, hr, hsnapshot⟩ := hmem
  obtain ⟨s, hs, rfl⟩ := List.mem_map.1 hr
  obtain ⟨p, hp, -, rfl⟩ := Aggregate.exists_of_snapshot? hsnapshot
  exact ⟨s, hs, rfl, p.value, temperature_of_place? hp⟩

theorem exists_of_overheat
    (h : ((Aggregate.forConfig c).processAll (sources.map (reading P w))).overheat = true) :
    ∃ s ∈ sources, ∃ value overheat critical,
      P.temperature s.probe w = .ok value ∧ value.isFinite = true ∧
      (P.limits s.probe w).overheat = some overheat ∧
      (P.limits s.probe w).critical = some critical ∧ overheat.minNum critical < value := by
  rw [Aggregate.overheat_processAll_forConfig, List.any_eq_true] at h
  obtain ⟨r, hr, hraises⟩ := h
  obtain ⟨s, hs, rfl⟩ := List.mem_map.1 hr
  obtain ⟨p, hp, hhot⟩ := Aggregate.exists_of_raisesFlag hraises
  obtain ⟨htemp, hfinite⟩ := temperature_of_place? hp
  obtain ⟨overheat, critical, hover, hcrit, hceil⟩ := limits_of_place? hp
  exact ⟨s, hs, p.value, overheat, critical, htemp, hfinite, hover, hcrit, hceil ▸ hhot⟩

end Source

/-- A decision by what probes show rests on them. -/
theorem ZoneReport.restsOn_of_sources {c : Config} {w : World} {sources : List (Source Probe)}
    {report : ZoneReport} {a : Aggregate}
    (ha : a = (Aggregate.forConfig c).processAll (sources.map (Source.reading P w)))
    (hspeed : a.choose = none → report.speed = maxSpeed) (hoverheat : report.overheat = a.overheat)
    (hselected : report.selected = a.choose.map Snapshot.sensor) : report.RestsOn P w sources := by
  subst ha
  constructor
  · intro name hname
    rw [hselected, Option.map_eq_some_iff] at hname
    obtain ⟨snapshot, hchoose, rfl⟩ := hname
    exact Source.exists_of_choose hchoose
  · intro hflag
    exact Source.exists_of_overheat (hoverheat ▸ hflag)
  · intro hblind
    have hchoose : ((Aggregate.forConfig c).processAll
        (sources.map (Source.reading P w))).choose = none := by
      rw [Option.eq_none_iff_forall_ne_some]
      intro snapshot h
      obtain ⟨s, hs, -, value, htemp, hfinite⟩ := Source.exists_of_choose h
      rw [hblind s hs value htemp] at hfinite
      cases hfinite
    have hcool : ((Aggregate.forConfig c).processAll
        (sources.map (Source.reading P w))).overheat = false := by
      rw [Bool.eq_false_iff]
      intro h
      obtain ⟨s, hs, value, -, -, htemp, hfinite, -⟩ := Source.exists_of_overheat h
      rw [hblind s hs value htemp] at hfinite
      cases hfinite
    refine ⟨hspeed hchoose, hoverheat.trans hcool, ?_⟩
    rw [hselected, hchoose]
    rfl

/-! ## Zones without what was read -/

namespace Zone

/-- A zone without what was read at its sensors. -/
structure Outline (Probe Drive : Type) where
  name : String
  config : Config
  speed : History
  initialized : Bool
  fans : List (Fan Drive)
  sources : List (Source Probe)

def sources (z : Zone Probe Drive) : List (Source Probe) := z.sensors.map Sensor.source

def outline (z : Zone Probe Drive) : Outline Probe Drive :=
  ⟨z.name, z.config, z.speed, z.isInitialized, z.fans, z.sources⟩

theorem outline_load (z : Zone Probe Drive) (m : Members Probe Drive) :
    (z.load m).outline =
      { z.outline with
        initialized := true
        fans := if z.isInitialized then z.fans else m.fans
        sources := if z.isInitialized then z.sources else m.sensors.map Sensor.source } := by
  show Outline.mk _ _ _ _ _ ((z.load m).sensors.map Sensor.source) = _
  rw [isInitialized_load, fans_load, sensors_load, apply_ite (List.map Sensor.source)]
  rfl

theorem outline_refresh (z : Zone Probe Drive) (w : World) (now : Timestamp) :
    (z.refresh P w now).outline =
      { z.outline with fans := z.fans.map (Fan.refresh P w now) } := by
  have hsources : (z.refresh P w now).sources = z.sources := by
    unfold sources
    rw [sensors_refresh, List.map_map]
    exact List.map_congr_left fun s _ => Sensor.source_refresh P w now s
  show Outline.mk _ _ _ _ _ _ = _
  rw [isInitialized_refresh, fans_refresh, hsources]
  rfl

/-- What a zone makes of its sensors, if they have just been read. -/
theorem evaluate_refresh (z : Zone Probe Drive) (w : World) (now : Timestamp) :
    (z.refresh P w now).evaluate P w =
      (Aggregate.forConfig z.config).processAll (z.sources.map (Source.reading P w)) := by
  have hreadings : (z.refresh P w now).sensors.map (Sensor.reading P w) =
      z.sources.map (Source.reading P w) := by
    unfold sources
    rw [sensors_refresh, List.map_map, List.map_map]
    exact List.map_congr_left fun s _ => Sensor.reading_refresh P w now s
  unfold evaluate
  rw [hreadings]
  rfl

/-- What a tick reports and does, and the outline that it leaves, by the outline that it met. -/
theorem conclude_outline (z : Zone Probe Drive) (w : World) (tick : Tick) (last : Single) :
    (let r := z.conclude P w tick last; (r.1, r.2.1.outline, r.2.2)) =
      let a := z.evaluate P w
      let speed := z.outline.config.nextSpeed last a tick.elapsed
      let (failedWrites, fans, w') := commandAll P tick.now speed z.outline.fans w
      (⟨z.outline.name, speed, a.overheat, a.choose.map Snapshot.sensor, failedWrites⟩,
        { z.outline with
          speed := z.outline.speed.recordCommanded tick.now speed
          initialized := true
          fans },
        w') :=
  rfl

variable {P} {z z' : Zone Probe Drive}

theorem prepared_of_outline_eq (h : z.outline = z'.outline) (w : World) (now : Timestamp)
    (offered : Option (Members Probe Drive)) :
    (z.prepared P w now offered true).outline = (z'.prepared P w now offered true).outline ∧
      (z.prepared P w now offered true).evaluate P w =
        (z'.prepared P w now offered true).evaluate P w := by
  have hload : (z.load (offered.getD .empty)).outline =
      (z'.load (offered.getD .empty)).outline := by
    have hinitialized : z.isInitialized = z'.isInitialized := congrArg Outline.initialized h
    have hfans : z.fans = z'.fans := congrArg Outline.fans h
    have hsources : z.sources = z'.sources := congrArg Outline.sources h
    rw [outline_load, outline_load, h, hinitialized, hfans, hsources]
  constructor
  · show ((z.load _).refresh P w now).outline = ((z'.load _).refresh P w now).outline
    have hfans : (z.load (offered.getD .empty)).fans = (z'.load (offered.getD .empty)).fans :=
      congrArg Outline.fans hload
    rw [outline_refresh, outline_refresh, hload, hfans]
  · show ((z.load _).refresh P w now).evaluate P w = ((z'.load _).refresh P w now).evaluate P w
    have hconfig : (z.load (offered.getD .empty)).config = (z'.load (offered.getD .empty)).config :=
      congrArg Outline.config hload
    have hsources : (z.load (offered.getD .empty)).sources =
        (z'.load (offered.getD .empty)).sources :=
      congrArg Outline.sources hload
    rw [evaluate_refresh, evaluate_refresh, hconfig, hsources]

theorem startingSpeed_of_outline_eq (h : z.outline = z'.outline) :
    z.startingSpeed = z'.startingSpeed := by
  have hconfig : z.config = z'.config := congrArg Outline.config h
  have hspeed : z.speed = z'.speed := congrArg Outline.speed h
  have hfans : z.fans = z'.fans := congrArg Outline.fans h
  unfold startingSpeed lastSpeed
  rw [hconfig, hspeed, hfans]

theorem run_outline_eq (h : z.outline = z'.outline) (w : World) (tick : Tick)
    (offered : Option (Members Probe Drive)) :
    ((z.run P w tick offered true).map fun r => (r.1, r.2.1.outline, r.2.2)) =
      (z'.run P w tick offered true).map fun r => (r.1, r.2.1.outline, r.2.2) := by
  obtain ⟨houtline, heval⟩ := prepared_of_outline_eq (P := P) h w tick.now offered
  rw [run_eq, run_eq, startingSpeed_of_outline_eq houtline]
  cases (z'.prepared P w tick.now offered true).startingSpeed with
  | error b => rfl
  | ok last =>
    have hconclude := conclude_outline P (z.prepared P w tick.now offered true) w tick last
    rw [houtline, heval, ← conclude_outline] at hconclude
    exact congrArg Except.ok hconclude

theorem conclude_refresh_restsOn (z : Zone Probe Drive) (w : World) (tick : Tick) (last : Single) :
    ((z.refresh P w tick.now).conclude P w tick last).1.RestsOn P w z.sources := by
  refine ZoneReport.restsOn_of_sources P (evaluate_refresh P z w tick.now) ?_ rfl rfl
  intro hchoose
  exact Config.nextSpeed_eq_maxSpeed (.inr hchoose) last tick.elapsed

theorem run_restsOn {w : World} {tick : Tick} {offered : Option (Members Probe Drive)}
    {r : ZoneReport × Zone Probe Drive × World} (h : z.run P w tick offered true = .ok r) :
    r.1.RestsOn P w (z.load (offered.getD .empty)).sources := by
  rw [run_eq] at h
  cases hlast : (z.prepared P w tick.now offered true).startingSpeed with
  | error b =>
    rw [hlast] at h
    cases h
  | ok last =>
    rw [hlast] at h
    rw [← Except.ok.inj h]
    exact conclude_refresh_restsOn (z.load (offered.getD .empty)) w tick last

/-- Two zones that differ only in what was read at their sensors: a tick that reads the sensors
first reports the same, writes the same to the fans, and leaves zones of one outline again. Under a
valid configuration it comes to an end. It asks every fan for the speed that it reports, and what it
reports rests on the probes as they are. -/
theorem run_of_outline_eq (h : z.outline = z'.outline) (w : World) (tick : Tick)
    (offered : Option (Members Probe Drive)) :
    (((z.run P.logged (w, .empty) tick offered true).map fun r => (r.1, r.2.1.outline, r.2.2)) =
        (z'.run P.logged (w, .empty) tick offered true).map fun r =>
          (r.1, r.2.1.outline, r.2.2)) ∧
      (z.config.Valid → ∃ r, z.run P.logged (w, .empty) tick offered true = .ok r) ∧
      ∀ (report : ZoneReport) (zAfter : Zone Probe Drive) (wAfter : World)
        (log : Log Drive Outlet),
        z.run P.logged (w, .empty) tick offered true = .ok (report, zAfter, wAfter, log) →
          report.RestsOn P w (z.load (offered.getD .empty)).sources ∧
          log.commands =
            (z.load (offered.getD .empty)).fans.map fun f => (f.drive, report.speed) := by
  refine ⟨run_outline_eq (P := P.logged) h (w, .empty) tick offered, ?_, ?_⟩
  · intro hc
    obtain ⟨r, hr, -⟩ := exists_run_eq_ok P.logged hc (w, .empty) tick offered true
    exact ⟨r, hr⟩
  · intro report zAfter wAfter log hr
    have hlogged := run_logged (P := P) z w .empty tick offered true
    rw [hr] at hlogged
    cases hplain : z.run P w tick offered true with
    | error b =>
      rw [hplain] at hlogged
      cases hlogged
    | ok r =>
      rw [hplain] at hlogged
      cases hlogged
      exact ⟨run_restsOn hplain, List.nil_append _⟩

end Zone

end Readings

/-- A sensor that was hot and can no longer be read, beside a cool one: the tick is the one that it
would be without the old temperature. -/
theorem Zone.run_of_outline_eq_hot_before :
    let limits : Limits := ⟨some (ofNat 95), some (ofNat 100), some (ofNat 70)⟩
    let bench : Bench :=
      ⟨[⟨"cpu", none, limits⟩, ⟨"asic", some (ofNat 30), limits⟩],
        [⟨"fan1", some (ofNat 50), [], false⟩]⟩
    let w : Machine := { Machine.blank with bench }
    let tick : Tick := ⟨ofNat 60, ⟨60000000000, by decide⟩⟩
    let cpu : Sensor Probe := ⟨.simulated 0 "cpu", .empty "cpu" 10, true⟩
    let asic : Sensor Probe := ⟨.simulated 1 "asic", .empty "asic" 10, false⟩
    let fan : Fan Drive := ⟨.simulated 0 "fan1", .empty "fan1" 10⟩
    let hot := cpu.record (ofNat 1) (ofNat 120)
    let speed : History := .empty speedHistoryName 10
    let z : Zone Probe Drive := ⟨"System", .default, speed, some ⟨[fan], [hot, asic]⟩⟩
    let z' : Zone Probe Drive := ⟨"System", .default, speed, some ⟨[fan], [cpu, asic]⟩⟩
    let run (z : Zone Probe Drive) := z.run Machine.platform.logged (w, .empty) tick none true
    (z.outline = z'.outline ∧ z.config.Valid) ∧
      (((run z).map fun r => (r.1, r.2.1.outline, r.2.2)) =
        (run z').map fun r => (r.1, r.2.1.outline, r.2.2)) ∧
      ∃ report zAfter wAfter log, run z = .ok (report, zAfter, wAfter, log) ∧
        report.RestsOn Machine.platform w z.sources ∧
        log.commands = [(.simulated 0 "fan1", report.speed)] := by
  intro limits bench w tick cpu asic fan hot speed z z' run
  have houtline : z.outline = z'.outline := rfl
  have hvalid : z.config.Valid := Config.validate_eq_ok_iff.1 Config.validate_default
  obtain ⟨hsame, hends, hrests⟩ :=
    run_of_outline_eq (P := Machine.platform) houtline w tick none
  obtain ⟨⟨report, zAfter, wAfter, log⟩, hrun⟩ := hends hvalid
  exact ⟨⟨houtline, hvalid⟩, hsame, report, zAfter, wAfter, log, hrun,
    hrests report zAfter wAfter log hrun⟩

end ChassisCooling
