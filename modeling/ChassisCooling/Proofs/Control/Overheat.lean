import ChassisCooling.Machine.Basic
import ChassisCooling.Proofs.Control.Step
import ChassisCooling.Proofs.Control.Tick

/-!
# Overheating

A sensor above its ceiling takes all fans to full speed, whatever else there is in its zone. A
sensor whose effective target is not above zero has no say in this either.

* `Aggregate.overheat_of_mem`: one hot reading raises the flag of the whole list.
* `Zone.run_overheat`: full speed for every fan in a tick with a hot sensor.
* `Zone.run_hot_sensor_passed_over`: a hot sensor that is passed over for its target.
-/

namespace ChassisCooling

open Binary

/-- The target that a sensor is held to: the one given by name, else its own, else a fraction of its
overheat threshold, and the offset on top. -/
def Config.effectiveTarget (c : Config) (name : String) (own : Option Single) (overheat : Single) :
    Single :=
  ((c.sensorTargets.get? name).or own).getD (c.targetFactor * overheat) + c.targetOffset

namespace Aggregate

variable {c : Config} {r : Reading} {value overheat critical : Single}

/-- A reading above its ceiling raises the flag, also where its target leaves no room below the
ceiling. -/
theorem raisesFlag_of_hot (htemp : r.temperature = some value)
    (hover : r.limits.overheat = some overheat) (hcrit : r.limits.critical = some critical)
    (htarget : ¬c.effectiveTarget r.name r.limits.target overheat ≤ ofNat 0)
    (hceil : ofNat 0 < overheat.minNum critical) (hhot : overheat.minNum critical < value) :
    (forConfig c).raisesFlag r = true := by
  have hskip : ¬((forConfig c).baseTarget r.name r.limits.target overheat + (forConfig c).offset ≤
      ofNat 0 ∨ overheat.minNum critical ≤ ofNat 0) := by
    rw [not_or]
    exact ⟨htarget, not_le_of_lt hceil⟩
  unfold raisesFlag place?
  rw [htemp, hover, hcrit]
  simp only
  rw [if_neg hskip, Option.any_some]
  exact decide_eq_true hhot

/-- The flag of a list does not depend on the other readings, nor on their order. -/
theorem overheat_of_mem {rs : List Reading} (hr : r ∈ rs)
    (hflag : (forConfig c).raisesFlag r = true) :
    ((forConfig c).processAll rs).overheat = true := by
  rw [overheat_processAll_forConfig, List.any_eq_true]
  exact ⟨r, hr, hflag⟩

end Aggregate

namespace Zone

section Overheat

variable {World Probe Drive Outlet : Type} {P : Platform World Probe Drive Outlet}

/-- With an overheat flag a tick ends at full speed, from whatever speed it starts. -/
theorem conclude_of_overheat {z : Zone Probe Drive} {w : World}
    (h : (z.evaluate P w).overheat = true) (tick : Tick) (last : Single) :
    (z.conclude P w tick last).1.overheat = true ∧ (z.conclude P w tick last).1.speed = maxSpeed :=
  ⟨h, Config.nextSpeed_eq_maxSpeed (.inl h) last tick.elapsed⟩

/-- A sensor with a temperature above its positive ceiling, held to a target that is not at zero or
below, makes a tick report overheat and ask every fan for full speed. -/
theorem run_overheat {z : Zone Probe Drive} (hc : z.config.validate = .ok ()) (w : World)
    (tick : Tick) (offered : Option (Members Probe Drive)) (refresh : Bool) {s : Sensor Probe}
    (hs : s ∈ (z.prepared P w tick.now offered refresh).sensors)
    {value overheat critical : Single} (htemp : s.temperature = some value)
    (hover : (P.limits s.probe w).overheat = some overheat)
    (hcrit : (P.limits s.probe w).critical = some critical)
    (htarget : ¬z.config.effectiveTarget s.name (P.limits s.probe w).target overheat ≤ ofNat 0)
    (hceil : ofNat 0 < overheat.minNum critical) (hhot : overheat.minNum critical < value) :
    ∃ report z' w' log,
      z.run P w tick offered refresh = .ok (report, z', w') ∧
        z.run P.logged (w, .empty) tick offered refresh = .ok (report, z', (w', log)) ∧
        report.overheat = true ∧ report.speed = maxSpeed ∧
        log.commands = (z.load (offered.getD .empty)).fans.map fun f => (f.drive, maxSpeed) := by
  have hflag : (Aggregate.forConfig z.config).raisesFlag (s.reading P w) = true :=
    Aggregate.raisesFlag_of_hot htemp hover hcrit htarget hceil hhot
  have hagg : ((z.prepared P w tick.now offered refresh).evaluate P w).overheat = true := by
    unfold evaluate
    rw [config_prepared]
    exact Aggregate.overheat_of_mem (List.mem_map_of_mem hs) hflag
  -- Neither binding nor reading the members changes the configuration.
  rw [Config.validate_eq_ok_iff, ← config_prepared P z w tick.now offered refresh] at hc
  obtain ⟨last, hlast⟩ := startingSpeed_ok hc
  obtain ⟨hreport, hspeed⟩ := conclude_of_overheat hagg tick last
  have hrun := run_eq_ok P hlast
  rcases hend : (z.prepared P w tick.now offered refresh).conclude P w tick last with
    ⟨report, z', w'⟩
  rw [hend] at hrun hreport hspeed
  have hlogged := run_logged (P := P) z w .empty tick offered refresh
  rw [hrun] at hlogged
  refine ⟨report, z', w', _, hrun, hlogged, hreport, hspeed, ?_⟩
  show [] ++ (z.load (offered.getD .empty)).fans.map (fun f => (f.drive, report.speed)) = _
  rw [hspeed, List.nil_append]

end Overheat

/-- The first tick of a zone binds a hot sensor, one that cannot be read, and a fan that refuses to
be written. -/
theorem run_overheat_first_tick :
    let limits : Limits := ⟨some (ofNat 95), some (ofNat 100), some (ofNat 70)⟩
    let bench : Bench :=
      ⟨[⟨"cpu", some (ofNat 97), limits⟩, ⟨"asic", none, limits⟩], [⟨"fan1", none, [], true⟩]⟩
    let w : Machine := { Machine.blank with bench }
    let tick : Tick := ⟨ofNat 1, .zero⟩
    let z : Zone Probe Drive := ⟨"System", .default, .empty "target" 10, none⟩
    let cpu : Sensor Probe := ⟨.simulated 0 "cpu", .empty "cpu" 10, false⟩
    let asic : Sensor Probe := ⟨.simulated 1 "asic", .empty "asic" 10, false⟩
    let fan : Fan Drive := ⟨.simulated 0 "fan1", .empty "fan1" 10⟩
    let offered : Option (Members Probe Drive) := some ⟨[fan], [cpu, asic]⟩
    let s := cpu.refresh Machine.platform w tick.now
    (z.config.validate = .ok () ∧
        s ∈ (z.prepared Machine.platform w tick.now offered true).sensors ∧
        s.temperature = some (ofNat 97) ∧ Machine.platform.limits s.probe w = limits ∧
        ¬z.config.effectiveTarget s.name limits.target (ofNat 95) ≤ ofNat 0 ∧
        (ofNat 0 : Single) < (ofNat 95).minNum (ofNat 100) ∧
        (ofNat 95).minNum (ofNat 100) < (ofNat 97 : Single)) ∧
      ∃ report z' w' log,
        z.run Machine.platform w tick offered true = .ok (report, z', w') ∧
          z.run Machine.platform.logged (w, .empty) tick offered true =
            .ok (report, z', (w', log)) ∧
          report.overheat = true ∧ report.speed = maxSpeed ∧
          log.commands = [(.simulated 0 "fan1", maxSpeed)] := by
  intro limits bench w tick z cpu asic fan offered s
  have hc : z.config.validate = .ok () := Config.validate_default
  have hs : s ∈ (z.prepared Machine.platform w tick.now offered true).sensors :=
    List.mem_cons_self
  have htemp : s.temperature = some (ofNat 97) := by decide +kernel
  have hlimits : Machine.platform.limits s.probe w = limits := by decide +kernel
  have hover : (Machine.platform.limits s.probe w).overheat = some (ofNat 95) := by
    rw [hlimits]
  have hcrit : (Machine.platform.limits s.probe w).critical = some (ofNat 100) := by
    rw [hlimits]
  have htarget : ¬z.config.effectiveTarget s.name limits.target (ofNat 95) ≤ ofNat 0 := by
    decide +kernel
  have hceil : (ofNat 0 : Single) < (ofNat 95).minNum (ofNat 100) := by decide +kernel
  have hhot : (ofNat 95).minNum (ofNat 100) < (ofNat 97 : Single) := by decide +kernel
  exact ⟨⟨hc, hs, htemp, hlimits, htarget, hceil, hhot⟩,
    run_overheat hc w tick offered true hs htemp hover hcrit (by rwa [hlimits]) hceil hhot⟩

/-- A hot sensor whose target is set to zero by name: the tick neither reports overheat nor asks for
full speed. -/
theorem run_hot_sensor_passed_over :
    let limits : Limits := ⟨some (ofNat 95), some (ofNat 100), some (ofNat 70)⟩
    let bench : Bench :=
      ⟨[⟨"cpu", some (ofNat 97), limits⟩, ⟨"asic", some (ofNat 30), limits⟩],
        [⟨"fan1", some (ofNat 50), [], false⟩]⟩
    let w : Machine := { Machine.blank with bench }
    let tick : Tick := ⟨ofNat 1, ⟨60000000000, by decide⟩⟩
    let config := { Config.default with sensorTargets := Targets.empty.insert "cpu" (ofNat 0) }
    let z : Zone Probe Drive := ⟨"System", config, .empty "target" 10, none⟩
    let cpu : Sensor Probe := ⟨.simulated 0 "cpu", .empty "cpu" 10, false⟩
    let asic : Sensor Probe := ⟨.simulated 1 "asic", .empty "asic" 10, false⟩
    let fan : Fan Drive := ⟨.simulated 0 "fan1", .empty "fan1" 10⟩
    let offered : Option (Members Probe Drive) := some ⟨[fan], [cpu, asic]⟩
    let s := cpu.refresh Machine.platform w tick.now
    z.config.validate = .ok () ∧
      s ∈ (z.prepared Machine.platform w tick.now offered true).sensors ∧
      s.temperature = some (ofNat 97) ∧ Machine.platform.limits s.probe w = limits ∧
      (ofNat 0 : Single) < (ofNat 95).minNum (ofNat 100) ∧
      (ofNat 95).minNum (ofNat 100) < (ofNat 97 : Single) ∧
      (z.run Machine.platform w tick offered true).toOption.map
        (fun (report, _, w') => (report.overheat, report.speed, w'.bench.fans.map (·.writes))) =
          some (false, ofNat 40, [[ofNat 40]]) := by
  intro limits bench w tick config z cpu asic fan offered s
  refine ⟨?_, List.mem_cons_self, ?_, ?_, ?_, ?_, ?_⟩
  · rw [Config.validate_eq_ok_iff]
    constructor <;> decide +kernel
  all_goals decide +kernel

end Zone

end ChassisCooling
