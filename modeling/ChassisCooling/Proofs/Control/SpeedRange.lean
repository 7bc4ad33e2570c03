import ChassisCooling.Machine.Basic
import ChassisCooling.Proofs.Control.Frame
import ChassisCooling.Proofs.Control.Step
import ChassisCooling.Proofs.Control.System
import ChassisCooling.Proofs.Lookup

/-!
# Speeds stay in the allowed range

The invariant of a controller is that its configuration is valid, that its zone has the same one,
and that nothing the zone may start from is not-a-number. It does not say that the last speed is in
the allowed range, since a new configuration may raise the floor above it.

* `Controller.Sound`: the invariant.
* `System.step_sound`: every operation succeeds and keeps it; a tick reports a speed in range.
* `System.run_speed_mem`: every run of a new controller.
-/

namespace ChassisCooling

open Binary

section Runs

variable {World Probe Drive Outlet : Type} {P : Platform World Probe Drive Outlet}

/-! ## What is measured at fans -/

/-- No speed measured at a fan is not-a-number. -/
def Members.Numbers (m : Members Probe Drive) : Prop :=
  ∀ f ∈ m.fans, AllNumbers f.history.measured

namespace Fan

variable {f : Fan Drive}

theorem numbers_record (hf : AllNumbers f.history.measured) (now : Timestamp) {value : Single}
    (hv : value.isNaN = false) : AllNumbers (f.record now value).history.measured :=
  (hf.concat now hv).keepNewest f.history.capacity

/-- What a drive shows is recorded only if it is finite. -/
theorem numbers_refresh (hf : AllNumbers f.history.measured) (w : World) (now : Timestamp) :
    AllNumbers (f.refresh P w now).history.measured := by
  rw [refresh_eq]
  cases hread : read? P f.drive w with
  | none => exact hf
  | some value =>
    apply numbers_record hf now
    unfold read? at hread
    split at hread
    · split at hread
      · next hfin =>
        rw [← Option.some.inj hread]
        exact isNaN_of_isFinite hfin
      · cases hread
    · cases hread

theorem measured_command (w : World) (now : Timestamp) (speed : Single) (f : Fan Drive) :
    (f.command P w now speed).2.1.history.measured = f.history.measured := by
  unfold command
  split <;> rfl

end Fan

namespace Members

variable {m : Members Probe Drive}

theorem numbers_empty : (empty : Members Probe Drive).Numbers := by
  intro f hf
  cases hf

theorem numbers_refresh (hm : m.Numbers) (w : World) (now : Timestamp) :
    (m.refresh P w now).Numbers := by
  intro f hf
  obtain ⟨g, hg, rfl⟩ := List.mem_map.1 hf
  exact Fan.numbers_refresh (hm g hg) w now

theorem numbers_setCapacity (hm : m.Numbers) (capacity : Nat) :
    (m.setCapacity capacity).Numbers := by
  intro f hf
  obtain ⟨g, hg, rfl⟩ := List.mem_map.1 hf
  exact (hm g hg).keepNewest _

/-- Members that were just made bring no measured speed at all. -/
theorem numbers_wrap {capacity : Nat} {drives : List Drive} {probes : List Probe}
    (h : wrap P capacity drives probes = .ok m) : m.Numbers := by
  intro f hf
  rw [(wrap_eq_ok P h).1] at hf
  obtain ⟨drive, -, rfl⟩ := List.mem_map.1 hf
  exact AllNumbers.nil

end Members

/-! ## What a zone may start from -/

namespace Zone

variable {z : Zone Probe Drive}

theorem numbers_iff : z.Numbers ↔ AllNumbers z.speed.commanded ∧ (z.members.getD .empty).Numbers :=
  ⟨fun h => ⟨h.commanded, h.measured⟩, fun h => ⟨h.1, h.2⟩⟩

theorem numbers_load (hz : z.Numbers) {m : Members Probe Drive} (hm : m.Numbers) :
    (z.load m).Numbers := by
  rw [numbers_iff] at hz ⊢
  refine ⟨hz.1, ?_⟩
  show ((z.members.or (some m)).getD .empty).Numbers
  cases hmem : z.members with
  | none => exact hm
  | some bound =>
    have := hz.2
    rwa [hmem] at this

theorem numbers_refresh (hz : z.Numbers) (w : World) (now : Timestamp) :
    (z.refresh P w now).Numbers := by
  rw [numbers_iff] at hz ⊢
  refine ⟨hz.1, ?_⟩
  show ((z.members.map (Members.refresh P w now)).getD .empty).Numbers
  cases hmem : z.members with
  | none => exact Members.numbers_empty
  | some bound =>
    have := hz.2
    rw [hmem] at this
    exact Members.numbers_refresh this w now

theorem numbers_prepared (hz : z.Numbers) {offered : Option (Members Probe Drive)}
    (hoffered : (offered.getD .empty).Numbers) (w : World) (now : Timestamp) (refresh : Bool) :
    (z.prepared P w now offered refresh).Numbers := by
  unfold prepared
  split
  · exact numbers_refresh (numbers_load hz hoffered) w now
  · exact numbers_load hz hoffered

theorem numbers_commandAll {fs : List (Fan Drive)} (hfs : ∀ f ∈ fs, AllNumbers f.history.measured)
    (w : World) (now : Timestamp) (speed : Single) :
    ∀ f ∈ (commandAll P now speed fs w).2.1, AllNumbers f.history.measured := by
  induction fs generalizing w with
  | nil =>
    intro f hf
    cases hf
  | cons g fs ih =>
    intro f hf
    rw [List.forall_mem_cons] at hfs
    rcases List.mem_cons.1 hf with rfl | hf
    · show AllNumbers (g.command P w now speed).2.1.history.measured
      rw [Fan.measured_command]
      exact hfs.1
    · exact ih hfs.2 _ f hf

theorem numbers_conclude (hz : z.Numbers) (w : World) (tick : Tick) (last : Single)
    (hspeed : (z.conclude P w tick last).1.speed.isNaN = false) :
    (z.conclude P w tick last).2.1.Numbers := by
  constructor
  · exact (hz.commanded.concat tick.now hspeed).keepNewest z.speed.capacity
  · exact numbers_commandAll hz.measured w tick.now _

theorem numbers_reconfigure (hz : z.Numbers) (config : Config) :
    (z.reconfigure config).Numbers := by
  unfold reconfigure
  split
  · exact ⟨hz.commanded, hz.measured⟩
  · rw [numbers_iff] at hz ⊢
    refine ⟨hz.1.keepNewest _, ?_⟩
    show ((z.members.map (Members.setCapacity config.historyCapacity)).getD .empty).Numbers
    cases hmem : z.members with
    | none => exact Members.numbers_empty
    | some bound =>
      have := hz.2
      rw [hmem] at this
      exact Members.numbers_setCapacity this config.historyCapacity

/-- A tick of a zone under a valid configuration succeeds, and what it reports is in the allowed
range and the last speed from then on. -/
theorem run_mem (hc : z.config.Valid) (hz : z.Numbers) {offered : Option (Members Probe Drive)}
    (hoffered : (offered.getD .empty).Numbers) (w : World) (tick : Tick) (refresh : Bool) :
    ∃ report z' w', z.run P w tick offered refresh = .ok (report, z', w') ∧
      (z'.config = z.config ∧ z'.Numbers) ∧
      (z.config.minSpeed ≤ report.speed ∧ report.speed ≤ maxSpeed) ∧
      z'.lastSpeed = some report.speed := by
  have hconfig := config_prepared P z w tick.now offered refresh
  have hnumbers := numbers_prepared (P := P) hz hoffered w tick.now refresh
  -- The configuration may have changed since the last tick, so the last speed need not be in range;
  -- the speed to start from is.
  rw [← hconfig] at hc ⊢
  obtain ⟨last, hlast, hmin, hmax⟩ := startingSpeed_mem hc hnumbers
  have hmem := Config.nextSpeed_mem hc hmin hmax
    ((z.prepared P w tick.now offered refresh).evaluate P w) tick.elapsed
  refine ⟨_, _, _, run_eq_ok P hlast, ⟨rfl, ?_⟩, hmem, ?_⟩
  · exact numbers_conclude hnumbers w tick last (isNaN_right_of_le hmem.1)
  · exact History.lastCommanded_recordCommanded ..

end Zone

/-! ## The invariant -/

namespace Controller

/-- The configuration is valid and the zone's own, and the zone starts from numbers. -/
structure Sound (c : Controller Probe Drive Outlet) : Prop where
  valid : c.config.Valid
  config_eq : c.zone.config = c.config
  numbers : c.zone.Numbers

variable {c : Controller Probe Drive Outlet}

theorem sound_create {config : Config} (h : Controller.create config = .ok c) : c.Sound := by
  obtain ⟨hvalid, -, elapsed, -, rfl⟩ := create_eq_ok_iff.1 h
  exact ⟨hvalid, rfl, AllNumbers.nil, Members.numbers_empty⟩

theorem sound_load (hc : c.Sound) (zone : String) {m : Members Probe Drive} (hm : m.Numbers) :
    (c.load zone m).2.Sound := by
  unfold load
  split
  · exact ⟨hc.valid, hc.config_eq, Zone.numbers_load hc.numbers hm⟩
  · exact hc

theorem sound_reconfigure (hc : c.Sound) {config : Config} {c' : Controller Probe Drive Outlet}
    (h : c.reconfigure config = .ok c') : c'.Sound := by
  unfold reconfigure at h
  rw [check_bind_eq_ok_iff, Config.validate_eq_ok_iff] at h
  obtain ⟨hvalid, h⟩ := h
  obtain rfl := Except.ok.inj h
  exact ⟨hvalid, Zone.config_reconfigure c.zone config, Zone.numbers_reconfigure hc.numbers config⟩

theorem sound_recordTemperature (hc : c.Sound) (sensor : String) (now : Timestamp)
    (value : Single) : (c.recordTemperature sensor now value).2.Sound := by
  unfold recordTemperature
  split
  · next z' h =>
    obtain ⟨m, sensors, hm, -, rfl⟩ := Zone.changeSensor_eq_some h
    refine ⟨hc.valid, hc.config_eq, hc.numbers.commanded, ?_⟩
    have := hc.numbers.measured
    rw [Zone.fans_eq, hm] at this
    exact this
  · exact hc

theorem sound_recordSpeed (hc : c.Sound) (fan : String) (now : Timestamp) {value : Single}
    (hv : value.isNaN = false) : (c.recordSpeed fan now value).2.Sound := by
  unfold recordSpeed
  split
  · next z' h =>
    obtain ⟨m, fans, hm, hfirst, rfl⟩ := Zone.changeFan_eq_some h
    refine ⟨hc.valid, hc.config_eq, hc.numbers.commanded, ?_⟩
    have hbound := hc.numbers.measured
    rw [Zone.fans_eq, hm] at hbound
    intro f hf
    rcases Zone.mem_of_changeFirst hfirst hf with hmem | ⟨g, hg, rfl⟩
    · exact hbound f hmem
    · exact Fan.numbers_record (hbound g hg) now hv
  · exact hc

/-- What a tick reports: a speed in the range that is allowed at the time, which is the last speed
from then on, and the one speed that every fan is asked for. -/
structure ReportsInRange (c c' : Controller Probe Drive Outlet) (options : TickOptions Probe Drive)
    (report : TickReport) (log : Log Drive Outlet) : Prop where
  number : report.zone.speed.isNaN = false
  minSpeed_le : c.config.minSpeed ≤ report.zone.speed
  le_maxSpeed : report.zone.speed ≤ maxSpeed
  lastSpeed : c'.zone.lastSpeed = some report.zone.speed
  commands : log.commands = (c.commandedFans options).map fun f => (f.drive, report.zone.speed)

theorem numbers_offered {options : TickOptions Probe Drive}
    (h : ∀ entry ∈ options.members, entry.2.Numbers) (zone : String) :
    ((options.members.lookup zone).getD .empty).Numbers := by
  cases hlookup : options.members.lookup zone with
  | none => exact Members.numbers_empty
  | some m =>
    exact h (zone, m) (mem_of_lookup hlookup)

theorem tick_sound (hc : c.Sound) {options : TickOptions Probe Drive}
    (hoptions : ∀ entry ∈ options.members, entry.2.Numbers) (w : World) (now : Timestamp) :
    ∃ report c' w' log,
      c.tick P.logged (w, .empty) now options = .ok (report, c', (w', log)) ∧
        c'.Sound ∧ c.ReportsInRange c' options report log := by
  have hvalid : c.zone.config.Valid := by
    rw [hc.config_eq]
    exact hc.valid
  obtain ⟨report, z', w', hrun, ⟨hconfig, hnumbers⟩, ⟨hmin, hmax⟩, hlast⟩ :=
    Zone.run_mem (P := P) hvalid hc.numbers (numbers_offered hoptions c.zone.name) w
      ⟨now, options.elapsed.getD (c.elapsedAt now)⟩ options.refresh
  have htick := tick_eq P c w now options
  rw [hrun] at htick
  have hlogged := tick_logged P c w .empty now options
  rw [htick] at hlogged
  refine ⟨_, _, _, _, hlogged, ⟨hc.valid, ?_, hnumbers⟩, ?_⟩
  · rw [← hc.config_eq]
    exact hconfig
  · rw [hc.config_eq] at hmin
    exact ⟨isNaN_right_of_le hmin, hmin, hmax, hlast, List.nil_append _⟩

end Controller

/-! ## Runs -/

/-- The operation brings in no speed that is not-a-number: neither as a speed read elsewhere, nor
measured before at a fan that is offered. Temperatures may be anything. -/
def Operation.BringsNumbers : Operation World Probe Drive Outlet → Prop
  | .tick _ options => ∀ entry ∈ options.members, entry.2.Numbers
  | .load _ members => members.Numbers
  | .recordSpeed _ _ value => value.isNaN = false
  | _ => True

namespace System

variable {s : System World Probe Drive Outlet}

/-- Every operation comes to an end and keeps the invariant; what a tick reports is in range. -/
theorem step_sound (hs : s.controller.Sound) {op : Operation World Probe Drive Outlet}
    (hop : op.BringsNumbers) :
    ∃ outcome s' log, s.step P op = .ok (outcome, s', log) ∧ s'.controller.Sound ∧
      ∀ now options, op = .tick now options → ∃ report, outcome = .ticked report ∧
        s.controller.ReportsInRange s'.controller options report log := by
  cases op with
  | change world =>
    refine ⟨_, _, _, rfl, hs, ?_⟩
    exact fun _ _ h => nomatch h
  | tick now options =>
    obtain ⟨report, c', w', log, htick, hsound, hrange⟩ :=
      Controller.tick_sound (P := P) hs hop s.world now
    refine ⟨_, _, _, step_tick_eq_ok htick, hsound, ?_⟩
    rintro now' options' heq
    obtain ⟨rfl, rfl⟩ := Operation.tick.inj heq
    exact ⟨report, rfl, hrange⟩
  | load zone members =>
    refine ⟨_, _, _, rfl, Controller.sound_load hs zone hop, ?_⟩
    exact fun _ _ h => nomatch h
  | reconfigure config =>
    cases hc : s.controller.reconfigure config with
    | ok c' =>
      refine ⟨.none, { s with controller := c' }, .empty, ?_, ?_, fun _ _ h => nomatch h⟩
      · simp only [step, hc]
      · exact Controller.sound_reconfigure hs hc
    | error e =>
      refine ⟨.refused e, s, .empty, ?_, hs, fun _ _ h => nomatch h⟩
      simp only [step, hc]
  | withOutlet outlet =>
    refine ⟨_, _, _, rfl, ⟨hs.valid, hs.config_eq, hs.numbers⟩, ?_⟩
    exact fun _ _ h => nomatch h
  | recordTemperature sensor now value =>
    refine ⟨_, _, _, rfl, Controller.sound_recordTemperature hs sensor now value, ?_⟩
    exact fun _ _ h => nomatch h
  | recordSpeed fan now value =>
    refine ⟨_, _, _, rfl, Controller.sound_recordSpeed hs fan now hop, ?_⟩
    exact fun _ _ h => nomatch h

theorem run_sound (hs : s.controller.Sound) {ops : List (Operation World Probe Drive Outlet)}
    (hops : ∀ op ∈ ops, op.BringsNumbers) :
    ∃ events, s.run P ops = .ok events ∧ events.map Event.operation = ops ∧
      ∀ e ∈ events, ∀ now options, e.operation = .tick now options →
        ∃ report, e.outcome = .ticked report ∧
          e.before.controller.ReportsInRange e.after.controller options report e.log := by
  -- By induction on the operations, for every system that keeps the invariant.
  induction ops generalizing s with
  | nil => exact ⟨[], rfl, rfl, List.forall_mem_nil _⟩
  | cons op ops ih =>
    rw [List.forall_mem_cons] at hops
    obtain ⟨outcome, s', log, hstep, hs', hrange⟩ := step_sound (P := P) hs hops.1
    obtain ⟨events, hrun, hmap, hevents⟩ := ih hs' hops.2
    refine ⟨_, run_cons_eq_ok hstep hrun, ?_, ?_⟩
    · rw [List.map_cons, hmap]
    · intro e he
      rcases List.mem_cons.1 he with rfl | he
      · exact hrange
      · exact hevents e he

/-- Whatever happens to a new controller and its world, in any order: every operation comes to an
end, and every tick reports a speed in range, keeps it as the last speed, and asks every fan for
it. -/
theorem run_speed_mem {config : Config} {c : Controller Probe Drive Outlet}
    (hcreate : Controller.create config = .ok c) (w : World)
    (ops : List (Operation World Probe Drive Outlet)) (hops : ∀ op ∈ ops, op.BringsNumbers) :
    ∃ events, (System.mk c w).run P ops = .ok events ∧ events.map Event.operation = ops ∧
      ∀ e ∈ events, ∀ now options, e.operation = .tick now options →
        ∃ report, e.outcome = .ticked report ∧
          report.zone.speed.isNaN = false ∧
          e.before.controller.config.minSpeed ≤ report.zone.speed ∧
          report.zone.speed ≤ maxSpeed ∧
          e.after.controller.zone.lastSpeed = some report.zone.speed ∧
          e.log.commands =
            (e.before.controller.commandedFans options).map fun f =>
              (f.drive, report.zone.speed) := by
  obtain ⟨events, hrun, hmap, hevents⟩ :=
    run_sound (P := P) (s := ⟨c, w⟩) (Controller.sound_create hcreate) hops
  refine ⟨events, hrun, hmap, ?_⟩
  intro e he now options hop
  obtain ⟨report, hreport, hrange⟩ := hevents e he now options hop
  exact ⟨report, hreport, hrange.number, hrange.minSpeed_le, hrange.le_maxSpeed,
    hrange.lastSpeed, hrange.commands⟩

end System

end Runs

/-- A sensor that cannot be read, a raised floor, and odd values read elsewhere. -/
theorem System.run_speed_mem_raised_floor :
    let limits : Limits := ⟨some (ofNat 95), some (ofNat 100), some (ofNat 70)⟩
    let bench : Bench := ⟨[⟨"cpu", none, limits⟩], [⟨"fan1", some (.infinity true), [], true⟩]⟩
    let w : Machine := { Machine.blank with bench }
    let cpu : Sensor Probe := ⟨.simulated 0 "cpu", .empty "cpu" 10, false⟩
    let fan : Fan Drive := ⟨.simulated 0 "fan1", .empty "fan1" 10⟩
    let ops : List (Operation Machine Probe Drive Recorder) :=
      [.load "System" ⟨[fan], [cpu]⟩, .tick (ofNat 0) {}, .recordTemperature "cpu" (ofNat 1) .nan,
        .recordSpeed "fan1" (ofNat 1) (.infinity false),
        .reconfigure (Config.default.withMinSpeed (ofNat 60)),
        .tick (ofNat 60) { refresh := true }]
    ∃ c : Controller Probe Drive Recorder, Controller.create Config.default = .ok c ∧
      (∀ op ∈ ops, op.BringsNumbers) ∧
      ∃ events, (System.mk c w).run Machine.platform ops = .ok events ∧
        events.map Event.operation = ops ∧
        ∀ e ∈ events, ∀ now options, e.operation = .tick now options →
          ∃ report, e.outcome = .ticked report ∧
            e.before.controller.config.minSpeed ≤ report.zone.speed ∧
            report.zone.speed ≤ maxSpeed := by
  intro limits bench w cpu fan ops
  have hops : ∀ op ∈ ops, op.BringsNumbers := by
    have hfan : AllNumbers fan.history.measured := AllNumbers.nil
    intro op hop
    simp only [ops, List.mem_cons, List.not_mem_nil, or_false] at hop
    rcases hop with rfl | rfl | rfl | rfl | rfl | rfl
    · exact List.forall_mem_singleton.2 hfan
    · exact List.forall_mem_nil _
    · trivial
    · rfl
    · trivial
    · exact List.forall_mem_nil _
  obtain ⟨events, hrun, hmap, hevents⟩ :=
    run_speed_mem (P := Machine.platform) Controller.create_default w ops hops
  refine ⟨_, Controller.create_default, hops, events, hrun, hmap, ?_⟩
  intro e he now options hop
  obtain ⟨report, hreport, -, hmin, hmax, -⟩ := hevents e he now options hop
  exact ⟨report, hreport, hmin, hmax⟩

end ChassisCooling
