import ChassisCooling.Proofs.Control.Frame
import ChassisCooling.Proofs.Control.System

/-!
# What becomes of a controller

Whatever happens to a new controller and its world, the controller holds a valid configuration, its
zone holds the same one, and its rows go where the configuration has them go, unless an outlet was
supplied.

* `Controller.withConfig`: a controller that has taken another configuration;
  `Controller.reconfigure_eq_ok_iff`: when it takes one.
* `System.Reachable`: what can become of a new controller and its world; `System.Reachable.run`: a
  run stays among it.
* `Controller.Settled`: the invariant, which `System.step_settled` keeps.
-/

namespace ChassisCooling

variable {World Probe Drive Outlet : Type} {P : Platform World Probe Drive Outlet}

/-! ## Another configuration -/

namespace Config

theorem redirect_destination (config : Config) :
    config.redirect config.destination = (config.destination : Option (Destination Outlet)) := by
  cases h : (config.destination : Option (Destination Outlet)) with
  | none => exact h
  | some d =>
    cases d with
    | directory path => exact h
    | supplied outlet => rfl

theorem redirect_redirect (config : Config) (d : Option (Destination Outlet)) :
    config.redirect (config.redirect d) = config.redirect d := by
  cases d with
  | none => exact redirect_destination config
  | some d =>
    cases d with
    | directory path => exact redirect_destination config
    | supplied outlet => rfl

end Config

namespace Controller

variable {c c' : Controller Probe Drive Outlet} {config : Config}

/-- A controller that has taken another configuration. -/
def withConfig (c : Controller Probe Drive Outlet) (config : Config) :
    Controller Probe Drive Outlet :=
  { c with
    config
    destination := config.redirect c.destination
    zone := c.zone.reconfigure config }

theorem reconfigure_eq (c : Controller Probe Drive Outlet) (config : Config) :
    c.reconfigure config = config.validate.map fun _ => c.withConfig config := by
  unfold reconfigure
  cases config.validate <;> rfl

/-- In place, a refused configuration is noticed before anything is changed. -/
theorem apply_reconfigureInPlace (c : Controller Probe Drive Outlet) (config : Config) :
    (reconfigureInPlace config).apply c =
      match config.validate with
      | .ok () => (.ok (), c.withConfig config)
      | .error e => (.error e, c) := by
  unfold reconfigureInPlace Update.apply
  cases config.validate <;> rfl

theorem reconfigure_eq_ok (h : config.Valid) :
    c.reconfigure config = .ok (c.withConfig config) := by
  rw [reconfigure_eq, Config.validate_eq_ok_iff.2 h]
  rfl

theorem reconfigure_eq_ok_iff :
    c.reconfigure config = .ok c' ↔ config.Valid ∧ c' = c.withConfig config := by
  constructor
  · intro h
    have hvalid : config.Valid := by
      unfold reconfigure at h
      rw [check_bind_eq_ok_iff] at h
      exact Config.validate_eq_ok_iff.1 h.1
    rw [reconfigure_eq_ok hvalid] at h
    exact ⟨hvalid, (Except.ok.inj h).symm⟩
  · rintro ⟨hvalid, rfl⟩
    exact reconfigure_eq_ok hvalid

theorem reconfigure_eq_error_iff {e : Error} :
    c.reconfigure config = .error e ↔ config.validate = .error e := by
  rw [reconfigure_eq]
  cases config.validate with
  | ok u => simp only [Except.map, reduceCtorEq]
  | error e' => simp only [Except.map, Except.error.injEq]

/-! ## The invariant -/

/-- The configuration is valid and the zone's own, and rows go where it has them go, unless an
outlet was supplied. -/
structure Settled (c : Controller Probe Drive Outlet) : Prop where
  valid : c.config.Valid
  config_eq : c.zone.config = c.config
  destination : c.config.redirect c.destination = c.destination

theorem settled_create (h : Controller.create config = .ok c) : c.Settled := by
  obtain ⟨hvalid, -, elapsed, -, rfl⟩ := create_eq_ok_iff.1 h
  exact ⟨hvalid, rfl, Config.redirect_destination config⟩

theorem Settled.withOutlet (h : c.Settled) (outlet : Outlet) : (c.withOutlet outlet).Settled :=
  ⟨h.valid, h.config_eq, rfl⟩

/-- A change of the zone that leaves its configuration alone. -/
theorem Settled.withZone (h : c.Settled) {z : Zone Probe Drive} (hz : z.config = c.zone.config) :
    Settled { c with zone := z } :=
  ⟨h.valid, hz.trans h.config_eq, h.destination⟩

/-! Binding and recording change the zone, but neither its name nor its configuration. -/

theorem exists_load_eq (c : Controller Probe Drive Outlet) (zone : String)
    (m : Members Probe Drive) :
    ∃ z, (c.load zone m).2 = { c with zone := z } ∧ z.name = c.zone.name ∧
      z.config = c.zone.config := by
  unfold Controller.load
  split
  · exact ⟨_, rfl, rfl, rfl⟩
  · exact ⟨c.zone, rfl, rfl, rfl⟩

/-- A temperature read elsewhere is a change of the first sensor of its name. -/
theorem recordTemperature_eq (c : Controller Probe Drive Outlet) (sensor : String)
    (now : Timestamp) (value : Single) :
    (c.recordTemperature sensor now value).2 =
      { c with zone := c.zone.touchSensor sensor fun s => s.record now value } := by
  unfold Controller.recordTemperature Zone.touchSensor
  cases c.zone.changeSensor sensor fun s => ((), s.record now value) <;> rfl

/-- A speed read elsewhere is a change of the first fan of its name. -/
theorem recordSpeed_eq (c : Controller Probe Drive Outlet) (fan : String)
    (now : Timestamp) (value : Single) :
    (c.recordSpeed fan now value).2 =
      { c with zone := c.zone.touchFan fan fun f => f.record now value } := by
  unfold Controller.recordSpeed Zone.touchFan
  cases c.zone.changeFan fan fun f => ((), f.record now value) <;> rfl

theorem exists_recordTemperature_eq (c : Controller Probe Drive Outlet) (sensor : String)
    (now : Timestamp) (value : Single) :
    ∃ z, (c.recordTemperature sensor now value).2 = { c with zone := z } ∧ z.name = c.zone.name ∧
      z.config = c.zone.config := by
  rw [recordTemperature_eq, Zone.touchSensor_eq]
  exact ⟨_, rfl, rfl, rfl⟩

theorem exists_recordSpeed_eq (c : Controller Probe Drive Outlet) (fan : String)
    (now : Timestamp) (value : Single) :
    ∃ z, (c.recordSpeed fan now value).2 = { c with zone := z } ∧ z.name = c.zone.name ∧
      z.config = c.zone.config := by
  rw [recordSpeed_eq, Zone.touchFan_eq]
  exact ⟨_, rfl, rfl, rfl⟩

theorem Settled.load (h : c.Settled) (zone : String) (m : Members Probe Drive) :
    (c.load zone m).2.Settled := by
  obtain ⟨z, heq, -, hz⟩ := exists_load_eq c zone m
  exact heq ▸ h.withZone hz

theorem settled_withConfig (c : Controller Probe Drive Outlet) (h : config.Valid) :
    (c.withConfig config).Settled :=
  ⟨h, Zone.config_reconfigure c.zone config, Config.redirect_redirect config c.destination⟩

/-- A tick changes the zone and the times. -/
theorem exists_tick_eq {w w' : World} {now : Timestamp} {options : TickOptions Probe Drive}
    {report : TickReport} (h : c.tick P w now options = .ok (report, c', w')) :
    ∃ z,
      c' =
        { c with
          lastTick := some now
          tickedAt := some now
          elapsed := options.elapsed.getD (c.elapsedAt now)
          zone := z } ∧
        z.name = c.zone.name ∧ z.config = c.zone.config := by
  rw [tick_eq] at h
  cases hrun : c.zone.run P w ⟨now, options.elapsed.getD (c.elapsedAt now)⟩
      (options.members.lookup c.zone.name) options.refresh with
  | error b =>
    rw [hrun] at h
    cases h
  | ok r =>
    obtain ⟨-, -, hname, hconfig⟩ := Zone.of_run_eq_ok P hrun
    rw [hrun] at h
    obtain ⟨-, h⟩ := Prod.mk.inj (Except.ok.inj h)
    obtain ⟨rfl, -⟩ := Prod.mk.inj h
    exact ⟨_, rfl, hname, hconfig⟩

theorem Settled.tick (hc : c.Settled) {w w' : World} {now : Timestamp}
    {options : TickOptions Probe Drive} {report : TickReport}
    (h : c.tick P w now options = .ok (report, c', w')) : c'.Settled := by
  obtain ⟨z, rfl, -, hz⟩ := exists_tick_eq h
  exact ⟨hc.valid, hz.trans hc.config_eq, hc.destination⟩

end Controller

/-! ## Runs -/

namespace System

/-- What can become of a new controller and its world. -/
inductive Reachable (P : Platform World Probe Drive Outlet) :
    System World Probe Drive Outlet → Prop where
  | new {config : Config} {c : Controller Probe Drive Outlet}
      (h : Controller.create config = .ok c) (w : World) : Reachable P ⟨c, w⟩
  | step {s s' : System World Probe Drive Outlet} {op : Operation World Probe Drive Outlet}
      {outcome : Outcome} {log : Log Drive Outlet} (hs : Reachable P s)
      (h : s.step P op = .ok (outcome, s', log)) : Reachable P s'
  /-- Anything is done to the zone or to its members directly, short of another configuration. -/
  | touch {s : System World Probe Drive Outlet} (hs : Reachable P s) {z : Zone Probe Drive}
      (hz : z.config = s.controller.zone.config) :
      Reachable P { s with controller := { s.controller with zone := z } }

/-- Beside its log, a tick is what it is without one. -/
theorem exists_tick_of_step {s s' : System World Probe Drive Outlet} {now : Timestamp}
    {options : TickOptions Probe Drive} {outcome : Outcome} {log : Log Drive Outlet}
    (h : s.step P (.tick now options) = .ok (outcome, s', log)) :
    ∃ report, outcome = .ticked report ∧
      s.controller.tick P s.world now options = .ok (report, s'.controller, s'.world) := by
  obtain ⟨⟨report, c', w', log'⟩, hlogged, h⟩ := bind_eq_ok_iff.1 h
  cases h
  rw [Controller.tick_logged] at hlogged
  obtain ⟨⟨report', c', w'⟩, htick, heq⟩ := map_eq_ok_iff.1 hlogged
  cases heq
  exact ⟨_, rfl, htick⟩

/-- A configuration is taken, or refused without a trace. -/
theorem step_reconfigure (s : System World Probe Drive Outlet) (config : Config) :
    s.step P (.reconfigure config) =
      .ok (match config.validate with
        | .ok () => (.none, { s with controller := s.controller.withConfig config }, .empty)
        | .error e => (.refused e, s, .empty)) := by
  unfold step
  simp only
  rw [Controller.reconfigure_eq]
  cases config.validate <;> rfl

theorem step_settled {s s' : System World Probe Drive Outlet}
    {op : Operation World Probe Drive Outlet} {outcome : Outcome} {log : Log Drive Outlet}
    (hs : s.controller.Settled) (h : s.step P op = .ok (outcome, s', log)) :
    s'.controller.Settled := by
  cases op with
  | change world =>
    cases h
    exact hs
  | tick now options =>
    obtain ⟨⟨report, c', w', log'⟩, htick, h⟩ := bind_eq_ok_iff.1 h
    cases h
    exact hs.tick htick
  | load zone members =>
    cases h
    exact hs.load zone members
  | reconfigure config =>
    rw [step_reconfigure] at h
    cases hvalid : config.validate with
    | ok u =>
      rw [hvalid] at h
      cases h
      exact Controller.settled_withConfig _ (Config.validate_eq_ok_iff.1 hvalid)
    | error e =>
      rw [hvalid] at h
      cases h
      exact hs
  | withOutlet outlet =>
    cases h
    exact hs.withOutlet outlet
  | recordTemperature sensor now value =>
    cases h
    obtain ⟨z, heq, -, hz⟩ :=
      Controller.exists_recordTemperature_eq s.controller sensor now value
    exact heq ▸ hs.withZone hz
  | recordSpeed fan now value =>
    cases h
    obtain ⟨z, heq, -, hz⟩ := Controller.exists_recordSpeed_eq s.controller fan now value
    exact heq ▸ hs.withZone hz

/-- Every operation on a controller with a valid configuration comes to an end. -/
theorem exists_step_eq_ok {s : System World Probe Drive Outlet} (hs : s.controller.Settled)
    (op : Operation World Probe Drive Outlet) : ∃ r, s.step P op = .ok r := by
  cases op with
  | tick now options =>
    have hvalid : s.controller.zone.config.Valid := hs.config_eq ▸ hs.valid
    obtain ⟨r, hr⟩ := Controller.exists_tick_eq_ok (P := P.logged) hvalid (s.world, .empty) now
      options
    exact ⟨_, step_tick_eq_ok hr⟩
  | reconfigure config => exact ⟨_, step_reconfigure s config⟩
  | change | load | withOutlet | recordTemperature | recordSpeed => exact ⟨_, rfl⟩

theorem exists_run_eq_ok {s : System World Probe Drive Outlet} (hs : s.controller.Settled)
    (ops : List (Operation World Probe Drive Outlet)) : ∃ events, s.run P ops = .ok events := by
  induction ops generalizing s with
  | nil => exact ⟨[], rfl⟩
  | cons op ops ih =>
    obtain ⟨⟨outcome, s', log⟩, hstep⟩ := exists_step_eq_ok (P := P) hs op
    obtain ⟨events, hrun⟩ := ih (step_settled hs hstep)
    exact ⟨_, run_cons_eq_ok hstep hrun⟩

/-- A run of several operations is one step and a run of the others. -/
theorem run_cons_eq_ok_iff {s : System World Probe Drive Outlet}
    {op : Operation World Probe Drive Outlet} {ops : List (Operation World Probe Drive Outlet)}
    {events : List (Event World Probe Drive Outlet)} :
    s.run P (op :: ops) = .ok events ↔
      ∃ outcome s' log later, s.step P op = .ok (outcome, s', log) ∧ s'.run P ops = .ok later ∧
        events = ⟨op, s, outcome, log, s'⟩ :: later := by
  constructor
  · intro h
    obtain ⟨⟨outcome, s', log⟩, hstep, h⟩ := bind_eq_ok_iff.1 h
    obtain ⟨later, hlater, h⟩ := bind_eq_ok_iff.1 h
    exact ⟨outcome, s', log, later, hstep, hlater, (Except.ok.inj h).symm⟩
  · rintro ⟨outcome, s', log, later, hstep, hlater, rfl⟩
    exact run_cons_eq_ok hstep hlater

theorem map_operation_of_run {s : System World Probe Drive Outlet}
    {ops : List (Operation World Probe Drive Outlet)}
    {events : List (Event World Probe Drive Outlet)} (h : s.run P ops = .ok events) :
    events.map Event.operation = ops := by
  induction ops generalizing s events with
  | nil =>
    cases h
    rfl
  | cons op ops ih =>
    obtain ⟨outcome, s', log, later, -, hlater, rfl⟩ := run_cons_eq_ok_iff.1 h
    rw [List.map_cons, ih hlater]

theorem Reachable.settled {s : System World Probe Drive Outlet} (h : s.Reachable P) :
    s.controller.Settled := by
  induction h with
  | new h w => exact Controller.settled_create h
  | step _ h ih => exact step_settled ih h
  | touch _ hz ih => exact ih.withZone hz

/-- Every event of a run leaves something reachable. -/
theorem Reachable.run {s : System World Probe Drive Outlet} (hs : s.Reachable P)
    {ops : List (Operation World Probe Drive Outlet)}
    {events : List (Event World Probe Drive Outlet)} (h : s.run P ops = .ok events) :
    ∀ e ∈ events, e.after.Reachable P := by
  induction ops generalizing s events with
  | nil =>
    cases h
    exact List.forall_mem_nil _
  | cons op ops ih =>
    obtain ⟨⟨outcome, after, log⟩, hstep, h⟩ := bind_eq_ok_iff.1 h
    obtain ⟨later, hlater, h⟩ := bind_eq_ok_iff.1 h
    cases h
    have hafter : after.Reachable P := hs.step hstep
    exact List.forall_mem_cons.2 ⟨hafter, ih hafter hlater⟩

end System

end ChassisCooling
