import ChassisCooling.Machine.Basic
import ChassisCooling.Proofs.Control.Alike
import ChassisCooling.Proofs.Control.Reachable

/-!
# What another configuration changes

A controller that takes another configuration holds it from then on, and so does its zone. If the
configuration asks for another capacity, every history of the zone gets it, and each stream keeps
the newest samples that there is room for. Nothing else changes: not the fans and sensors, not what
they show, and not the speed to start from.

* `History.ResizedTo`: a history with another capacity.
* `Fan.SameNewest`, `Sensor.SameNewest`: members that show the same.
* `Controller.Reconfigured`: what there is after another configuration.
* `System.Reachable.reconfigure_changes_only`: the main result.
-/

namespace ChassisCooling

open Binary

/-! ## Histories -/

/-- A history with another capacity: each stream is the end of the former one, as long as there is
room for. -/
structure History.ResizedTo (capacity : Nat) (h h' : History) : Prop where
  name_eq : h'.name = h.name
  capacity_eq : h'.capacity = capacity
  measured : h'.measured <:+ h.measured
  length_measured : h'.measured.length = min h.measured.length capacity
  commanded : h'.commanded <:+ h.commanded
  length_commanded : h'.commanded.length = min h.commanded.length capacity

theorem History.resizedTo_setCapacity (h : History) {capacity : Nat}
    (hmin : minHistoryCapacity ≤ capacity) : h.ResizedTo capacity (h.setCapacity capacity) := by
  have hallowed : allowedCapacity capacity = capacity := Nat.max_eq_left hmin
  refine ⟨rfl, hallowed, List.drop_suffix .., ?_, List.drop_suffix .., ?_⟩
  · show (keepNewest (allowedCapacity capacity) h.measured).length = _
    rw [length_keepNewest, hallowed]
  · show (keepNewest (allowedCapacity capacity) h.commanded).length = _
    rw [length_keepNewest, hallowed]

section Changes

variable {World Probe Drive Outlet : Type} {P : Platform World Probe Drive Outlet}

/-! ## Members -/

/-- The same fan, which shows the same speeds. -/
structure Fan.SameNewest (f f' : Fan Drive) : Prop where
  drive : f'.drive = f.drive
  name : f'.name = f.name
  speed : f'.speed = f.speed
  previousSpeed : f'.previousSpeed = f.previousSpeed
  lastCommanded : f'.lastCommanded = f.lastCommanded

theorem Fan.Alike.sameNewest {f f' : Fan Drive} (h : f'.Alike f) : f.SameNewest f' :=
  ⟨h.drive, h.name_eq, h.speed_eq, h.previousSpeed_eq, h.lastCommanded_eq⟩

/-- The same sensor, which shows the same temperatures. -/
structure Sensor.SameNewest (s s' : Sensor Probe) : Prop where
  probe : s'.probe = s.probe
  name : s'.name = s.name
  stale : s'.stale = s.stale
  temperature : s'.temperature = s.temperature
  lastMeasured : s'.history.lastMeasured = s.history.lastMeasured
  previousMeasured : s'.history.nthFromEnd 2 = s.history.nthFromEnd 2

theorem Sensor.Alike.sameNewest {s s' : Sensor Probe} (h : s'.Alike s) : s.SameNewest s' :=
  ⟨h.probe, h.name_eq, h.stale, h.temperature_eq, h.history.lastMeasured_eq,
    h.history.nthFromEnd_eq (by decide)⟩

theorem Members.histories_setCapacity (m : Members Probe Drive) (capacity : Nat) :
    (m.setCapacity capacity).histories =
      m.histories.map fun h => h.setCapacity capacity := by
  unfold histories setCapacity
  simp only [List.map_append, List.map_map]
  rfl

/-! ## Zones -/

namespace Zone

theorem histories_reconfigure_of_eq {z : Zone Probe Drive} {config : Config}
    (h : config.historyCapacity = z.config.historyCapacity) :
    (z.reconfigure config).histories = z.histories := by
  unfold reconfigure
  rw [if_pos h]
  rfl

theorem histories_reconfigure_of_ne {z : Zone Probe Drive} {config : Config}
    (h : config.historyCapacity ≠ z.config.historyCapacity) :
    (z.reconfigure config).histories =
      z.histories.map fun h => h.setCapacity config.historyCapacity := by
  unfold reconfigure histories
  rw [if_neg h, List.map_cons]
  cases z.members with
  | none => rfl
  | some m => exact congrArg (List.cons _) (m.histories_setCapacity config.historyCapacity)

theorem reconfigure_config (z : Zone Probe Drive) : z.reconfigure z.config = z := by
  unfold reconfigure
  rw [if_pos rfl]

end Zone

/-! ## Controllers -/

namespace Controller

/-- What there is after another configuration. -/
structure Reconfigured (config : Config) (c c' : Controller Probe Drive Outlet) : Prop where
  config_eq : c'.config = config
  zone_config_eq : c'.zone.config = config
  destination : c'.destination = config.redirect c.destination
  lastTick : c'.lastTick = c.lastTick
  tickedAt : c'.tickedAt = c.tickedAt
  elapsed : c'.elapsed = c.elapsed
  zoneName : c'.zone.name = c.zone.name
  initialized : c'.zone.isInitialized = c.zone.isInitialized
  lastSpeed : c'.zone.lastSpeed = c.zone.lastSpeed
  fans : List.Forall₂ Fan.SameNewest c.zone.fans c'.zone.fans
  sensors : List.Forall₂ Sensor.SameNewest c.zone.sensors c'.zone.sensors
  histories_of_eq : config.historyCapacity = c.config.historyCapacity →
    c'.zone.histories = c.zone.histories
  histories_of_ne : config.historyCapacity ≠ c.config.historyCapacity →
    List.Forall₂ (History.ResizedTo config.historyCapacity) c.zone.histories c'.zone.histories

variable {c : Controller Probe Drive Outlet} {config : Config}

theorem reconfigured_withConfig (hc : c.zone.config = c.config) (hvalid : config.Valid) :
    c.Reconfigured config (c.withConfig config) := by
  have halike : (c.zone.reconfigure config).Alike c.zone :=
    (Zone.Alike.refl c.zone).reconfigure_left config
  exact
    { config_eq := rfl
      zone_config_eq := Zone.config_reconfigure c.zone config
      destination := rfl
      lastTick := rfl
      tickedAt := rfl
      elapsed := rfl
      zoneName := halike.name
      initialized := Zone.isInitialized_reconfigure c.zone config
      lastSpeed := Zone.lastSpeed_reconfigure c.zone config
      fans := (halike.fans.imp fun _ _ => Fan.Alike.sameNewest).flip
      sensors := (halike.sensors.imp fun _ _ => Sensor.Alike.sameNewest).flip
      histories_of_eq := by
        intro h
        rw [← hc] at h
        exact Zone.histories_reconfigure_of_eq h
      histories_of_ne := by
        intro h
        rw [← hc] at h
        show List.Forall₂ _ _ (c.zone.reconfigure config).histories
        rw [Zone.histories_reconfigure_of_ne h, List.forall₂_map_right_iff, List.forall₂_same]
        intro history _
        exact history.resizedTo_setCapacity hvalid.le_historyCapacity }

/-- Taking the configuration that is held already changes nothing. -/
theorem Settled.withConfig_config (h : c.Settled) : c.withConfig c.config = c := by
  obtain ⟨config, lastTick, tickedAt, elapsed, zone, destination⟩ := c
  obtain ⟨-, hzone, hdestination⟩ := h
  simp only at hzone hdestination
  subst hzone
  unfold withConfig
  simp only
  rw [hdestination, zone.reconfigure_config]

theorem Settled.reconfigure_config (h : c.Settled) : c.reconfigure c.config = .ok c := by
  rw [reconfigure_eq_ok h.valid, h.withConfig_config]

end Controller

/-- A controller takes every valid configuration, and then holds it, and so does its zone; apart
from the capacity of histories and what they drop for it, nothing else has changed. To take the
configuration that is held already is to do nothing, and so is to take one for the second time. -/
theorem System.Reachable.reconfigure_changes_only {s : System World Probe Drive Outlet}
    (hs : s.Reachable P) {config : Config} (hvalid : config.validate = .ok ()) :
    ∃ c', s.controller.reconfigure config = .ok c' ∧ s.controller.Reconfigured config c' ∧
      s.controller.reconfigure s.controller.config = .ok s.controller ∧
      c'.reconfigure config = .ok c' := by
  have hsettled := hs.settled
  have hconfig := Config.validate_eq_ok_iff.1 hvalid
  refine ⟨_, Controller.reconfigure_eq_ok hconfig, ?_, hsettled.reconfigure_config, ?_⟩
  · exact Controller.reconfigured_withConfig hsettled.config_eq hconfig
  · exact (Controller.settled_withConfig s.controller hconfig).reconfigure_config

end Changes

/-- Four ticks of a zone of capacity 10, whose fan keeps seven samples and whose sensor keeps five,
and then room for three samples each. -/
theorem System.Reachable.reconfigure_changes_only_of_shrinking :
    let limits : Limits := ⟨some (ofNat 95), some (ofNat 100), some (ofNat 70)⟩
    let bench : Bench :=
      ⟨[⟨"cpu", some (ofNat 80), limits⟩], [⟨"fan1", some (ofNat 50), [], false⟩]⟩
    let w : Machine := { Machine.blank with bench }
    let members : Members Probe Drive :=
      ⟨[⟨.simulated 0 "fan1", .empty "fan1" 7⟩], [⟨.simulated 0 "cpu", .empty "cpu" 5, false⟩]⟩
    let ticks : List (Operation Machine Probe Drive Recorder) :=
      [0, 60, 120, 180].map fun seconds => .tick (ofNat seconds) { refresh := true }
    let sizes (c : Controller Probe Drive Recorder) : List (Nat × Nat × Nat) :=
      c.zone.histories.map fun h => (h.capacity, h.measured.length, h.commanded.length)
    let config : Config := { Config.default with historyCapacity := 3 }
    ∃ (c : Controller Probe Drive Recorder) (events : List _) (last : _),
      Controller.create .default = .ok c ∧
      (System.mk c w).run Machine.platform (.load "System" members :: ticks) = .ok events ∧
      events.getLast? = some last ∧
      sizes last.after.controller = [(10, 0, 4), (7, 4, 4), (5, 4, 0)] ∧
      last.after.Reachable Machine.platform ∧ config.validate = .ok () ∧
      ∃ c', last.after.controller.reconfigure config = .ok c' ∧
        last.after.controller.Reconfigured config c' ∧
        last.after.controller.reconfigure last.after.controller.config =
          .ok last.after.controller ∧
        c'.reconfigure config = .ok c' := by
  intro limits bench w members ticks sizes config
  obtain ⟨c, hc, hsizes⟩ : ∃ c : Controller Probe Drive Recorder,
      Controller.create .default = .ok c ∧
        (((System.mk c w).run Machine.platform (.load "System" members :: ticks)).toOption.bind
          fun events => events.getLast?.map fun e => sizes e.after.controller) =
            some [(10, 0, 4), (7, 4, 4), (5, 4, 0)] :=
    ⟨_, Controller.create_default, by decide +kernel⟩
  have hvalid : config.validate = .ok () := by
    rw [Config.validate_eq_ok_iff]
    exact (Config.validate_eq_ok_iff.1 Config.validate_default).withCapacity (by decide)
  cases hrun : (System.mk c w).run Machine.platform (.load "System" members :: ticks) with
  | error b =>
    rw [hrun] at hsizes
    cases hsizes
  | ok events =>
    rw [hrun] at hsizes
    obtain ⟨last, hlast, hsizes⟩ := Option.map_eq_some_iff.1 hsizes
    have hreachable : last.after.Reachable Machine.platform :=
      (System.Reachable.new hc w).run hrun last (List.mem_of_getLast? hlast)
    exact ⟨c, events, last, hc, hrun, hlast, hsizes, hreachable, hvalid,
      hreachable.reconfigure_changes_only hvalid⟩

end ChassisCooling
