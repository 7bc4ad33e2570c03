import ChassisCooling.Proofs.Control.Tick

/-!
# What operations change, and what they leave alone

Only a new configuration replaces the configuration, only binding decides which probes there are,
and a value for a single member goes to the first member of its name.

* `Zone.sensors_load`, `Zone.fans_load`: binding.
* `Zone.sensors_refresh`, `Zone.fans_refresh`: reading, which changes each member by itself.
* `Zone.config_reconfigure`, `Zone.lastSpeed_reconfigure`: a new configuration.
* `Zone.changeFan_eq_some`, `Zone.changeSensor_eq_some`: single members; `Zone.touchFan`,
  `Zone.touchSensor`: a change of the first one of a name.
* `Members.wrap_eq_ok`: new members; `Controller.create_eq_ok_iff`: a new controller.
-/

namespace ChassisCooling

variable {World Probe Drive Outlet : Type} (P : Platform World Probe Drive Outlet)

namespace Sensor

theorem probe_refresh (w : World) (now : Timestamp) (s : Sensor Probe) :
    (s.refresh P w now).probe = s.probe := by
  rw [refresh_eq]
  split <;> rfl

end Sensor

namespace Zone

variable {z : Zone Probe Drive}

theorem fans_eq (z : Zone Probe Drive) : z.fans = (z.members.getD .empty).fans := rfl

theorem sensors_eq (z : Zone Probe Drive) : z.sensors = (z.members.getD .empty).sensors := rfl

theorem sensors_load (z : Zone Probe Drive) (m : Members Probe Drive) :
    (z.load m).sensors = if z.isInitialized then z.sensors else m.sensors := by
  unfold load isInitialized sensors
  cases z.members <;> rfl

theorem fans_load (z : Zone Probe Drive) (m : Members Probe Drive) :
    (z.load m).fans = if z.isInitialized then z.fans else m.fans := by
  unfold load isInitialized fans
  cases z.members <;> rfl

theorem isInitialized_load (z : Zone Probe Drive) (m : Members Probe Drive) :
    (z.load m).isInitialized = true := by
  unfold load isInitialized
  cases z.members <;> rfl

theorem sensors_refresh (z : Zone Probe Drive) (w : World) (now : Timestamp) :
    (z.refresh P w now).sensors = z.sensors.map (Sensor.refresh P w now) := by
  unfold refresh sensors
  cases z.members <;> rfl

theorem fans_refresh (z : Zone Probe Drive) (w : World) (now : Timestamp) :
    (z.refresh P w now).fans = z.fans.map (Fan.refresh P w now) := by
  unfold refresh fans
  cases z.members <;> rfl

theorem isInitialized_refresh (z : Zone Probe Drive) (w : World) (now : Timestamp) :
    (z.refresh P w now).isInitialized = z.isInitialized :=
  Option.isSome_map

theorem sensors_reconfigure (z : Zone Probe Drive) (config : Config) :
    (z.reconfigure config).sensors =
      if config.historyCapacity = z.config.historyCapacity then z.sensors
      else z.sensors.map (Sensor.setCapacity config.historyCapacity) := by
  unfold reconfigure sensors
  split
  · rfl
  · cases z.members <;> rfl

theorem fans_reconfigure (z : Zone Probe Drive) (config : Config) :
    (z.reconfigure config).fans =
      if config.historyCapacity = z.config.historyCapacity then z.fans
      else z.fans.map (Fan.setCapacity config.historyCapacity) := by
  unfold reconfigure fans
  split
  · rfl
  · cases z.members <;> rfl

theorem isInitialized_reconfigure (z : Zone Probe Drive) (config : Config) :
    (z.reconfigure config).isInitialized = z.isInitialized := by
  unfold reconfigure
  split
  · rfl
  · exact Option.isSome_map

theorem config_reconfigure (z : Zone Probe Drive) (config : Config) :
    (z.reconfigure config).config = config := by
  unfold reconfigure
  split <;> rfl

theorem name_reconfigure (z : Zone Probe Drive) (config : Config) :
    (z.reconfigure config).name = z.name := by
  unfold reconfigure
  split <;> rfl

theorem speed_reconfigure (z : Zone Probe Drive) (config : Config) :
    (z.reconfigure config).speed =
      if config.historyCapacity = z.config.historyCapacity then z.speed
      else z.speed.setCapacity config.historyCapacity := by
  unfold reconfigure
  split <;> rfl

/-- A smaller capacity drops old speeds, but not the last one. -/
theorem lastSpeed_reconfigure (z : Zone Probe Drive) (config : Config) :
    (z.reconfigure config).lastSpeed = z.lastSpeed := by
  unfold lastSpeed
  rw [speed_reconfigure]
  split
  · rfl
  · exact History.lastCommanded_setCapacity z.speed config.historyCapacity

theorem lastSpeed_conclude (z : Zone Probe Drive) (w : World) (tick : Tick) (last : Single) :
    (z.conclude P w tick last).2.1.lastSpeed = some (z.conclude P w tick last).1.speed :=
  History.lastCommanded_recordCommanded ..

theorem commandAll_cons (now : Timestamp) (speed : Single) (f : Fan Drive) (fs : List (Fan Drive))
    (w : World) :
    commandAll P now speed (f :: fs) w =
      let r := f.command P w now speed
      let rest := commandAll P now speed fs r.2.2
      ((if r.1 then rest.1 else rest.1 + 1), r.2.1 :: rest.2.1, rest.2.2) :=
  rfl

/-- Under a valid configuration a tick comes to an end, with the same configuration. -/
theorem exists_run_eq_ok (hc : z.config.Valid) (w : World) (tick : Tick)
    (offered : Option (Members Probe Drive)) (refresh : Bool) :
    ∃ r, z.run P w tick offered refresh = .ok r ∧ r.2.1.config = z.config := by
  have hconfig := config_prepared P z w tick.now offered refresh
  rw [← hconfig] at hc
  obtain ⟨last, hlast⟩ := startingSpeed_ok hc
  exact ⟨_, run_eq_ok P hlast, hconfig⟩

/-! ## Single members -/

section Change

variable {α β : Type}

theorem mem_of_changeFirst {p : α → Bool} {change : α → β × α} {xs ys : List α} {result : β}
    (h : changeFirst p change xs = some (result, ys)) {y : α} (hy : y ∈ ys) :
    y ∈ xs ∨ ∃ x ∈ xs, y = (change x).2 := by
  induction xs generalizing ys with
  | nil => cases h
  | cons x xs ih =>
    unfold changeFirst at h
    split at h
    · obtain ⟨-, rfl⟩ := Prod.mk.inj (Option.some.inj h)
      rcases List.mem_cons.1 hy with rfl | hy
      · exact .inr ⟨x, List.mem_cons_self, rfl⟩
      · exact .inl (List.mem_cons_of_mem x hy)
    · obtain ⟨⟨result', zs⟩, hrest, heq⟩ := Option.map_eq_some_iff.1 h
      obtain ⟨rfl, rfl⟩ := Prod.mk.inj heq
      rcases List.mem_cons.1 hy with rfl | hy
      · exact .inl List.mem_cons_self
      · rcases ih hrest hy with hmem | ⟨x', hx', rfl⟩
        · exact .inl (List.mem_cons_of_mem x hmem)
        · exact .inr ⟨x', List.mem_cons_of_mem x hx', rfl⟩

/-- A change of the first element that a test picks relates each element to the one in its place, if
every element is related to itself and to what the change makes of it. -/
theorem forall₂_changeFirst {R : α → α → Prop} (hrefl : ∀ x, R x x) {p : α → Bool}
    {change : α → β × α} (hchange : ∀ x, R x (change x).2) {xs ys : List α} {result : β}
    (h : changeFirst p change xs = some (result, ys)) : List.Forall₂ R xs ys := by
  induction xs generalizing ys with
  | nil => cases h
  | cons x xs ih =>
    unfold changeFirst at h
    split at h
    · obtain ⟨-, rfl⟩ := Prod.mk.inj (Option.some.inj h)
      exact .cons (hchange x) (List.forall₂_same.2 fun x _ => hrefl x)
    · obtain ⟨⟨result', zs⟩, hrest, heq⟩ := Option.map_eq_some_iff.1 h
      obtain ⟨rfl, rfl⟩ := Prod.mk.inj heq
      exact .cons (hrefl x) (ih hrest)

theorem changeFan_eq_some {name : String} {change : Fan Drive → β × Fan Drive} {result : β}
    {z' : Zone Probe Drive} (h : z.changeFan name change = some (result, z')) :
    ∃ m fans, z.members = some m ∧
      changeFirst (fun f => f.name == name) change m.fans = some (result, fans) ∧
      z' = { z with members := some { m with fans } } := by
  obtain ⟨m, hm, h⟩ := Option.bind_eq_some_iff.1 h
  obtain ⟨⟨result', fans⟩, hfirst, h⟩ := Option.bind_eq_some_iff.1 h
  obtain ⟨rfl, rfl⟩ := Prod.mk.inj (Option.some.inj h)
  exact ⟨m, fans, hm, hfirst, rfl⟩

theorem changeSensor_eq_some {name : String} {change : Sensor Probe → β × Sensor Probe}
    {result : β} {z' : Zone Probe Drive} (h : z.changeSensor name change = some (result, z')) :
    ∃ m sensors, z.members = some m ∧
      changeFirst (fun s => s.name == name) change m.sensors = some (result, sensors) ∧
      z' = { z with members := some { m with sensors } } := by
  obtain ⟨m, hm, h⟩ := Option.bind_eq_some_iff.1 h
  obtain ⟨⟨result', sensors⟩, hfirst, h⟩ := Option.bind_eq_some_iff.1 h
  obtain ⟨rfl, rfl⟩ := Prod.mk.inj (Option.some.inj h)
  exact ⟨m, sensors, hm, hfirst, rfl⟩

/-- A list after a change of the first element that a test picks, if there is one. -/
def touchFirst (p : α → Bool) (change : α → α) (xs : List α) : List α :=
  ((changeFirst p (fun x => ((), change x)) xs).map Prod.snd).getD xs

theorem mem_touchFirst {p : α → Bool} {change : α → α} {xs : List α} {y : α}
    (h : y ∈ touchFirst p change xs) : y ∈ xs ∨ ∃ x ∈ xs, y = change x := by
  unfold touchFirst at h
  cases hfirst : changeFirst p (fun x => ((), change x)) xs with
  | none =>
    rw [hfirst] at h
    exact .inl h
  | some r =>
    rw [hfirst] at h
    exact mem_of_changeFirst hfirst h

theorem forall₂_touchFirst {R : α → α → Prop} (hrefl : ∀ x, R x x) {change : α → α}
    (hchange : ∀ x, R x (change x)) (p : α → Bool) (xs : List α) :
    List.Forall₂ R xs (touchFirst p change xs) := by
  unfold touchFirst
  cases hfirst : changeFirst p (fun x => ((), change x)) xs with
  | none => exact List.forall₂_same.2 fun x _ => hrefl x
  | some r => exact forall₂_changeFirst hrefl hchange hfirst

/-- A zone after a change of the first fan of a name, if there is one. -/
def touchFan (z : Zone Probe Drive) (fan : String) (change : Fan Drive → Fan Drive) :
    Zone Probe Drive :=
  ((z.changeFan fan fun f => ((), change f)).map Prod.snd).getD z

/-- A zone after a change of the first sensor of a name, if there is one. -/
def touchSensor (z : Zone Probe Drive) (sensor : String)
    (change : Sensor Probe → Sensor Probe) : Zone Probe Drive :=
  ((z.changeSensor sensor fun s => ((), change s)).map Prod.snd).getD z

theorem touchFan_eq (z : Zone Probe Drive) (fan : String) (change : Fan Drive → Fan Drive) :
    z.touchFan fan change =
      { z with
        members := z.members.map fun m =>
          { m with fans := touchFirst (fun f => f.name == fan) change m.fans } } := by
  obtain ⟨name, config, speed, members⟩ := z
  cases members with
  | none => rfl
  | some m =>
    show ((((changeFirst _ _ m.fans).bind _).map Prod.snd).getD _ : Zone Probe Drive) =
      ⟨name, config, speed, some { m with fans := ((changeFirst _ _ m.fans).map _).getD _ }⟩
    cases changeFirst (fun f : Fan Drive => f.name == fan) (fun f => ((), change f)) m.fans <;> rfl

theorem touchSensor_eq (z : Zone Probe Drive) (sensor : String)
    (change : Sensor Probe → Sensor Probe) :
    z.touchSensor sensor change =
      { z with
        members := z.members.map fun m =>
          { m with sensors := touchFirst (fun s => s.name == sensor) change m.sensors } } := by
  obtain ⟨name, config, speed, members⟩ := z
  cases members with
  | none => rfl
  | some m =>
    show ((((changeFirst _ _ m.sensors).bind _).map Prod.snd).getD _ : Zone Probe Drive) =
      ⟨name, config, speed, some { m with sensors := ((changeFirst _ _ m.sensors).map _).getD _ }⟩
    cases changeFirst (fun s : Sensor Probe => s.name == sensor) (fun s => ((), change s))
      m.sensors <;> rfl

/-- Nothing but fans changes with a change of a fan. -/
theorem exists_touchFan_eq (z : Zone Probe Drive) (fan : String)
    (change : Fan Drive → Fan Drive) :
    ∃ fans, z.touchFan fan change =
      { z with members := z.members.map fun m => { m with fans } } := by
  refine ⟨touchFirst (fun f => f.name == fan) change z.fans, ?_⟩
  rw [touchFan_eq, fans_eq]
  cases z.members <;> rfl

/-- Nothing but sensors changes with a change of a sensor. -/
theorem exists_touchSensor_eq (z : Zone Probe Drive) (sensor : String)
    (change : Sensor Probe → Sensor Probe) :
    ∃ sensors, z.touchSensor sensor change =
      { z with members := z.members.map fun m => { m with sensors } } := by
  refine ⟨touchFirst (fun s => s.name == sensor) change z.sensors, ?_⟩
  rw [touchSensor_eq, sensors_eq]
  cases z.members <;> rfl

theorem forall₂_touchFan {R : Fan Drive → Fan Drive → Prop} (hrefl : ∀ f, R f f)
    {change : Fan Drive → Fan Drive} (hchange : ∀ f, R f (change f)) (z : Zone Probe Drive)
    (fan : String) : List.Forall₂ R z.fans (z.touchFan fan change).fans := by
  rw [touchFan_eq, fans_eq]
  cases z.members with
  | none => exact .nil
  | some m => exact forall₂_touchFirst hrefl hchange _ m.fans

end Change

end Zone

/-! ## New members -/

theorem Fan.wrap_eq_ok {capacity : Nat} {drive : Drive} {f : Fan Drive}
    (h : wrap P capacity drive = .ok f) : f = ⟨drive, .empty (P.driveName drive) capacity⟩ := by
  obtain ⟨history, hhistory, h⟩ := bind_eq_ok_iff.1 h
  obtain rfl := History.create_eq_ok hhistory
  exact (Except.ok.inj h).symm

theorem Sensor.wrap_eq_ok {capacity : Nat} {probe : Probe} {s : Sensor Probe}
    (h : wrap P capacity probe = .ok s) :
    s = ⟨probe, .empty (P.probeName probe) capacity, false⟩ := by
  obtain ⟨history, hhistory, h⟩ := bind_eq_ok_iff.1 h
  obtain rfl := History.create_eq_ok hhistory
  exact (Except.ok.inj h).symm

/-- New members are the drives and the probes, of which nothing was recorded. -/
theorem Members.wrap_eq_ok {capacity : Nat} {drives : List Drive} {probes : List Probe}
    {m : Members Probe Drive} (h : wrap P capacity drives probes = .ok m) :
    m.fans = drives.map (fun drive => ⟨drive, .empty (P.driveName drive) capacity⟩) ∧
      m.sensors =
        probes.map fun probe => ⟨probe, .empty (P.probeName probe) capacity, false⟩ := by
  obtain ⟨fans, hfans, h⟩ := bind_eq_ok_iff.1 h
  obtain ⟨sensors, hsensors, h⟩ := bind_eq_ok_iff.1 h
  obtain rfl := Except.ok.inj h
  exact ⟨eq_map_of_mapM (fun _ _ => Fan.wrap_eq_ok P) hfans,
    eq_map_of_mapM (fun _ _ => Sensor.wrap_eq_ok P) hsensors⟩

/-! ## New controllers -/

/-- The default period is a minute. -/
theorem Config.interval_default : Config.default.interval = .ok ⟨60000000000, by decide⟩ := by
  have hsecs : Duration.ofSeconds? Config.default.intervalSecs =
      some ⟨60000000000, by decide⟩ := by
    decide +kernel
  unfold Config.interval
  rw [hsecs]

/-- The period does not depend on where rows go. -/
theorem Config.interval_withExport {c : Config} {exportPath : Option String} {simulation : Bool} :
    ({ c with exportPath, simulation } : Config).interval = c.interval :=
  rfl

namespace Controller

/-- A controller is made for a valid configuration whose histories can be had and whose period is a
duration. -/
theorem create_eq_ok_iff {config : Config} {c : Controller Probe Drive Outlet} :
    create config = .ok c ↔
      config.Valid ∧ History.reservable config.historyCapacity ∧
        ∃ elapsed, config.interval = .ok elapsed ∧
          c = ⟨config, none, none, elapsed,
            ⟨systemZone, config, .empty Zone.speedHistoryName config.historyCapacity, none⟩,
            config.destination⟩ := by
  unfold create Zone.create
  rw [check_bind_eq_ok_iff, mapError_eq_ok_iff, Config.validate_eq_ok_iff]
  refine and_congr_right fun _ => ?_
  unfold History.create
  split
  · next hroom =>
    simp only [hroom, true_and]
    show (config.interval.mapError Refusal.breach >>= _) = _ ↔ _
    rw [bind_eq_ok_iff]
    simp only [mapError_eq_ok_iff]
    constructor
    · rintro ⟨elapsed, h, heq⟩
      exact ⟨elapsed, h, (Except.ok.inj heq).symm⟩
    · rintro ⟨elapsed, h, rfl⟩
      exact ⟨elapsed, h, rfl⟩
  · next hroom =>
    constructor
    · intro h
      cases h
    · intro h
      exact absurd h.1 hroom

theorem zoneName_of_create {config : Config} {c : Controller Probe Drive Outlet}
    (h : create config = .ok c) : c.zone.name = systemZone := by
  obtain ⟨-, -, elapsed, -, rfl⟩ := create_eq_ok_iff.1 h
  rfl

theorem members_of_create {config : Config} {c : Controller Probe Drive Outlet}
    (h : create config = .ok c) : c.zone.members = none := by
  obtain ⟨-, -, elapsed, -, rfl⟩ := create_eq_ok_iff.1 h
  rfl

/-- If the zone's configuration is valid, a tick comes to an end. -/
theorem exists_tick_eq_ok {c : Controller Probe Drive Outlet} (hc : c.zone.config.Valid) (w : World)
    (now : Timestamp) (options : TickOptions Probe Drive) :
    ∃ r, c.tick P w now options = .ok r := by
  obtain ⟨r, hrun, -⟩ := Zone.exists_run_eq_ok P hc w
    ⟨now, options.elapsed.getD (c.elapsedAt now)⟩ (options.members.lookup c.zone.name)
    options.refresh
  rw [tick_eq, hrun]
  exact ⟨_, rfl⟩

/-- The controller that the defaults give. -/
theorem create_default :
    (create Config.default : Except Refusal (Controller Probe Drive Outlet)) =
      .ok ⟨.default, none, none, ⟨60000000000, by decide⟩,
        ⟨systemZone, .default, .empty Zone.speedHistoryName 10, none⟩, none⟩ :=
  create_eq_ok_iff.2 ⟨Config.validate_eq_ok_iff.1 Config.validate_default, by decide, _,
    Config.interval_default, rfl⟩

end Controller

end ChassisCooling
