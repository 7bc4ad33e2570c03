import ChassisCooling.Proofs.Control.Frame
import ChassisCooling.Proofs.Thermal.Aggregate

/-!
# Zones on the same hardware

Of its platform a zone sees the probes and drives of its members and no others, and of its
configuration the targets of its own sensors and no others. So two zones with the same members
behave alike on any two platforms whose probes and drives of the members show and do the same, under
any two configurations that differ in where rows go or in targets of other sensors.

* `Scope`, `Members.Within`: the probes, drives and sensor names of the members.
* `Platform.SameHardware`: platforms on which those are the same.
* `Config.SameControl`: configurations that decide alike.
* `Zone.Agree`: the relation between two zones, which `Zone.Agree.run` keeps.
-/

namespace ChassisCooling

variable {World World' Probe Drive Outlet Outlet' : Type}

/-! ## What members have -/

/-- Probes, drives and sensor names. -/
structure Scope (Probe Drive : Type) where
  probes : Probe → Prop
  drives : Drive → Prop
  names : String → Prop

structure Fan.Within (S : Scope Probe Drive) (f : Fan Drive) : Prop where
  drive : S.drives f.drive

structure Sensor.Within (S : Scope Probe Drive) (s : Sensor Probe) : Prop where
  probe : S.probes s.probe
  name : S.names s.name

/-- The members have nothing but what the scope lists. -/
structure Members.Within (S : Scope Probe Drive) (m : Members Probe Drive) : Prop where
  fans : ∀ f ∈ m.fans, f.Within S
  sensors : ∀ s ∈ m.sensors, s.Within S

/-! ## Two platforms -/

/-- In related worlds the probes of a scope show the same and its drives show and do the same. A
write keeps the worlds related and the drive in the scope. -/
structure Platform.SameHardware (P : Platform World Probe Drive Outlet)
    (P' : Platform World' Probe Drive Outlet') (S : Scope Probe Drive)
    (R : World → World' → Prop) : Prop where
  temperature : ∀ {p w w'}, S.probes p → R w w' → Sensor.read? P p w = Sensor.read? P' p w'
  limits : ∀ {p w w'}, S.probes p → R w w' → P.limits p w = P'.limits p w'
  speed : ∀ {d w w'}, S.drives d → R w w' → Fan.read? P d w = Fan.read? P' d w'
  written : ∀ {d w w'} (speed : Single), S.drives d → R w w' →
    (P.setSpeed d speed w).1.isOk = (P'.setSpeed d speed w').1.isOk
  drive : ∀ {d w w'} (speed : Single), S.drives d → R w w' →
    (P.setSpeed d speed w).2.1 = (P'.setSpeed d speed w').2.1
  drive_mem : ∀ {d w w'} (speed : Single), S.drives d → R w w' →
    S.drives (P.setSpeed d speed w).2.1
  world : ∀ {d w w'} (speed : Single), S.drives d → R w w' →
    R (P.setSpeed d speed w).2.2 (P'.setSpeed d speed w').2.2

variable {P : Platform World Probe Drive Outlet} {P' : Platform World' Probe Drive Outlet'}
  {S : Scope Probe Drive} {R : World → World' → Prop} {w : World} {w' : World'}

namespace Fan

variable {f : Fan Drive}

theorem Within.refresh_eq (hf : f.Within S) (hP : P.SameHardware P' S R) (hw : R w w')
    (now : Timestamp) : f.refresh P w now = f.refresh P' w' now := by
  rw [Fan.refresh_eq, Fan.refresh_eq, hP.speed hf.drive hw]

theorem Within.refresh (hf : f.Within S) (w : World) (now : Timestamp) :
    (f.refresh P w now).Within S := by
  rw [Fan.refresh_eq]
  split
  · exact ⟨hf.drive⟩
  · exact hf

theorem command_eq (P : Platform World Probe Drive Outlet) (f : Fan Drive) (w : World)
    (now : Timestamp) (speed : Single) :
    f.command P w now speed =
      ((P.setSpeed f.drive speed w).1.isOk,
        ⟨(P.setSpeed f.drive speed w).2.1,
          if (P.setSpeed f.drive speed w).1.isOk then f.history.recordCommanded now speed
          else f.history⟩,
        (P.setSpeed f.drive speed w).2.2) := by
  unfold command
  rcases P.setSpeed f.drive speed w with ⟨_ | _, drive, w'⟩ <;> rfl

theorem Within.command (hf : f.Within S) (hP : P.SameHardware P' S R) (hw : R w w')
    (now : Timestamp) (speed : Single) :
    (f.command P w now speed).1 = (f.command P' w' now speed).1 ∧
      (f.command P w now speed).2.1 = (f.command P' w' now speed).2.1 ∧
      (f.command P w now speed).2.1.Within S ∧
      R (f.command P w now speed).2.2 (f.command P' w' now speed).2.2 := by
  have hwritten := hP.written speed hf.drive hw
  rw [command_eq, command_eq, ← hwritten, ← hP.drive speed hf.drive hw]
  exact ⟨rfl, rfl, ⟨hP.drive_mem speed hf.drive hw⟩, hP.world speed hf.drive hw⟩

end Fan

namespace Sensor

variable {s : Sensor Probe}

theorem Within.refresh_eq (hs : s.Within S) (hP : P.SameHardware P' S R) (hw : R w w')
    (now : Timestamp) : s.refresh P w now = s.refresh P' w' now := by
  rw [Sensor.refresh_eq, Sensor.refresh_eq, hP.temperature hs.probe hw]

theorem Within.refresh (hs : s.Within S) (w : World) (now : Timestamp) :
    (s.refresh P w now).Within S := by
  rw [Sensor.refresh_eq]
  split <;> exact ⟨hs.probe, hs.name⟩

theorem Within.reading_eq (hs : s.Within S) (hP : P.SameHardware P' S R) (hw : R w w') :
    s.reading P w = s.reading P' w' := by
  unfold Sensor.reading
  rw [hP.limits hs.probe hw]

end Sensor

namespace Members

variable {m : Members Probe Drive}

theorem Within.empty : (Members.empty : Members Probe Drive).Within S :=
  ⟨List.forall_mem_nil _, List.forall_mem_nil _⟩

theorem Within.refresh_eq (hm : m.Within S) (hP : P.SameHardware P' S R) (hw : R w w')
    (now : Timestamp) : m.refresh P w now = m.refresh P' w' now := by
  have hfans : m.fans.map (Fan.refresh P w now) = m.fans.map (Fan.refresh P' w' now) :=
    List.map_congr_left fun f hf => (hm.fans f hf).refresh_eq hP hw now
  have hsensors : m.sensors.map (Sensor.refresh P w now) =
      m.sensors.map (Sensor.refresh P' w' now) :=
    List.map_congr_left fun s hs => (hm.sensors s hs).refresh_eq hP hw now
  unfold Members.refresh
  rw [hfans, hsensors]

theorem Within.refresh (hm : m.Within S) (w : World) (now : Timestamp) :
    (m.refresh P w now).Within S :=
  ⟨List.forall_mem_map.2 fun f hf => (hm.fans f hf).refresh w now,
    List.forall_mem_map.2 fun s hs => (hm.sensors s hs).refresh w now⟩

theorem Within.setCapacity (hm : m.Within S) (capacity : Nat) : (m.setCapacity capacity).Within S :=
  ⟨List.forall_mem_map.2 fun f hf => ⟨(hm.fans f hf).drive⟩,
    List.forall_mem_map.2 fun s hs => ⟨(hm.sensors s hs).probe, (hm.sensors s hs).name⟩⟩

end Members

theorem Zone.commandAll_within {fs : List (Fan Drive)} (hfs : ∀ f ∈ fs, f.Within S)
    (hP : P.SameHardware P' S R) (hw : R w w') (now : Timestamp) (speed : Single) :
    (commandAll P now speed fs w).1 = (commandAll P' now speed fs w').1 ∧
      (commandAll P now speed fs w).2.1 = (commandAll P' now speed fs w').2.1 ∧
      (∀ f ∈ (commandAll P now speed fs w).2.1, f.Within S) ∧
      R (commandAll P now speed fs w).2.2 (commandAll P' now speed fs w').2.2 := by
  induction fs generalizing w w' with
  | nil => exact ⟨rfl, rfl, List.forall_mem_nil _, hw⟩
  | cons f fs ih =>
    obtain ⟨hf, hfs⟩ := List.forall_mem_cons.1 hfs
    obtain ⟨hwritten, hfan, hwithin, hw₁⟩ := hf.command hP hw now speed
    obtain ⟨hfailed, hfans, hrest, hw₂⟩ := ih hfs hw₁
    rw [commandAll_cons, commandAll_cons]
    simp only
    rw [hwritten, hfan, hfailed, hfans]
    exact ⟨rfl, rfl, hfans ▸ List.forall_mem_cons.2 ⟨hfan ▸ hwithin, hrest⟩, hw₂⟩

/-! ## Two configurations -/

namespace Config

/-- The second configuration differs from the first in where rows go at most, and in targets for
sensors of other names. -/
structure SameControl (names : String → Prop) (c c' : Config) : Prop where
  rest : c' =
    { c with
      exportPath := c'.exportPath
      simulation := c'.simulation
      sensorTargets := c'.sensorTargets }
  target : ∀ name, names name → c.sensorTargets.get? name = c'.sensorTargets.get? name

namespace SameControl

variable {names : String → Prop} {c c' : Config}

theorem refl (names : String → Prop) (c : Config) : c.SameControl names c :=
  ⟨rfl, fun _ _ => rfl⟩

theorem minSpeed_eq (h : c.SameControl names c') : c.minSpeed = c'.minSpeed := by
  rw [h.rest]

theorem historyCapacity_eq (h : c.SameControl names c') :
    c.historyCapacity = c'.historyCapacity := by
  rw [h.rest]

theorem intervalSecs_eq (h : c.SameControl names c') : c.intervalSecs = c'.intervalSecs := by
  rw [h.rest]

theorem interval_eq (h : c.SameControl names c') : c.interval = c'.interval := by
  unfold interval
  rw [h.intervalSecs_eq]

/-- A reading of such a name is placed alike. -/
theorem place?_eq (h : c.SameControl names c') {r : Reading} (hr : names r.name) :
    (Aggregate.forConfig c).place? r = (Aggregate.forConfig c').place? r := by
  have hbase : ∀ own overheat, (Aggregate.forConfig c).baseTarget r.name own overheat =
      (Aggregate.forConfig c').baseTarget r.name own overheat := by
    intro own overheat
    show ((c.sensorTargets.get? r.name).or own).getD (c.targetFactor * overheat) =
      ((c'.sensorTargets.get? r.name).or own).getD (c'.targetFactor * overheat)
    rw [h.target r.name hr, h.rest]
  have hoffset : (Aggregate.forConfig c).offset = (Aggregate.forConfig c').offset := by
    show c.targetOffset = c'.targetOffset
    rw [h.rest]
  unfold Aggregate.place?
  rw [hoffset]
  simp only [hbase]

theorem overheat_eq (h : c.SameControl names c') {rs : List Reading}
    (hrs : ∀ r ∈ rs, names r.name) :
    ((Aggregate.forConfig c).processAll rs).overheat =
      ((Aggregate.forConfig c').processAll rs).overheat := by
  have hflags : rs.map (Aggregate.forConfig c).raisesFlag =
      rs.map (Aggregate.forConfig c').raisesFlag := by
    apply List.map_congr_left
    intro r hr
    unfold Aggregate.raisesFlag
    rw [h.place?_eq (hrs r hr)]
  have hany := congrArg (List.any · id) hflags
  rw [List.any_map, List.any_map] at hany
  rw [Aggregate.overheat_processAll_forConfig, Aggregate.overheat_processAll_forConfig]
  exact hany

theorem choose_eq (h : c.SameControl names c') {rs : List Reading}
    (hrs : ∀ r ∈ rs, names r.name) :
    ((Aggregate.forConfig c).processAll rs).choose =
      ((Aggregate.forConfig c').processAll rs).choose := by
  have hsnapshots : rs.filterMap (Aggregate.forConfig c).snapshot? =
      rs.filterMap (Aggregate.forConfig c').snapshot? := by
    apply List.filterMap_congr
    intro r hr
    unfold Aggregate.snapshot?
    rw [h.place?_eq (hrs r hr)]
  unfold Aggregate.choose
  rw [Aggregate.snapshots_processAll_forConfig, Aggregate.snapshots_processAll_forConfig,
    hsnapshots]

/-- The next speed rests on the flag and on the chosen sensor. -/
theorem nextSpeed_eq (h : c.SameControl names c') (last : Single) {a a' : Aggregate}
    (hoverheat : a.overheat = a'.overheat) (hchoose : a.choose = a'.choose)
    (elapsed : Duration) : c.nextSpeed last a elapsed = c'.nextSpeed last a' elapsed := by
  rw [h.rest]
  unfold nextSpeed
  rw [hoverheat, hchoose]
  rfl

end SameControl

end Config

/-! ## Two zones -/

/-- Zones of one name with the same speeds on record and the same members, which lie in a scope.
Their configurations may differ. -/
structure Zone.Agree (S : Scope Probe Drive) (z z' : Zone Probe Drive) : Prop where
  name : z.name = z'.name
  speed : z.speed = z'.speed
  members : z.members = z'.members
  within : ∀ m, z.members = some m → m.Within S

namespace Zone.Agree

variable {z z' : Zone Probe Drive}

theorem fans_eq (h : z.Agree S z') : z.fans = z'.fans := by
  unfold Zone.fans
  rw [h.members]

theorem sensors_eq (h : z.Agree S z') : z.sensors = z'.sensors := by
  unfold Zone.sensors
  rw [h.members]

theorem eq_of_config_eq (h : z.Agree S z') (hc : z.config = z'.config) : z = z' := by
  obtain ⟨name, config, speed, members⟩ := z
  obtain ⟨name', config', speed', members'⟩ := z'
  obtain ⟨rfl, rfl, rfl, -⟩ := h
  obtain rfl := hc
  rfl

theorem members_getD (h : z.Agree S z') : (z.members.getD .empty).Within S := by
  cases hm : z.members with
  | none => exact .empty
  | some m => exact h.within m hm

/-- Binding: what counts is what is bound then. -/
theorem load (h : z.Agree S z') {m m' : Members Probe Drive}
    (hm : z.members = none → m = m' ∧ m.Within S) : (z.load m).Agree S (z'.load m') := by
  have hbound : z.members.or (some m) = z'.members.or (some m') ∧
      ∀ b, z.members.or (some m) = some b → b.Within S := by
    rw [← h.members]
    cases hz : z.members with
    | none =>
      obtain ⟨rfl, hwithin⟩ := hm hz
      exact ⟨rfl, fun b hb => Option.some.inj hb ▸ hwithin⟩
    | some b => exact ⟨rfl, fun b' hb' => h.within b' (hz.trans hb')⟩
  exact ⟨h.name, h.speed, hbound.1, hbound.2⟩

theorem refresh (h : z.Agree S z') (hP : P.SameHardware P' S R) (hw : R w w') (now : Timestamp) :
    (z.refresh P w now).Agree S (z'.refresh P' w' now) := by
  refine ⟨h.name, h.speed, ?_, ?_⟩
  · show z.members.map _ = z'.members.map _
    rw [← h.members]
    exact Option.map_congr fun m hm => (h.within m hm).refresh_eq hP hw now
  · intro m hm
    obtain ⟨b, hb, rfl⟩ := Option.map_eq_some_iff.1 hm
    exact (h.within b hb).refresh w now

theorem prepared (h : z.Agree S z') (hP : P.SameHardware P' S R) (hw : R w w') (now : Timestamp)
    {offered offered' : Option (Members Probe Drive)}
    (hoffered : z.members = none →
      offered.getD .empty = offered'.getD .empty ∧ (offered.getD .empty).Within S)
    (refresh : Bool) :
    (z.prepared P w now offered refresh).Agree S (z'.prepared P' w' now offered' refresh) := by
  unfold Zone.prepared
  cases refresh with
  | false => exact h.load hoffered
  | true => exact (h.load hoffered).refresh hP hw now

theorem startingSpeed_eq (h : z.Agree S z') (hc : z.config.SameControl S.names z'.config) :
    z.startingSpeed = z'.startingSpeed := by
  unfold startingSpeed lastSpeed
  rw [h.speed, h.fans_eq, hc.minSpeed_eq]

theorem readings_eq (h : z.Agree S z') (hP : P.SameHardware P' S R) (hw : R w w') :
    z.sensors.map (Sensor.reading P w) = z'.sensors.map (Sensor.reading P' w') := by
  rw [← h.sensors_eq]
  exact List.map_congr_left fun s hs => (h.members_getD.sensors s hs).reading_eq hP hw

theorem conclude (h : z.Agree S z') (hc : z.config.SameControl S.names z'.config)
    (hP : P.SameHardware P' S R) (hw : R w w') (tick : Tick) (last : Single) :
    (z.conclude P w tick last).1 = (z'.conclude P' w' tick last).1 ∧
      (z.conclude P w tick last).2.1.Agree S (z'.conclude P' w' tick last).2.1 ∧
      R (z.conclude P w tick last).2.2 (z'.conclude P' w' tick last).2.2 := by
  have hnames : ∀ r ∈ z.sensors.map (Sensor.reading P w), S.names r.name :=
    List.forall_mem_map.2 fun s hs => (h.members_getD.sensors s hs).name
  have hoverheat : (z.evaluate P w).overheat = (z'.evaluate P' w').overheat := by
    unfold evaluate
    rw [← h.readings_eq hP hw]
    exact hc.overheat_eq hnames
  have hchoose : (z.evaluate P w).choose = (z'.evaluate P' w').choose := by
    unfold evaluate
    rw [← h.readings_eq hP hw]
    exact hc.choose_eq hnames
  have hspeed := hc.nextSpeed_eq last hoverheat hchoose tick.elapsed
  rw [conclude_eq, conclude_eq, hoverheat, hchoose, hspeed, ← h.fans_eq, h.name, h.speed,
    ← h.sensors_eq]
  obtain ⟨hfailed, hfans, hwithin, hworld⟩ :=
    commandAll_within h.members_getD.fans hP hw tick.now
      (z'.config.nextSpeed last (z'.evaluate P' w') tick.elapsed)
  refine ⟨?_, ⟨rfl, rfl, ?_, ?_⟩, hworld⟩
  · exact congrArg _ hfailed
  · exact congrArg (fun fans => some (Members.mk fans z.sensors)) hfans
  · intro m hm
    obtain rfl := Option.some.inj hm
    exact ⟨hwithin, h.members_getD.sensors⟩

/-- One tick of each of two zones. -/
theorem run (h : z.Agree S z') (hc : z.config.SameControl S.names z'.config)
    (hP : P.SameHardware P' S R) (hw : R w w') (tick : Tick)
    {offered offered' : Option (Members Probe Drive)}
    (hoffered : z.members = none →
      offered.getD .empty = offered'.getD .empty ∧ (offered.getD .empty).Within S)
    (refresh : Bool) :
    EndAlike
      (fun r r' => r.1 = r'.1 ∧ r.2.1.Agree S r'.2.1 ∧ R r.2.2 r'.2.2)
      (z.run P w tick offered refresh) (z'.run P' w' tick offered' refresh) := by
  have hprepared := h.prepared hP hw tick.now hoffered refresh
  rw [← config_prepared P z w tick.now offered refresh,
    ← config_prepared P' z' w' tick.now offered' refresh] at hc
  rw [run_eq, run_eq, hprepared.startingSpeed_eq hc]
  cases (z'.prepared P' w' tick.now offered' refresh).startingSpeed with
  | error b => exact .error b
  | ok last => exact .ok (hprepared.conclude hc hP hw tick last)

theorem reconfigure (h : z.Agree S z') {config config' : Config}
    (hcapacity : config.historyCapacity = config'.historyCapacity)
    (hold : z.config.historyCapacity = z'.config.historyCapacity) :
    (z.reconfigure config).Agree S (z'.reconfigure config') := by
  unfold Zone.reconfigure
  rw [← hcapacity, ← hold]
  split
  · exact ⟨h.name, h.speed, h.members, h.within⟩
  · refine ⟨h.name, congrArg (·.setCapacity config.historyCapacity) h.speed,
      congrArg (Option.map (Members.setCapacity config.historyCapacity)) h.members, ?_⟩
    intro m hm
    obtain ⟨b, hb, rfl⟩ := Option.map_eq_some_iff.1 hm
    exact (h.within b hb).setCapacity config.historyCapacity

/-! ### Single members -/

theorem touchFan (h : z.Agree S z') (fan : String) {change : Fan Drive → Fan Drive}
    (hchange : ∀ f : Fan Drive, f.Within S → (change f).Within S) :
    (z.touchFan fan change).Agree S (z'.touchFan fan change) := by
  rw [touchFan_eq, touchFan_eq, h.members, h.name, h.speed]
  refine ⟨rfl, rfl, rfl, ?_⟩
  intro m hm
  obtain ⟨b, hb, rfl⟩ := Option.map_eq_some_iff.1 hm
  have hwithin := h.within b (h.members.trans hb)
  refine ⟨fun f hf => ?_, hwithin.sensors⟩
  rcases mem_touchFirst hf with hf | ⟨g, hg, rfl⟩
  · exact hwithin.fans f hf
  · exact hchange g (hwithin.fans g hg)

theorem touchSensor (h : z.Agree S z') (sensor : String) {change : Sensor Probe → Sensor Probe}
    (hchange : ∀ s : Sensor Probe, s.Within S → (change s).Within S) :
    (z.touchSensor sensor change).Agree S (z'.touchSensor sensor change) := by
  rw [touchSensor_eq, touchSensor_eq, h.members, h.name, h.speed]
  refine ⟨rfl, rfl, rfl, ?_⟩
  intro m hm
  obtain ⟨b, hb, rfl⟩ := Option.map_eq_some_iff.1 hm
  have hwithin := h.within b (h.members.trans hb)
  refine ⟨hwithin.fans, fun s hs => ?_⟩
  rcases mem_touchFirst hs with hs | ⟨g, hg, rfl⟩
  · exact hwithin.sensors s hs
  · exact hchange g (hwithin.sensors g hg)

end Zone.Agree

end ChassisCooling
