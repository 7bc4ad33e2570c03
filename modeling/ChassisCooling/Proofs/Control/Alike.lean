import ChassisCooling.Proofs.Control.Frame
import ChassisCooling.Proofs.Pointwise

/-!
# Zones that differ in how far their histories reach back

Two fans, sensors or zones are alike if they differ in nothing but the capacities of their
histories and in what those have dropped for it. Every operation keeps them alike, whatever
capacities it may bring, and whatever is looked up in the course of control is the same in both: no
reader looks further back than the least capacity reaches.

* `Fan.Alike`, `Sensor.Alike`, `Members.Alike`, `Zone.Alike`: the relation.
* `Zone.Alike.reconfigure_left`: a new capacity for one of the two zones.
* `Zone.Alike.run`: one tick of each.
* `Zone.Alike.showsAlike`: what can be seen of the two.
-/

namespace ChassisCooling

variable {World Probe Drive Outlet : Type} {P : Platform World Probe Drive Outlet}

theorem Export.newestRows_eq_of_alike {h h' : History} (ha : h.Alike h') :
    newestRows h = newestRows h' := by
  unfold newestRows
  rw [ha.name, ha.lastMeasuredSample_eq, ha.lastCommandedSample_eq]

/-! ## Fans -/

/-- Fans of one drive with histories of the same logs. -/
structure Fan.Alike (f f' : Fan Drive) : Prop where
  drive : f.drive = f'.drive
  history : f.history.Alike f'.history

namespace Fan.Alike

variable {f f' : Fan Drive}

theorem refl (f : Fan Drive) : f.Alike f := ⟨rfl, .refl f.history⟩

theorem symm (h : f.Alike f') : f'.Alike f := ⟨h.drive.symm, h.history.symm⟩

theorem name_eq (h : f.Alike f') : f.name = f'.name := h.history.name

theorem speed_eq (h : f.Alike f') : f.speed = f'.speed := h.history.lastMeasured_eq

theorem previousSpeed_eq (h : f.Alike f') : f.previousSpeed = f'.previousSpeed :=
  h.history.nthFromEnd_eq (by decide)

theorem lastCommanded_eq (h : f.Alike f') : f.lastCommanded = f'.lastCommanded :=
  h.history.lastCommanded_eq

theorem setCapacity_left (h : f.Alike f') (capacity : Nat) : (f.setCapacity capacity).Alike f' :=
  ⟨h.drive, h.history.setCapacity_left capacity⟩

theorem record (h : f.Alike f') (now : Timestamp) (speed : Single) :
    (f.record now speed).Alike (f'.record now speed) :=
  ⟨h.drive, h.history.recordMeasured now speed⟩

theorem refresh (h : f.Alike f') (w : World) (now : Timestamp) :
    (f.refresh P w now).Alike (f'.refresh P w now) := by
  rw [refresh_eq, refresh_eq, ← h.drive]
  cases read? P f.drive w with
  | none => exact h
  | some speed => exact h.record now speed

theorem command (h : f.Alike f') (w : World) (now : Timestamp) (speed : Single) :
    (f.command P w now speed).1 = (f'.command P w now speed).1 ∧
      (f.command P w now speed).2.1.Alike (f'.command P w now speed).2.1 ∧
      (f.command P w now speed).2.2 = (f'.command P w now speed).2.2 := by
  unfold Fan.command
  rw [← h.drive]
  split
  · exact ⟨rfl, ⟨rfl, h.history.recordCommanded now speed⟩, rfl⟩
  · exact ⟨rfl, ⟨rfl, h.history⟩, rfl⟩

end Fan.Alike

/-! ## Sensors -/

/-- Sensors of one probe, both or neither of them stale, with histories of the same logs. -/
structure Sensor.Alike (s s' : Sensor Probe) : Prop where
  probe : s.probe = s'.probe
  stale : s.stale = s'.stale
  history : s.history.Alike s'.history

namespace Sensor.Alike

variable {s s' : Sensor Probe}

theorem refl (s : Sensor Probe) : s.Alike s := ⟨rfl, rfl, .refl s.history⟩

theorem symm (h : s.Alike s') : s'.Alike s := ⟨h.probe.symm, h.stale.symm, h.history.symm⟩

theorem name_eq (h : s.Alike s') : s.name = s'.name := h.history.name

theorem temperature_eq (h : s.Alike s') : s.temperature = s'.temperature := by
  unfold temperature
  rw [h.stale, h.history.lastMeasured_eq]

theorem reading_eq (h : s.Alike s') (w : World) : s.reading P w = s'.reading P w := by
  unfold reading
  rw [h.name_eq, h.temperature_eq, h.probe]

theorem setCapacity_left (h : s.Alike s') (capacity : Nat) : (s.setCapacity capacity).Alike s' :=
  ⟨h.probe, h.stale, h.history.setCapacity_left capacity⟩

theorem record (h : s.Alike s') (now : Timestamp) (value : Single) :
    (s.record now value).Alike (s'.record now value) :=
  ⟨h.probe, rfl, h.history.recordMeasured now value⟩

theorem refresh (h : s.Alike s') (w : World) (now : Timestamp) :
    (s.refresh P w now).Alike (s'.refresh P w now) := by
  rw [refresh_eq, refresh_eq, ← h.probe]
  cases read? P s.probe w with
  | none => exact ⟨rfl, rfl, h.history⟩
  | some value => exact h.record now value

end Sensor.Alike

/-! ## Members -/

/-- The same fans and sensors in the same order, but for how far their histories reach back. -/
structure Members.Alike (m m' : Members Probe Drive) : Prop where
  fans : List.Forall₂ Fan.Alike m.fans m'.fans
  sensors : List.Forall₂ Sensor.Alike m.sensors m'.sensors

namespace Members.Alike

variable {m m' : Members Probe Drive}

theorem empty : (Members.empty : Members Probe Drive).Alike .empty := ⟨.nil, .nil⟩

theorem refl (m : Members Probe Drive) : m.Alike m :=
  ⟨List.forall₂_same.2 fun f _ => .refl f, List.forall₂_same.2 fun s _ => .refl s⟩

theorem symm (h : m.Alike m') : m'.Alike m :=
  ⟨forall₂_symm (fun _ _ => Fan.Alike.symm) h.fans,
    forall₂_symm (fun _ _ => Sensor.Alike.symm) h.sensors⟩

theorem setCapacity_left (h : m.Alike m') (capacity : Nat) : (m.setCapacity capacity).Alike m' :=
  ⟨List.forall₂_map_left_iff.2 (h.fans.imp fun _ _ hf => hf.setCapacity_left capacity),
    List.forall₂_map_left_iff.2 (h.sensors.imp fun _ _ hs => hs.setCapacity_left capacity)⟩

theorem refresh (h : m.Alike m') (w : World) (now : Timestamp) :
    (m.refresh P w now).Alike (m'.refresh P w now) :=
  ⟨forall₂_map_of_forall₂ h.fans fun _ _ hf => hf.refresh w now,
    forall₂_map_of_forall₂ h.sensors fun _ _ hs => hs.refresh w now⟩

theorem histories (h : m.Alike m') : List.Forall₂ History.Alike m.histories m'.histories :=
  List.rel_append (forall₂_map_of_forall₂ h.fans fun _ _ => Fan.Alike.history)
    (forall₂_map_of_forall₂ h.sensors fun _ _ => Sensor.Alike.history)

/-- New members are alike whatever capacities are asked for. -/
theorem wrap {capacity capacity' : Nat} {drives : List Drive} {probes : List Probe}
    (h : Members.wrap P capacity drives probes = .ok m)
    (h' : Members.wrap P capacity' drives probes = .ok m') : m.Alike m' := by
  obtain ⟨hfans, hsensors⟩ := Members.wrap_eq_ok P h
  obtain ⟨hfans', hsensors'⟩ := Members.wrap_eq_ok P h'
  constructor
  · rw [hfans, hfans', List.forall₂_map_left_iff, List.forall₂_map_right_iff]
    exact List.forall₂_same.2 fun drive _ =>
      ⟨rfl, .empty (P.driveName drive) capacity capacity'⟩
  · rw [hsensors, hsensors', List.forall₂_map_left_iff, List.forall₂_map_right_iff]
    exact List.forall₂_same.2 fun probe _ =>
      ⟨rfl, rfl, .empty (P.probeName probe) capacity capacity'⟩

end Members.Alike

/-! ## Zones -/

/-- The second configuration differs from the first in the capacity of histories at most. -/
def Config.SameButCapacity (c c' : Config) : Prop :=
  c' = { c with historyCapacity := c'.historyCapacity }

theorem Config.sameButCapacity (c : Config) (m n : Nat) :
    SameButCapacity { c with historyCapacity := m } { c with historyCapacity := n } :=
  rfl

/-- Zones of one name with alike members and histories, whatever their configurations. -/
structure Zone.Alike (z z' : Zone Probe Drive) : Prop where
  name : z.name = z'.name
  speed : z.speed.Alike z'.speed
  members : Option.Rel Members.Alike z.members z'.members

namespace Zone.Alike

variable {z z' : Zone Probe Drive}

theorem refl (z : Zone Probe Drive) : z.Alike z := by
  refine ⟨rfl, .refl z.speed, ?_⟩
  cases z.members with
  | none => exact .none
  | some m => exact .some (.refl m)

theorem symm (h : z.Alike z') : z'.Alike z := by
  obtain ⟨hname, hspeed, hmembers⟩ := h
  refine ⟨hname.symm, hspeed.symm, ?_⟩
  generalize z.members = o, z'.members = o' at hmembers
  cases hmembers with
  | none => exact .none
  | some hm => exact .some hm.symm

theorem members_getD (h : z.Alike z') :
    (z.members.getD .empty).Alike (z'.members.getD .empty) := by
  have hmembers := h.members
  generalize z.members = o, z'.members = o' at hmembers
  cases hmembers with
  | none => exact .empty
  | some hm => exact hm

theorem fans (h : z.Alike z') : List.Forall₂ Fan.Alike z.fans z'.fans := h.members_getD.fans

theorem sensors (h : z.Alike z') : List.Forall₂ Sensor.Alike z.sensors z'.sensors :=
  h.members_getD.sensors

theorem lastSpeed_eq (h : z.Alike z') : z.lastSpeed = z'.lastSpeed := h.speed.lastCommanded_eq

theorem load (h : z.Alike z') {m m' : Members Probe Drive} (hm : m.Alike m') :
    (z.load m).Alike (z'.load m') := by
  refine ⟨h.name, h.speed, ?_⟩
  show Option.Rel Members.Alike (z.members.or (some m)) (z'.members.or (some m'))
  have hmembers := h.members
  generalize z.members = o, z'.members = o' at hmembers
  cases hmembers with
  | none => exact .some hm
  | some hbound => exact .some hbound

theorem refresh (h : z.Alike z') (w : World) (now : Timestamp) :
    (z.refresh P w now).Alike (z'.refresh P w now) :=
  ⟨h.name, h.speed, rel_map_of_rel h.members fun _ _ hm => hm.refresh w now⟩

theorem prepared (h : z.Alike z') {offered offered' : Option (Members Probe Drive)}
    (hoffered : (offered.getD .empty).Alike (offered'.getD .empty)) (w : World) (now : Timestamp)
    (refresh : Bool) :
    (z.prepared P w now offered refresh).Alike (z'.prepared P w now offered' refresh) := by
  unfold Zone.prepared
  cases refresh with
  | false => exact h.load hoffered
  | true => exact (h.load hoffered).refresh w now

theorem startingSpeed_eq (h : z.Alike z') (hc : z.config.SameButCapacity z'.config) :
    z.startingSpeed = z'.startingSpeed := by
  have hspeeds : z.fans.map Fan.speed = z'.fans.map Fan.speed :=
    map_eq_map_of_forall₂ h.fans fun _ _ => Fan.Alike.speed_eq
  have hfound : z.fans.findSome? Fan.speed = z'.fans.findSome? Fan.speed := by
    have := congrArg (List.findSome? id) hspeeds
    rwa [List.findSome?_map, List.findSome?_map] at this
  unfold startingSpeed
  rw [h.lastSpeed_eq, hfound, hc]

theorem evaluate_eq (h : z.Alike z') (hc : z.config.SameButCapacity z'.config) (w : World) :
    z.evaluate P w = z'.evaluate P w := by
  have hreadings : z.sensors.map (Sensor.reading P w) = z'.sensors.map (Sensor.reading P w) :=
    map_eq_map_of_forall₂ h.sensors fun _ _ hs => hs.reading_eq w
  unfold evaluate
  rw [hreadings, hc]
  rfl

theorem commandAll {fs fs' : List (Fan Drive)} (h : List.Forall₂ Fan.Alike fs fs')
    (now : Timestamp) (speed : Single) (w : World) :
    (Zone.commandAll P now speed fs w).1 = (Zone.commandAll P now speed fs' w).1 ∧
      List.Forall₂ Fan.Alike (Zone.commandAll P now speed fs w).2.1
        (Zone.commandAll P now speed fs' w).2.1 ∧
      (Zone.commandAll P now speed fs w).2.2 = (Zone.commandAll P now speed fs' w).2.2 := by
  induction h generalizing w with
  | nil => exact ⟨rfl, .nil, rfl⟩
  | @cons f f' fs fs' hf _ ih =>
    obtain ⟨hwritten, hfan, hw⟩ := hf.command (P := P) w now speed
    obtain ⟨hfailed, hfans, hw'⟩ := ih (f.command P w now speed).2.2
    rw [commandAll_cons, commandAll_cons]
    simp only
    rw [← hw, ← hwritten, ← hfailed, ← hw']
    exact ⟨rfl, .cons hfan hfans, rfl⟩

theorem conclude (h : z.Alike z') (hc : z.config.SameButCapacity z'.config) (w : World)
    (tick : Tick) (last : Single) :
    (z.conclude P w tick last).1 = (z'.conclude P w tick last).1 ∧
      (z.conclude P w tick last).2.1.Alike (z'.conclude P w tick last).2.1 ∧
      (z.conclude P w tick last).2.2 = (z'.conclude P w tick last).2.2 := by
  have hspeed : z.config.nextSpeed last (z'.evaluate P w) tick.elapsed =
      z'.config.nextSpeed last (z'.evaluate P w) tick.elapsed := by
    rw [hc]
    rfl
  obtain ⟨hfailed, hfans, hw⟩ := commandAll (P := P) h.fans tick.now
    (z'.config.nextSpeed last (z'.evaluate P w) tick.elapsed) w
  rw [conclude_eq, conclude_eq, h.evaluate_eq hc, hspeed]
  refine ⟨?_, ⟨h.name, h.speed.recordCommanded tick.now _, .some ⟨hfans, h.sensors⟩⟩, hw⟩
  simp only
  rw [h.name, hfailed]

/-- One tick of each of two zones. -/
theorem run (h : z.Alike z') (hc : z.config.SameButCapacity z'.config) (hvalid : z.config.Valid)
    {offered offered' : Option (Members Probe Drive)}
    (hoffered : (offered.getD .empty).Alike (offered'.getD .empty)) (w : World) (tick : Tick)
    (refresh : Bool) :
    ∃ report t t' w', z.run P w tick offered refresh = .ok (report, t, w') ∧
      z'.run P w tick offered' refresh = .ok (report, t', w') ∧ t.Alike t' ∧
      t.config = z.config ∧ t'.config = z'.config := by
  have hprepared := h.prepared (P := P) hoffered w tick.now refresh
  have hconfig := config_prepared P z w tick.now offered refresh
  have hconfig' := config_prepared P z' w tick.now offered' refresh
  rw [← hconfig, ← hconfig'] at hc
  rw [← hconfig] at hvalid
  obtain ⟨last, hlast⟩ := startingSpeed_ok hvalid
  have hlast' := (hprepared.startingSpeed_eq hc).symm.trans hlast
  obtain ⟨hreport, halike, hw⟩ := hprepared.conclude hc w tick last
  have hrun' := run_eq_ok P hlast'
  refine ⟨_, _, _, _, run_eq_ok P hlast, hrun'.trans ?_, halike, hconfig, hconfig'⟩
  exact congrArg Except.ok (Prod.ext hreport.symm (Prod.ext rfl hw.symm))

/-! ### New configurations -/

/-- A new capacity for one of two zones. -/
theorem reconfigure_left (h : z.Alike z') (config : Config) : (z.reconfigure config).Alike z' := by
  obtain ⟨hname, hspeed, hmembers⟩ := h
  unfold Zone.reconfigure
  split
  · exact ⟨hname, hspeed, hmembers⟩
  · refine ⟨hname, hspeed.setCapacity_left config.historyCapacity, ?_⟩
    simp only
    generalize z.members = o, z'.members = o' at hmembers
    cases hmembers with
    | none => exact .none
    | some hm => exact .some (hm.setCapacity_left config.historyCapacity)

theorem reconfigure (h : z.Alike z') (config config' : Config) :
    (z.reconfigure config).Alike (z'.reconfigure config') :=
  ((h.reconfigure_left config).symm.reconfigure_left config').symm

/-! ### Single members -/

theorem changeFirst {α β : Type} {R : α → α → Prop} {xs ys : List α} (h : List.Forall₂ R xs ys)
    (p : α → Bool) (hp : ∀ x y, R x y → p x = p y) (change : α → β × α)
    (hchange : ∀ x y, R x y → R (change x).2 (change y).2) :
    Option.Rel (fun r r' => List.Forall₂ R r.2 r'.2) (Zone.changeFirst p change xs)
      (Zone.changeFirst p change ys) := by
  induction h with
  | nil => exact .none
  | @cons x y xs ys hxy hrest ih =>
    unfold Zone.changeFirst
    rw [hp x y hxy]
    split
    · exact .some (.cons (hchange x y hxy) hrest)
    · exact rel_map_of_rel ih fun _ _ hr => .cons hxy hr

theorem changeFan (h : z.Alike z') (name : String) (change : Fan Drive → Unit × Fan Drive)
    (hchange : ∀ f f', Fan.Alike f f' → (change f).2.Alike (change f').2) :
    Option.Rel
      (fun r r' => r.2.Alike r'.2 ∧ r.2.config = z.config ∧ r'.2.config = z'.config)
      (z.changeFan name change) (z'.changeFan name change) := by
  obtain ⟨hname, hspeed, hmembers⟩ := h
  unfold Zone.changeFan
  generalize z.members = o, z'.members = o' at hmembers
  cases hmembers with
  | none => exact .none
  | @some m m' hm =>
    have hfirst := changeFirst hm.fans (fun f => f.name == name)
      (fun _ _ hf => congrArg (· == name) hf.name_eq) change hchange
    show Option.Rel _ ((Zone.changeFirst _ change m.fans).bind _)
      ((Zone.changeFirst _ change m'.fans).bind _)
    generalize Zone.changeFirst _ change m.fans = r, Zone.changeFirst _ change m'.fans = r'
      at hfirst
    cases hfirst with
    | none => exact .none
    | some hfans => exact .some ⟨⟨hname, hspeed, .some ⟨hfans, hm.sensors⟩⟩, rfl, rfl⟩

theorem changeSensor (h : z.Alike z') (name : String) (change : Sensor Probe → Unit × Sensor Probe)
    (hchange : ∀ s s', Sensor.Alike s s' → (change s).2.Alike (change s').2) :
    Option.Rel
      (fun r r' => r.2.Alike r'.2 ∧ r.2.config = z.config ∧ r'.2.config = z'.config)
      (z.changeSensor name change) (z'.changeSensor name change) := by
  obtain ⟨hname, hspeed, hmembers⟩ := h
  unfold Zone.changeSensor
  generalize z.members = o, z'.members = o' at hmembers
  cases hmembers with
  | none => exact .none
  | @some m m' hm =>
    have hfirst := changeFirst hm.sensors (fun s => s.name == name)
      (fun _ _ hs => congrArg (· == name) hs.name_eq) change hchange
    show Option.Rel _ ((Zone.changeFirst _ change m.sensors).bind _)
      ((Zone.changeFirst _ change m'.sensors).bind _)
    generalize Zone.changeFirst _ change m.sensors = r, Zone.changeFirst _ change m'.sensors = r'
      at hfirst
    cases hfirst with
    | none => exact .none
    | some hsensors => exact .some ⟨⟨hname, hspeed, .some ⟨hm.fans, hsensors⟩⟩, rfl, rfl⟩

end Zone.Alike

/-! ## What can be seen of a zone -/

namespace Zone

/-- What can be seen of two zones is the same, but for how far their histories reach back. -/
structure ShowsAlike (z z' : Zone Probe Drive) : Prop where
  lastSpeed : z.lastSpeed = z'.lastSpeed
  fans : (z.fans.map fun f => (f.name, f.speed, f.previousSpeed, f.lastCommanded)) =
    z'.fans.map fun f => (f.name, f.speed, f.previousSpeed, f.lastCommanded)
  sensors : (z.sensors.map fun s => (s.name, s.temperature)) =
    z'.sensors.map fun s => (s.name, s.temperature)
  rows : z.exportRows = z'.exportRows
  histories : List.Forall₂ History.SameButReach z.histories z'.histories

variable {z z' : Zone Probe Drive}

theorem Alike.exportRows_eq (h : z.Alike z') : z.exportRows = z'.exportRows := by
  have hrows := map_eq_map_of_forall₂ h.members_getD.histories
    fun _ _ => Export.newestRows_eq_of_alike
  unfold exportRows
  rw [List.flatMap_def, List.flatMap_def, hrows]

theorem Alike.showsAlike (h : z.Alike z') : z.ShowsAlike z' where
  lastSpeed := h.lastSpeed_eq
  fans := map_eq_map_of_forall₂ h.fans fun f f' hf => by
    rw [hf.name_eq, hf.speed_eq, hf.previousSpeed_eq, hf.lastCommanded_eq]
  sensors := map_eq_map_of_forall₂ h.sensors fun s s' hs => by rw [hs.name_eq, hs.temperature_eq]
  rows := h.exportRows_eq
  histories :=
    .cons h.speed.sameButReach (h.members_getD.histories.imp fun _ _ => History.Alike.sameButReach)

end Zone

end ChassisCooling
