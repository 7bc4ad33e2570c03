import ChassisCooling.Proofs.Binary.Arithmetic
import ChassisCooling.Proofs.Config.Valid
import ChassisCooling.Proofs.Control.Log
import ChassisCooling.Proofs.History

/-!
# One tick of a zone and of its controller

A tick binds and reads the members, takes the speed to start from, and concludes with a decision
that goes to every fan. Only the speed to start from can fail, and not under a valid configuration.

* `Zone.run_eq`: a tick in its three parts.
* `Zone.startingSpeed_mem_iff`: the speed to start from is in the allowed range if it is a number;
  `Zone.startingSpeed_mem`: so it is where nothing else may be started from.
* `Zone.run_logged`, `Controller.tick_logged`: what a tick asks of the platform.
-/

namespace ChassisCooling

open Binary

variable {World Probe Drive Outlet : Type} (P : Platform World Probe Drive Outlet)

namespace Zone

/-- The zone at the moment of a decision: its members are bound, and read if the tick asks for
it. -/
def prepared (z : Zone Probe Drive) (w : World) (now : Timestamp)
    (offered : Option (Members Probe Drive)) (refresh : Bool) : Zone Probe Drive :=
  if refresh then (z.load (offered.getD .empty)).refresh P w now else z.load (offered.getD .empty)

/-- What a tick does from a given speed. -/
def conclude (z : Zone Probe Drive) (w : World) (tick : Tick) (last : Single) :
    ZoneReport × Zone Probe Drive × World :=
  let aggregate := z.evaluate P w
  let speed := z.config.nextSpeed last aggregate tick.elapsed
  let (failedWrites, fans, w') := commandAll P tick.now speed z.fans w
  (⟨z.name, speed, aggregate.overheat, aggregate.choose.map Snapshot.sensor, failedWrites⟩,
    { z with
      speed := z.speed.recordCommanded tick.now speed
      members := some ⟨fans, z.sensors⟩ }, w')

theorem conclude_eq (z : Zone Probe Drive) (w : World) (tick : Tick) (last : Single) :
    z.conclude P w tick last =
      let speed := z.config.nextSpeed last (z.evaluate P w) tick.elapsed
      let r := commandAll P tick.now speed z.fans w
      (⟨z.name, speed, (z.evaluate P w).overheat, (z.evaluate P w).choose.map Snapshot.sensor, r.1⟩,
        { z with
          speed := z.speed.recordCommanded tick.now speed
          members := some ⟨r.2.1, z.sensors⟩ }, r.2.2) :=
  rfl

theorem run_eq (z : Zone Probe Drive) (w : World) (tick : Tick)
    (offered : Option (Members Probe Drive)) (refresh : Bool) :
    z.run P w tick offered refresh =
      (z.prepared P w tick.now offered refresh).startingSpeed.map
        ((z.prepared P w tick.now offered refresh).conclude P w tick) := by
  show (z.prepared P w tick.now offered refresh).startingSpeed.bind _ = _
  cases (z.prepared P w tick.now offered refresh).startingSpeed <;> rfl

theorem run_eq_ok {z : Zone Probe Drive} {w : World} {tick : Tick}
    {offered : Option (Members Probe Drive)} {refresh : Bool} {last : Single}
    (h : (z.prepared P w tick.now offered refresh).startingSpeed = .ok last) :
    z.run P w tick offered refresh =
      .ok ((z.prepared P w tick.now offered refresh).conclude P w tick last) := by
  rw [run_eq, h]
  rfl

/-! ## Preparation -/

section Prepared

variable (z : Zone Probe Drive) (w : World) (now : Timestamp)
  (offered : Option (Members Probe Drive)) (refresh : Bool)

@[simp] theorem config_prepared : (z.prepared P w now offered refresh).config = z.config := by
  unfold prepared
  split <;> rfl

theorem name_prepared : (z.prepared P w now offered refresh).name = z.name := by
  unfold prepared
  split <;> rfl

theorem drive_refresh (f : Fan Drive) : (f.refresh P w now).drive = f.drive := by
  rw [Fan.refresh_eq]
  split <;> rfl

/-- What reading a fan leaves as it is, preparation leaves as it is. -/
theorem map_prepared {α : Type} {g : Fan Drive → α}
    (hg : ∀ f : Fan Drive, g (f.refresh P w now) = g f) :
    (z.prepared P w now offered refresh).fans.map g =
      (z.load (offered.getD .empty)).fans.map g := by
  unfold prepared
  split
  · show ((((z.members.or (some (offered.getD .empty))).map (Members.refresh P w now)).getD
      .empty).fans).map g = ((z.members.or (some (offered.getD .empty))).getD .empty).fans.map g
    cases z.members.or (some (offered.getD .empty)) with
    | none => rfl
    | some m =>
      show (m.fans.map (Fan.refresh P w now)).map g = m.fans.map g
      rw [List.map_map]
      exact List.map_congr_left fun f _ => hg f
  · rfl

/-- Preparation leaves it open what the fans show, but not which fans there are. -/
theorem drives_prepared :
    (z.prepared P w now offered refresh).fans.map Fan.drive =
      (z.load (offered.getD .empty)).fans.map Fan.drive :=
  map_prepared P z w now offered refresh (drive_refresh P w now)

/-- Nor does it change what was commanded. -/
theorem commanded_prepared :
    (z.prepared P w now offered refresh).fans.map (fun f => f.history.commanded) =
      (z.load (offered.getD .empty)).fans.map (fun f => f.history.commanded) := by
  refine map_prepared P z w now offered refresh fun f => ?_
  rw [Fan.refresh_eq]
  split <;> rfl

end Prepared

/-- What a tick that came to an end did; the zone keeps its name and its configuration. -/
theorem of_run_eq_ok {z z' : Zone Probe Drive} {w w' : World} {tick : Tick}
    {offered : Option (Members Probe Drive)} {refresh : Bool} {report : ZoneReport}
    (h : z.run P w tick offered refresh = .ok (report, z', w')) :
    ∃ last, (z.prepared P w tick.now offered refresh).conclude P w tick last = (report, z', w') ∧
      z'.name = z.name ∧ z'.config = z.config := by
  rw [run_eq] at h
  cases hlast : (z.prepared P w tick.now offered refresh).startingSpeed with
  | error b =>
    rw [hlast] at h
    cases h
  | ok last =>
    rw [hlast] at h
    have hresult := Except.ok.inj h
    obtain ⟨-, hrest⟩ := Prod.mk.inj hresult
    obtain ⟨rfl, -⟩ := Prod.mk.inj hrest
    exact ⟨last, hresult, name_prepared .., config_prepared ..⟩

/-! ## The speed to start from -/

/-- Nothing that a zone may start from is not-a-number: the speeds it commanded, and the speeds
measured at its fans. -/
structure Numbers (z : Zone Probe Drive) : Prop where
  commanded : AllNumbers z.speed.commanded
  measured : ∀ f ∈ z.fans, AllNumbers f.history.measured

/-- What the starting speed comes of: the last command, else the first speed measured at a fan. -/
def startingPoint (z : Zone Probe Drive) : Option Single :=
  z.lastSpeed.or (z.fans.findSome? Fan.speed)

variable {P} {z : Zone Probe Drive} {last : Single}

/-- Under a valid configuration there is always a speed to start from. -/
theorem startingSpeed_ok (hc : z.config.Valid) : ∃ last, z.startingSpeed = .ok last := by
  unfold startingSpeed
  split
  · exact ⟨_, clamp_eq_ok hc.minSpeed_le⟩
  · exact ⟨maxSpeed, rfl⟩

theorem isNaN_startingPoint (hz : z.Numbers) {speed : Single}
    (h : z.startingPoint = some speed) : speed.isNaN = false := by
  rcases Option.or_eq_some_iff.1 h with h | ⟨-, h⟩
  · exact hz.commanded.getLast? h
  · obtain ⟨f, hf, hspeed⟩ := List.exists_of_findSome?_eq_some h
    exact (hz.measured f hf).getLast? hspeed

theorem isNaN_startingSpeed_iff (hc : z.config.Valid) (h : z.startingSpeed = .ok last) :
    last.isNaN = true ↔ ∃ x, z.startingPoint = some x ∧ x.isNaN = true := by
  unfold startingPoint
  unfold startingSpeed at h
  split at h
  · next x hx => rw [isNaN_of_clamp hc.minSpeed_le h, hx]; simp
  · next hx =>
    rw [hx, ← Except.ok.inj h, isNaN_maxSpeed]
    simp

/-- The starting speed is legal, unless it is not a number. -/
theorem startingSpeed_mem_iff (hc : z.config.Valid) (h : z.startingSpeed = .ok last) :
    z.config.minSpeed ≤ last ∧ last ≤ maxSpeed ↔ last.isNaN = false := by
  constructor
  · exact fun hmem => isNaN_right_of_le hmem.1
  · intro hnum
    unfold startingSpeed at h
    split at h
    · have hx := isNaN_of_clamp hc.minSpeed_le h
      rw [hnum] at hx
      obtain ⟨y, hy, hmem⟩ := clamp_mem hc.minSpeed_le hx.symm
      rw [h] at hy
      rwa [Except.ok.inj hy]
    · rw [← Except.ok.inj h]
      exact ⟨hc.minSpeed_le, Binary.le_refl isNaN_maxSpeed⟩

theorem startingSpeed_mem (hc : z.config.Valid) (hz : z.Numbers) :
    ∃ last, z.startingSpeed = .ok last ∧ z.config.minSpeed ≤ last ∧ last ≤ maxSpeed := by
  obtain ⟨last, hlast⟩ := startingSpeed_ok hc
  refine ⟨last, hlast, (startingSpeed_mem_iff hc hlast).2 ?_⟩
  rw [← Bool.not_eq_true, isNaN_startingSpeed_iff hc hlast]
  rintro ⟨x, hx, hn⟩
  rw [isNaN_startingPoint hz hx] at hn
  cases hn

/-! ## What a tick asks for -/

theorem conclude_logged (z : Zone Probe Drive) (w : World) (l : Log Drive Outlet) (tick : Tick)
    (last : Single) :
    z.conclude P.logged (w, l) tick last =
      let (report, z', w') := z.conclude P w tick last
      (report, z', (w', l.command (z.fans.map fun f => (f.drive, report.speed)))) := by
  unfold conclude
  simp only
  rw [commandAll_logged]
  rfl

/-- A tick asks every fan that is bound, once and in order, for the speed that it reports. -/
theorem run_logged (z : Zone Probe Drive) (w : World) (l : Log Drive Outlet) (tick : Tick)
    (offered : Option (Members Probe Drive)) (refresh : Bool) :
    z.run P.logged (w, l) tick offered refresh =
      (z.run P w tick offered refresh).map fun (report, z', w') =>
        (report, z', (w', l.command
          ((z.load (offered.getD .empty)).fans.map fun f => (f.drive, report.speed)))) := by
  have hprepared : z.prepared P.logged (w, l) tick.now offered refresh =
      z.prepared P w tick.now offered refresh := rfl
  have hdrives : ∀ speed : Single,
      (z.prepared P w tick.now offered refresh).fans.map (fun f => (f.drive, speed)) =
        (z.load (offered.getD .empty)).fans.map fun f => (f.drive, speed) := by
    intro speed
    have h := congrArg (List.map fun d => (d, speed))
      (drives_prepared P z w tick.now offered refresh)
    rwa [List.map_map, List.map_map] at h
  rw [run_eq, run_eq, hprepared]
  cases (z.prepared P w tick.now offered refresh).startingSpeed with
  | error b => rfl
  | ok last =>
    simp only [Except.map]
    rw [conclude_logged]
    simp only
    rw [hdrives]

end Zone

namespace Controller

/-- The fans that a tick commands: those bound already, else those it offers. -/
def commandedFans (c : Controller Probe Drive Outlet) (options : TickOptions Probe Drive) :
    List (Fan Drive) :=
  (c.zone.load ((options.members.lookup c.zone.name).getD .empty)).fans

/-- The times and the result of a zone's tick, kept by its controller. -/
def concludeTick (c : Controller Probe Drive Outlet) (w : World) (now : Timestamp)
    (elapsed : Duration) (report : ZoneReport) (zone : Zone Probe Drive) :
    TickReport × Controller Probe Drive Outlet × World :=
  let c' := { c with lastTick := some now, tickedAt := some now, elapsed, zone }
  (⟨now, elapsed, report⟩, c', c'.exportRows P w)

theorem tick_eq (c : Controller Probe Drive Outlet) (w : World) (now : Timestamp)
    (options : TickOptions Probe Drive) :
    c.tick P w now options =
      (c.zone.run P w ⟨now, options.elapsed.getD (c.elapsedAt now)⟩
        (options.members.lookup c.zone.name) options.refresh).map fun (report, zone, w') =>
          c.concludeTick P w' now (options.elapsed.getD (c.elapsedAt now)) report zone := by
  show (c.zone.run P w _ _ _).bind _ = _
  cases c.zone.run P w ⟨now, options.elapsed.getD (c.elapsedAt now)⟩
    (options.members.lookup c.zone.name) options.refresh <;> rfl

theorem tick_logged (c : Controller Probe Drive Outlet) (w : World) (l : Log Drive Outlet)
    (now : Timestamp) (options : TickOptions Probe Drive) :
    c.tick P.logged (w, l) now options =
      (c.tick P w now options).map fun (report, c', w') =>
        (report, c', (w',
          { commands := l.commands ++
              (c.commandedFans options).map fun f => (f.drive, report.zone.speed)
            deliveries := l.deliveries ++ c'.deliveries })) := by
  rw [tick_eq, tick_eq, Zone.run_logged]
  cases c.zone.run P w ⟨now, options.elapsed.getD (c.elapsedAt now)⟩
    (options.members.lookup c.zone.name) options.refresh with
  | error b => rfl
  | ok r =>
    obtain ⟨report, zone, w'⟩ := r
    simp only [Except.map, concludeTick]
    rw [exportRows_logged]
    rfl

end Controller

end ChassisCooling
