import ChassisCooling.Proofs.Control.Access
import ChassisCooling.Proofs.Machine.Bench
import ChassisCooling.Proofs.Pointwise
import Mathlib.Logic.Relation

/-!
# Members are bound once

The first operation that offers members binds them, be it a load, a tick of the controller or a tick
of its zone past it; a tick without members binds none. From then on the zone has these members and
no others, in their order and under their names, and members that are offered later are neither read
nor written.

* `firstBound`: the members that the first such operation of a list offers.
* `Members.Become`: the same members, later on.
* `Zone.Holds`: the invariant, which `System.access_holds` keeps.
* `Platform.SameOn`: platforms that may differ in everything but the hardware of some members;
  `System.perform_congr`: a run does not tell them apart.
* `System.members_bound_once`: the main result.
-/

namespace ChassisCooling

open Binary

section Membership

variable {World Probe Drive Outlet : Type} {P P' : Platform World Probe Drive Outlet}

/-! ## What is offered -/

/-- The members that an operation offers to the zone. -/
def Operation.offer? : Operation World Probe Drive Outlet → Option (Members Probe Drive)
  | .load zone members => if zone = systemZone then some members else none
  | .tick _ options => some ((options.members.lookup systemZone).getD .empty)
  | _ => none

/-- The members that an access offers to the zone. -/
def Access.offer? : Access World Probe Drive Outlet → Option (Members Probe Drive)
  | .operate op => op.offer?
  | .runZone _ offered _ => some (offered.getD .empty)

/-- The members that the first access to offer any offers. -/
def firstBound (as : List (Access World Probe Drive Outlet)) : Option (Members Probe Drive) :=
  as.findSome? Access.offer?

theorem or_firstBound_cons (bound : Option (Members Probe Drive))
    (a : Access World Probe Drive Outlet) (as : List (Access World Probe Drive Outlet)) :
    bound.or (firstBound (a :: as)) = (bound.or a.offer?).or (firstBound as) := by
  unfold firstBound
  rw [List.findSome?_cons, Option.or_assoc]
  cases a.offer? <;> rfl

/-! ## What becomes of members -/

/-- What becomes of a drive while speeds are written to it. -/
def Platform.Descends (P : Platform World Probe Drive Outlet) : Drive → Drive → Prop :=
  Relation.ReflTransGen fun d d' => ∃ speed w, d' = (P.setSpeed d speed w).2.1

/-- The same fan, later on. -/
structure Fan.Becomes (P : Platform World Probe Drive Outlet) (f f' : Fan Drive) : Prop where
  name : f'.name = f.name
  drive : P.Descends f.drive f'.drive

/-- The same sensor, later on. -/
structure Sensor.Becomes (s s' : Sensor Probe) : Prop where
  name : s'.name = s.name
  probe : s'.probe = s.probe

/-- The same fans and sensors in the same order, later on. -/
structure Members.Become (P : Platform World Probe Drive Outlet) (m m' : Members Probe Drive) :
    Prop where
  fans : List.Forall₂ (Fan.Becomes P) m.fans m'.fans
  sensors : List.Forall₂ Sensor.Becomes m.sensors m'.sensors

namespace Fan

theorem Becomes.refl (f : Fan Drive) : f.Becomes P f := ⟨rfl, .refl⟩

theorem Becomes.trans {f g h : Fan Drive} (hfg : f.Becomes P g) (hgh : g.Becomes P h) :
    f.Becomes P h :=
  ⟨hgh.name.trans hfg.name, hfg.drive.trans hgh.drive⟩

theorem becomes_refresh (w : World) (now : Timestamp) (f : Fan Drive) :
    f.Becomes P (f.refresh P w now) := by
  rw [Fan.refresh_eq]
  split
  · exact ⟨rfl, .refl⟩
  · exact .refl f

theorem becomes_command (w : World) (now : Timestamp) (speed : Single) (f : Fan Drive) :
    f.Becomes P (f.command P w now speed).2.1 := by
  rw [command_eq]
  refine ⟨?_, .single ⟨speed, w, rfl⟩⟩
  show History.name (ite _ _ _) = _
  split <;> rfl

end Fan

namespace Sensor

theorem Becomes.refl (s : Sensor Probe) : s.Becomes s := ⟨rfl, rfl⟩

theorem Becomes.trans {s t u : Sensor Probe} (hst : s.Becomes t) (htu : t.Becomes u) :
    s.Becomes u :=
  ⟨htu.name.trans hst.name, htu.probe.trans hst.probe⟩

theorem becomes_refresh (w : World) (now : Timestamp) (s : Sensor Probe) :
    s.Becomes (s.refresh P w now) := by
  rw [Sensor.refresh_eq]
  split <;> exact ⟨rfl, rfl⟩

end Sensor

namespace Members

variable {m m' m'' : Members Probe Drive}

theorem Become.refl (m : Members Probe Drive) : m.Become P m :=
  ⟨List.forall₂_same.2 fun f _ => .refl f, List.forall₂_same.2 fun s _ => .refl s⟩

theorem Become.trans (h : m.Become P m') (h' : m'.Become P m'') : m.Become P m'' :=
  ⟨forall₂_trans (fun _ _ _ hf hg => hf.trans hg) h.fans h'.fans,
    forall₂_trans (fun _ _ _ hs ht => hs.trans ht) h.sensors h'.sensors⟩

theorem become_refresh (w : World) (now : Timestamp) (m : Members Probe Drive) :
    m.Become P (m.refresh P w now) :=
  ⟨List.forall₂_map_right_iff.2 (List.forall₂_same.2 fun f _ => f.becomes_refresh w now),
    List.forall₂_map_right_iff.2 (List.forall₂_same.2 fun s _ => s.becomes_refresh w now)⟩

theorem become_setCapacity (capacity : Nat) (m : Members Probe Drive) :
    m.Become P (m.setCapacity capacity) :=
  ⟨List.forall₂_map_right_iff.2 (List.forall₂_same.2 fun _ _ => ⟨rfl, .refl⟩),
    List.forall₂_map_right_iff.2 (List.forall₂_same.2 fun _ _ => ⟨rfl, rfl⟩)⟩

end Members

theorem Zone.become_commandAll (now : Timestamp) (speed : Single) (fs : List (Fan Drive))
    (w : World) : List.Forall₂ (Fan.Becomes P) fs (commandAll P now speed fs w).2.1 := by
  induction fs generalizing w with
  | nil => exact .nil
  | cons f fs ih =>
    rw [commandAll_cons]
    exact .cons (f.becomes_command w now speed) (ih _)

/-! ## The invariant -/

/-- The zone has the members that were bound, whatever has become of them since. -/
def Zone.Holds (P : Platform World Probe Drive Outlet) (bound : Option (Members Probe Drive))
    (z : Zone Probe Drive) : Prop :=
  Option.Rel (Members.Become P) bound z.members

theorem Zone.holds_members (P : Platform World Probe Drive Outlet) (z : Zone Probe Drive) :
    z.Holds P z.members := by
  unfold Zone.Holds
  cases z.members with
  | none => exact .none
  | some m => exact .some (.refl m)

namespace Zone.Holds

variable {z z' : Zone Probe Drive} {bound : Option (Members Probe Drive)}

theorem eq_none (h : z.Holds P bound) (hz : z.members = none) : bound = none := by
  unfold Zone.Holds at h
  rw [hz] at h
  cases h
  rfl

theorem load (h : z.Holds P bound) (m : Members Probe Drive) :
    (z.load m).Holds P (bound.or (some m)) := by
  unfold Zone.Holds at h
  show Option.Rel _ _ (z.members.or (some m))
  generalize z.members = o at h
  cases h with
  | none => exact .some (.refl m)
  | some h => exact .some h

/-- A change of the members that are bound, if any are. -/
theorem map (h : z.Holds P bound) {change : Members Probe Drive → Members Probe Drive}
    (hchange : ∀ m, Members.Become P m (change m)) (hz' : z'.members = z.members.map change) :
    z'.Holds P bound := by
  unfold Zone.Holds at h ⊢
  rw [hz']
  generalize z.members = o at h
  cases h with
  | none => exact .none
  | some h => exact .some (h.trans (hchange _))

theorem exists_eq_some (h : z.Holds P bound) {m : Members Probe Drive} (hz : z.members = some m) :
    ∃ b, bound = some b ∧ b.Become P m := by
  unfold Zone.Holds at h
  rw [hz] at h
  cases h with
  | some h => exact ⟨_, rfl, h⟩

theorem exists_fan (h : z.Holds P bound) {f : Fan Drive} (hf : f ∈ z.fans) :
    ∃ b ∈ bound, ∃ g ∈ b.fans, g.Becomes P f := by
  cases hm : z.members with
  | none =>
    rw [fans_eq, hm] at hf
    cases hf
  | some m =>
    rw [fans_eq, hm] at hf
    obtain ⟨b, hb, hbecome⟩ := h.exists_eq_some hm
    exact ⟨b, hb, exists_of_forall₂_of_mem hbecome.fans.flip hf⟩

/-- The decision of a tick writes to the fans and leaves the sensors alone. -/
theorem conclude (h : z.Holds P bound) (hinit : z.isInitialized = true) (w : World) (tick : Tick)
    (last : Single) : (z.conclude P w tick last).2.1.Holds P bound := by
  obtain ⟨m, hm⟩ := Option.isSome_iff_exists.1 hinit
  obtain ⟨b, rfl, hbecome⟩ := h.exists_eq_some hm
  have hfans : z.fans = m.fans := by
    rw [fans_eq, hm]
    rfl
  have hsensors : z.sensors = m.sensors := by
    rw [sensors_eq, hm]
    rfl
  have hafter : m.Become P ⟨(commandAll P tick.now
      (z.config.nextSpeed last (z.evaluate P w) tick.elapsed) z.fans w).2.1, z.sensors⟩ := by
    rw [hfans, hsensors]
    exact ⟨become_commandAll .., List.forall₂_same.2 fun s _ => .refl s⟩
  exact .some (hbecome.trans hafter)

/-- A tick binds what is offered, unless members are bound. -/
theorem run (h : z.Holds P bound) {w w' : World} {tick : Tick}
    {offered : Option (Members Probe Drive)} {refresh : Bool} {report : ZoneReport}
    (hrun : z.run P w tick offered refresh = .ok (report, z', w')) :
    z'.Holds P (bound.or (some (offered.getD .empty))) := by
  have hload := h.load (offered.getD .empty)
  have hprepared : (z.prepared P w tick.now offered refresh).Holds P
        (bound.or (some (offered.getD .empty))) ∧
      (z.prepared P w tick.now offered refresh).isInitialized = true := by
    unfold Zone.prepared
    split
    · refine ⟨hload.map (Members.become_refresh w tick.now) rfl, ?_⟩
      rw [isInitialized_refresh, isInitialized_load]
    · exact ⟨hload, isInitialized_load z _⟩
  obtain ⟨last, hconclude, -, -⟩ := of_run_eq_ok P hrun
  have hafter := hprepared.1.conclude hprepared.2 w tick last
  rwa [hconclude] at hafter

theorem reconfigure (h : z.Holds P bound) (config : Config) :
    (z.reconfigure config).Holds P bound := by
  unfold Zone.reconfigure
  split
  · exact h
  · exact h.map (Members.become_setCapacity config.historyCapacity) rfl

theorem touchSensor (h : z.Holds P bound) (sensor : String) {change : Sensor Probe → Sensor Probe}
    (hchange : ∀ s : Sensor Probe, s.Becomes (change s)) :
    (z.touchSensor sensor change).Holds P bound := by
  rw [touchSensor_eq]
  apply h.map _ rfl
  intro m
  exact ⟨List.forall₂_same.2 fun f _ => .refl f, forall₂_touchFirst .refl hchange _ m.sensors⟩

theorem touchFan (h : z.Holds P bound) (fan : String) {change : Fan Drive → Fan Drive}
    (hchange : ∀ f : Fan Drive, f.Becomes P (change f)) :
    (z.touchFan fan change).Holds P bound := by
  rw [touchFan_eq]
  apply h.map _ rfl
  intro m
  exact ⟨forall₂_touchFirst .refl hchange _ m.fans, List.forall₂_same.2 fun s _ => .refl s⟩

end Zone.Holds

/-- Speeds are asked of drives of bound fans only. -/
def Log.KeepsTo (P : Platform World Probe Drive Outlet) (bound : Option (Members Probe Drive))
    (log : Log Drive Outlet) : Prop :=
  ∀ command ∈ log.commands, ∃ m ∈ bound, ∃ f ∈ m.fans, P.Descends f.drive command.1

theorem Zone.Holds.keepsTo {z : Zone Probe Drive} {bound : Option (Members Probe Drive)}
    (h : z.Holds P bound) (speed : Single) (deliveries : List (Delivery Outlet)) :
    Log.KeepsTo P bound ⟨z.fans.map fun f => (f.drive, speed), deliveries⟩ := by
  intro command hcommand
  obtain ⟨f, hf, rfl⟩ := List.mem_map.1 hcommand
  obtain ⟨b, hb, g, hg, hbecomes⟩ := h.exists_fan hf
  exact ⟨b, hb, g, hg, hbecomes.drive⟩

namespace System

variable {s s' : System World Probe Drive Outlet} {a : Access World Probe Drive Outlet}
  {outcome : Outcome} {log : Log Drive Outlet} {bound : Option (Members Probe Drive)}

/-- One access: it binds what it offers, unless members are bound. -/
theorem access_holds (hname : s.controller.zone.name = systemZone)
    (hs : s.controller.zone.Holds P bound) (h : s.access P a = .ok (outcome, s', log)) :
    s'.controller.zone.name = systemZone ∧ s'.controller.zone.Holds P (bound.or a.offer?) ∧
      log.KeepsTo P (bound.or a.offer?) := by
  have hsilent : ∀ bound, (Log.empty : Log Drive Outlet).KeepsTo P bound :=
    fun _ => List.forall_mem_nil _
  have hnone : ∀ {z : Zone Probe Drive}, z.Holds P bound → z.Holds P (bound.or none) :=
    fun h => Option.or_none.symm ▸ h
  cases a with
  | runZone tick offered refresh =>
    rw [access_runZone_eq] at h
    cases hrun : s.controller.zone.run P s.world tick offered refresh with
    | error b =>
      rw [hrun] at h
      cases h
    | ok r =>
      obtain ⟨-, -, hzone, -⟩ := Zone.of_run_eq_ok P hrun
      rw [hrun] at h
      cases h
      exact ⟨hzone.trans hname, hs.run hrun, (hs.load _).keepsTo _ _⟩
  | operate op =>
    cases op with
    | change world =>
      cases h
      exact ⟨hname, hnone hs, hsilent _⟩
    | tick now options =>
      rw [access, step_tick_eq, hname] at h
      cases hrun : s.controller.zone.run P s.world
          ⟨now, options.elapsed.getD (s.controller.elapsedAt now)⟩
          (options.members.lookup systemZone) options.refresh with
      | error b =>
        rw [hrun] at h
        cases h
      | ok r =>
        obtain ⟨-, -, hzone, -⟩ := Zone.of_run_eq_ok P hrun
        rw [hrun] at h
        cases h
        refine ⟨hzone.trans hname, hs.run hrun, ?_⟩
        unfold Controller.commandedFans
        rw [hname]
        exact (hs.load _).keepsTo _ _
    | load zone members =>
      cases h
      have hzone : (s.controller.load zone members).2.zone.name = systemZone ∧
          (s.controller.load zone members).2.zone.Holds P
            (bound.or (if zone = systemZone then some members else none)) := by
        unfold Controller.load
        rw [hname]
        split
        · exact ⟨hname, hs.load members⟩
        · exact ⟨hname, hnone hs⟩
      exact ⟨hzone.1, hzone.2, hsilent _⟩
    | reconfigure config =>
      rw [access, step_reconfigure] at h
      cases hvalid : config.validate with
      | ok u =>
        rw [hvalid] at h
        cases h
        exact ⟨(Zone.name_reconfigure _ config).trans hname, hnone (hs.reconfigure config),
          hsilent _⟩
      | error e =>
        rw [hvalid] at h
        cases h
        exact ⟨hname, hnone hs, hsilent _⟩
    | withOutlet outlet =>
      cases h
      exact ⟨hname, hnone hs, hsilent _⟩
    | recordTemperature sensor now value =>
      cases h
      show (s.controller.recordTemperature sensor now value).2.zone.name = systemZone ∧
        (s.controller.recordTemperature sensor now value).2.zone.Holds P (bound.or none) ∧ _
      rw [Controller.recordTemperature_eq]
      refine ⟨?_, hnone (hs.touchSensor sensor fun s => ⟨rfl, rfl⟩), hsilent _⟩
      rw [Zone.touchSensor_eq]
      exact hname
    | recordSpeed fan now value =>
      cases h
      show (s.controller.recordSpeed fan now value).2.zone.name = systemZone ∧
        (s.controller.recordSpeed fan now value).2.zone.Holds P (bound.or none) ∧ _
      rw [Controller.recordSpeed_eq]
      refine ⟨?_, hnone (hs.touchFan fan fun f => ⟨rfl, .refl⟩), hsilent _⟩
      rw [Zone.touchFan_eq]
      exact hname

/-- No members are bound as long as none are offered. -/
theorem members_eq_none_of_access (hname : s.controller.zone.name = systemZone)
    (h : s.access P a = .ok (outcome, s', log)) (hnone : s'.controller.zone.members = none) :
    s.controller.zone.members = none ∧ a.offer? = none := by
  obtain ⟨-, hs', -⟩ := access_holds hname (Zone.holds_members P s.controller.zone) h
  exact Option.or_eq_none_iff.1 (hs'.eq_none hnone)

/-- By induction on the accesses: what is bound is what was offered first. -/
theorem perform_holds {as : List (Access World Probe Drive Outlet)}
    {events : List (AccessEvent World Probe Drive Outlet)}
    (hname : s.controller.zone.name = systemZone) (hs : s.controller.zone.Holds P bound)
    (h : s.perform P as = .ok events) {i : Nat} {e : AccessEvent World Probe Drive Outlet}
    (he : events[i]? = some e) :
    e.after.controller.zone.Holds P (bound.or (firstBound (as.take (i + 1)))) ∧
      e.log.KeepsTo P (bound.or (firstBound (as.take (i + 1)))) := by
  induction as generalizing s bound events i with
  | nil =>
    cases h
    cases he
  | cons a as ih =>
    obtain ⟨outcome, s', log, later, haccess, hlater, rfl⟩ := perform_cons_eq_ok_iff.1 h
    obtain ⟨hname', hs', hlog⟩ := access_holds hname hs haccess
    rw [List.take_succ_cons, or_firstBound_cons]
    cases i with
    | zero =>
      cases he
      show s'.controller.zone.Holds P ((bound.or a.offer?).or none) ∧
        log.KeepsTo P ((bound.or a.offer?).or none)
      rw [Option.or_none]
      exact ⟨hs', hlog⟩
    | succ i => exact ih hname' hs' hlater he

end System

/-! ## Members that are offered later -/

/-- Accesses that differ in the members that they offer at most. -/
inductive Access.SameButOffer :
    Access World Probe Drive Outlet → Access World Probe Drive Outlet → Prop where
  | refl (a : Access World Probe Drive Outlet) : SameButOffer a a
  | load (zone : String) (m m' : Members Probe Drive) :
      SameButOffer (.operate (.load zone m)) (.operate (.load zone m'))
  | tick (now : Timestamp) (options : TickOptions Probe Drive)
      (members : List (String × Members Probe Drive)) :
      SameButOffer (.operate (.tick now options)) (.operate (.tick now { options with members }))
  | runZone (tick : Tick) (offered offered' : Option (Members Probe Drive)) (refresh : Bool) :
      SameButOffer (.runZone tick offered refresh) (.runZone tick offered' refresh)

theorem Access.SameButOffer.offer?_eq_none {a a' : Access World Probe Drive Outlet}
    (h : a.SameButOffer a') : a.offer? = none ↔ a'.offer? = none := by
  cases h with
  | refl => exact Iff.rfl
  | load zone m m' =>
    show (if zone = systemZone then some m else none) = none ↔
      (if zone = systemZone then some m' else none) = none
    simp
  | tick => exact iff_of_false (Option.some_ne_none _) (Option.some_ne_none _)
  | runZone => exact iff_of_false (Option.some_ne_none _) (Option.some_ne_none _)

/-- A platform on which the probes of some members and the drives that theirs may become are the
same. Others may show and do what they like. -/
structure Platform.SameOn (P P' : Platform World Probe Drive Outlet) (m : Members Probe Drive) :
    Prop where
  temperature : ∀ s ∈ m.sensors, P.temperature s.probe = P'.temperature s.probe
  limits : ∀ s ∈ m.sensors, P.limits s.probe = P'.limits s.probe
  speed : ∀ f ∈ m.fans, ∀ d, P.Descends f.drive d → P.speed d = P'.speed d
  setSpeed : ∀ f ∈ m.fans, ∀ d, P.Descends f.drive d → P.setSpeed d = P'.setSpeed d

/-- What members have, and what their drives may become. -/
def Platform.scopeOf (P : Platform World Probe Drive Outlet) (bound : Option (Members Probe Drive)) :
    Scope Probe Drive where
  probes p := ∃ m ∈ bound, ∃ s ∈ m.sensors, s.probe = p
  drives d := ∃ m ∈ bound, ∃ f ∈ m.fans, P.Descends f.drive d
  names _ := True

theorem Members.within_scopeOf {bound : Option (Members Probe Drive)} {m : Members Probe Drive}
    (h : m ∈ bound) : m.Within (P.scopeOf bound) :=
  ⟨fun f hf => ⟨m, h, f, hf, .refl⟩, fun s hs => ⟨⟨m, h, s, hs, rfl⟩, trivial⟩⟩

theorem Platform.SameOn.sameHardware {bound : Option (Members Probe Drive)}
    (h : ∀ m ∈ bound, P.SameOn P' m) : P.SameHardware P' (P.scopeOf bound) Eq := by
  have hset : ∀ {d}, (P.scopeOf bound).drives d → P.setSpeed d = P'.setSpeed d := by
    rintro d ⟨m, hm, f, hf, hd⟩
    exact (h m hm).setSpeed f hf d hd
  constructor
  · rintro p w w' ⟨m, hm, s, hs, rfl⟩ rfl
    unfold Sensor.read?
    rw [(h m hm).temperature s hs]
  · rintro p w w' ⟨m, hm, s, hs, rfl⟩ rfl
    rw [(h m hm).limits s hs]
  · rintro d w w' ⟨m, hm, f, hf, hd⟩ rfl
    unfold Fan.read?
    rw [(h m hm).speed f hf d hd]
  · rintro d w w' speed hd rfl
    rw [hset hd]
  · rintro d w w' speed hd rfl
    rw [hset hd]
  · rintro d w w' speed ⟨m, hm, f, hf, hd⟩ rfl
    exact ⟨m, hm, f, hf, hd.tail ⟨speed, w, rfl⟩⟩
  · rintro d w w' speed hd rfl
    rw [hset hd]

section Congr

variable {S : Scope Probe Drive} {z : Zone Probe Drive}

/-- A tick of a zone is the same on two platforms with the same hardware for its members, whatever
is offered once they are bound. -/
theorem Zone.run_congr (hz : z.Agree S z) (hP : P.SameHardware P' S Eq) (w : World) (tick : Tick)
    {offered offered' : Option (Members Probe Drive)}
    (hoffered : z.members = none →
      offered.getD .empty = offered'.getD .empty ∧ (offered.getD .empty).Within S)
    (refresh : Bool) :
    z.run P w tick offered refresh = z.run P' w tick offered' refresh ∧
      ∀ r, z.run P w tick offered refresh = .ok r → r.2.1.Agree S r.2.1 := by
  have hends := hz.run (.refl S.names z.config) hP (rfl : w = w) tick hoffered refresh
  generalize hrun : z.run P w tick offered refresh = x,
    hrun' : z.run P' w tick offered' refresh = x' at hends
  cases hends with
  | error b => exact ⟨rfl, fun r hr => nomatch hr⟩
  | @ok r r' h =>
    obtain ⟨hreport, hagree, hworld⟩ := h
    obtain ⟨-, -, -, hconfig⟩ := of_run_eq_ok P hrun
    obtain ⟨-, -, -, hconfig'⟩ := of_run_eq_ok P' hrun'
    have hzone := hagree.eq_of_config_eq (hconfig.trans hconfig'.symm)
    refine ⟨congrArg Except.ok (Prod.ext hreport (Prod.ext hzone hworld)), ?_⟩
    intro r₁ hr
    obtain rfl := Except.ok.inj hr
    exact ⟨rfl, rfl, rfl, hagree.within⟩

theorem Controller.exportRows_congr (hdeliver : P.deliver = P'.deliver)
    (c : Controller Probe Drive Outlet) (w : World) : c.exportRows P w = c.exportRows P' w := by
  unfold exportRows
  rw [hdeliver]

namespace System

variable {s : System World Probe Drive Outlet} {a a' : Access World Probe Drive Outlet}

theorem tick_congr (hP : P.SameHardware P' S Eq) (hdeliver : P.deliver = P'.deliver)
    (hname : s.controller.zone.name = systemZone)
    (hs : s.controller.zone.Agree S s.controller.zone) (now : Timestamp)
    {options options' : TickOptions Probe Drive} (hrefresh : options.refresh = options'.refresh)
    (helapsed : options.elapsed = options'.elapsed)
    (hoffered : s.controller.zone.members = none →
      (options.members.lookup systemZone).getD .empty =
          (options'.members.lookup systemZone).getD .empty ∧
        ((options.members.lookup systemZone).getD .empty).Within S) :
    s.step P (.tick now options) = s.step P' (.tick now options') ∧
      ∀ r, s.step P (.tick now options) = .ok r →
        r.2.1.controller.zone.Agree S r.2.1.controller.zone := by
  obtain ⟨hrun, hwithin⟩ := Zone.run_congr hs hP s.world
    ⟨now, options.elapsed.getD (s.controller.elapsedAt now)⟩ hoffered options.refresh
  have hfans : s.controller.commandedFans options = s.controller.commandedFans options' := by
    unfold Controller.commandedFans
    rw [hname]
    exact (hs.load hoffered).fans_eq
  rw [step_tick_eq, step_tick_eq, hname, ← helapsed, ← hrefresh, ← hfans, ← hrun]
  constructor
  · simp only [Controller.exportRows_congr hdeliver]
  · intro r hr
    cases hzone : s.controller.zone.run P s.world
        ⟨now, options.elapsed.getD (s.controller.elapsedAt now)⟩
        (options.members.lookup systemZone) options.refresh with
    | error b =>
      rw [hzone] at hr
      cases hr
    | ok r₁ =>
      rw [hzone] at hr
      cases hr
      exact hwithin r₁ hzone

theorem runZone_congr (hP : P.SameHardware P' S Eq)
    (hs : s.controller.zone.Agree S s.controller.zone) (tick : Tick)
    {offered offered' : Option (Members Probe Drive)}
    (hoffered : s.controller.zone.members = none →
      offered.getD .empty = offered'.getD .empty ∧ (offered.getD .empty).Within S)
    (refresh : Bool) :
    s.access P (.runZone tick offered refresh) = s.access P' (.runZone tick offered' refresh) ∧
      ∀ r, s.access P (.runZone tick offered refresh) = .ok r →
        r.2.1.controller.zone.Agree S r.2.1.controller.zone := by
  obtain ⟨hrun, hwithin⟩ := Zone.run_congr hs hP s.world tick hoffered refresh
  have hfans : (s.controller.zone.load (offered.getD .empty)).fans =
      (s.controller.zone.load (offered'.getD .empty)).fans := (hs.load hoffered).fans_eq
  rw [access_runZone_eq, access_runZone_eq, ← hfans, ← hrun]
  refine ⟨rfl, fun r hr => ?_⟩
  cases hzone : s.controller.zone.run P s.world tick offered refresh with
  | error b =>
    rw [hzone] at hr
    cases hr
  | ok r₁ =>
    rw [hzone] at hr
    cases hr
    exact hwithin r₁ hzone

theorem load_congr (P P' : Platform World Probe Drive Outlet)
    (hname : s.controller.zone.name = systemZone)
    (hs : s.controller.zone.Agree S s.controller.zone) (zone : String)
    {m m' : Members Probe Drive}
    (hm : s.controller.zone.members = none →
      (Operation.load zone m : Operation World Probe Drive Outlet).offer? =
          (Operation.load zone m' : Operation World Probe Drive Outlet).offer? ∧
        ∀ b ∈ (Operation.load zone m : Operation World Probe Drive Outlet).offer?, b.Within S) :
    s.step P (.load zone m) = s.step P' (.load zone m') ∧
      ∀ r, s.step P (.load zone m) = .ok r →
        r.2.1.controller.zone.Agree S r.2.1.controller.zone := by
  have hload : s.controller.load zone m = s.controller.load zone m' ∧
      (s.controller.load zone m).2.zone.Agree S (s.controller.load zone m).2.zone := by
    unfold Controller.load
    unfold Operation.offer? at hm
    rw [hname]
    split
    · next heq =>
      simp only [if_pos heq, Option.some.injEq, Option.mem_def, forall_eq'] at hm
      have hzone := hs.load hm
      rw [← hzone.eq_of_config_eq rfl]
      exact ⟨rfl, rfl, rfl, rfl, hzone.within⟩
    · exact ⟨rfl, hs⟩
  rw [step_load, step_load, ← hload.1]
  refine ⟨rfl, fun r hr => ?_⟩
  obtain rfl := Except.ok.inj hr
  exact hload.2

/-- Whatever neither ticks nor binds looks at no hardware. -/
theorem within_of_step (hs : s.controller.zone.Agree S s.controller.zone)
    {op : Operation World Probe Drive Outlet} (htick : ∀ now options, op ≠ .tick now options)
    (hload : ∀ zone m, op ≠ .load zone m)
    {r : Outcome × System World Probe Drive Outlet × Log Drive Outlet}
    (h : s.access P (.operate op) = .ok r) :
    r.2.1.controller.zone.Agree S r.2.1.controller.zone := by
  cases op with
  | tick now options => exact absurd rfl (htick now options)
  | load zone members => exact absurd rfl (hload zone members)
  | change | withOutlet =>
    cases h
    exact hs
  | reconfigure config =>
    rw [access, step_reconfigure] at h
    cases hvalid : config.validate with
    | ok u =>
      rw [hvalid] at h
      cases h
      exact hs.reconfigure rfl rfl
    | error e =>
      rw [hvalid] at h
      cases h
      exact hs
  | recordTemperature sensor now value =>
    cases h
    show (s.controller.recordTemperature sensor now value).2.zone.Agree S
      (s.controller.recordTemperature sensor now value).2.zone
    rw [Controller.recordTemperature_eq]
    exact hs.touchSensor sensor fun s hs => ⟨hs.probe, hs.name⟩
  | recordSpeed fan now value =>
    cases h
    show (s.controller.recordSpeed fan now value).2.zone.Agree S
      (s.controller.recordSpeed fan now value).2.zone
    rw [Controller.recordSpeed_eq]
    exact hs.touchFan fan fun f hf => ⟨hf.drive⟩

/-- One access to one system on two platforms: what is offered counts only before members are
bound, and so does the hardware of what is offered. -/
theorem access_congr (hP : P.SameHardware P' S Eq) (hdeliver : P.deliver = P'.deliver)
    (hname : s.controller.zone.name = systemZone)
    (hs : s.controller.zone.Agree S s.controller.zone) (ha : a.SameButOffer a')
    (hoffer : s.controller.zone.members = none →
      a.offer? = a'.offer? ∧ ∀ m ∈ a.offer?, m.Within S) :
    s.access P a = s.access P' a' ∧
      ∀ r, s.access P a = .ok r → r.2.1.controller.zone.Agree S r.2.1.controller.zone := by
  have hsome : ∀ {m m' : Members Probe Drive},
      (s.controller.zone.members = none → some m = some m' ∧ ∀ b ∈ some m, b.Within S) →
        s.controller.zone.members = none → m = m' ∧ m.Within S :=
    fun h hnone => ⟨Option.some.inj (h hnone).1, (h hnone).2 _ rfl⟩
  cases ha with
  | load zone m m' => exact load_congr P P' hname hs zone hoffer
  | tick now options members =>
    exact tick_congr hP hdeliver hname hs now rfl rfl (hsome hoffer)
  | runZone tick offered offered' refresh =>
    exact runZone_congr hP hs tick (hsome hoffer) refresh
  | refl =>
    cases a with
    | runZone tick offered refresh => exact runZone_congr hP hs tick (hsome hoffer) refresh
    | operate op =>
      cases op with
      | tick now options => exact tick_congr hP hdeliver hname hs now rfl rfl (hsome hoffer)
      | load zone m => exact load_congr P P' hname hs zone hoffer
      | change | reconfigure | withOutlet | recordTemperature | recordSpeed =>
        exact ⟨rfl, fun r hr => within_of_step hs (by simp) (by simp) hr⟩

/-- By induction on the accesses: until members are bound the same ones are offered, and after that
it does not matter. -/
theorem perform_congr (hP : P.SameHardware P' S Eq) (hdeliver : P.deliver = P'.deliver)
    {as as' : List (Access World Probe Drive Outlet)}
    (has : List.Forall₂ Access.SameButOffer as as') (hname : s.controller.zone.name = systemZone)
    (hs : s.controller.zone.Agree S s.controller.zone)
    (hfirst : s.controller.zone.members = none →
      firstBound as = firstBound as' ∧ ∀ m ∈ firstBound as, m.Within S) :
    (s.perform P as).map (List.map AccessEvent.result) =
      (s.perform P' as').map (List.map AccessEvent.result) := by
  induction has generalizing s with
  | nil => rfl
  | @cons a a' as as' ha has ih =>
    unfold firstBound at hfirst
    rw [List.findSome?_cons, List.findSome?_cons] at hfirst
    have hoffer : s.controller.zone.members = none →
        a.offer? = a'.offer? ∧ ∀ m ∈ a.offer?, m.Within S := by
      intro hnone
      have hsame := hfirst hnone
      cases hbinds : a.offer? with
      | none => exact ⟨(ha.offer?_eq_none.1 hbinds).symm, fun m hm => nomatch hm⟩
      | some m =>
        cases hbinds' : a'.offer? with
        | none =>
          rw [ha.offer?_eq_none.2 hbinds'] at hbinds
          cases hbinds
        | some m' =>
          rw [hbinds, hbinds'] at hsame
          exact hsame
    obtain ⟨hsame, hwithin⟩ := access_congr hP hdeliver hname hs ha hoffer
    rw [results_perform_cons, results_perform_cons, ← hsame]
    cases haccess : s.access P a with
    | error b => rfl
    | ok r =>
      obtain ⟨outcome, s', log⟩ := r
      have hname' := (access_holds hname (Zone.holds_members P s.controller.zone) haccess).1
      refine congrArg (Except.map ((outcome, s', log) :: ·)) ?_
      refine ih hname' (hwithin _ haccess) fun hnone => ?_
      obtain ⟨hnone₀, hsilent⟩ := members_eq_none_of_access hname haccess hnone
      have hrest := hfirst hnone₀
      rwa [hsilent, ha.offer?_eq_none.1 hsilent] at hrest

end System

end Congr

/-- What becomes of the members of a new controller in any sequence of accesses: before the first
access that offers members it has none, and from then on it has those that were offered first, in
their order and with their names, and asks speeds of no others. Members that are offered later are
not read either: with other offers in their place, and on a platform that is the same on the members
that are bound and as it likes elsewhere, everything comes out the same. -/
theorem System.members_bound_once {config : Config} {c : Controller Probe Drive Outlet}
    (hcreate : Controller.create config = .ok c) (w : World)
    (as : List (Access World Probe Drive Outlet)) :
    ∃ events, (System.mk c w).perform P as = .ok events ∧
      events.map AccessEvent.access = as ∧
      (∀ (i : Nat) (e : AccessEvent World Probe Drive Outlet), events[i]? = some e →
        e.after.controller.zone.Holds P (firstBound (as.take (i + 1))) ∧
          e.log.KeepsTo P (firstBound (as.take (i + 1)))) ∧
      ∀ (P' : Platform World Probe Drive Outlet) (as' : List (Access World Probe Drive Outlet)),
        P.deliver = P'.deliver → (∀ m ∈ firstBound as, P.SameOn P' m) →
        List.Forall₂ Access.SameButOffer as as' → firstBound as = firstBound as' →
          ∃ events', (System.mk c w).perform P' as' = .ok events' ∧
            events'.map AccessEvent.result = events.map AccessEvent.result := by
  obtain ⟨events, hrun⟩ :=
    exists_perform_eq_ok (P := P) (s := ⟨c, w⟩) (Controller.settled_create hcreate) as
  have hname : c.zone.name = systemZone := Controller.zoneName_of_create hcreate
  have hmembers : c.zone.members = none := Controller.members_of_create hcreate
  have hholds : c.zone.Holds P none := hmembers ▸ Zone.holds_members P c.zone
  refine ⟨events, hrun, map_access_of_perform hrun, ?_, ?_⟩
  · intro i e he
    exact perform_holds (s := ⟨c, w⟩) hname hholds hrun he
  · intro P' as' hdeliver hsame has hfirst
    have hagree : c.zone.Agree (P.scopeOf (firstBound as)) c.zone :=
      ⟨rfl, rfl, rfl, fun m hm => nomatch hmembers.symm.trans hm⟩
    have hresults := perform_congr (s := ⟨c, w⟩) (Platform.SameOn.sameHardware hsame) hdeliver has
      hname hagree fun _ => ⟨hfirst, fun m hm => Members.within_scopeOf hm⟩
    rw [hrun] at hresults
    obtain ⟨events', hrun', heq⟩ := map_eq_ok_iff.1 hresults.symm
    exact ⟨events', hrun', heq⟩

end Membership

/-- Members for a zone that there is not, then those that are bound, and three kinds of later
offers, with a smaller capacity in between. On the second platform the later sensor is hot and the
later drive changes the world, and nothing of it shows. -/
theorem System.members_bound_once_of_late_offers :
    let limits : Limits := ⟨some (ofNat 95), some (ofNat 100), some (ofNat 70)⟩
    let bench : Bench :=
      ⟨[⟨"cpu", some (ofNat 80), limits⟩, ⟨"gpu", some (ofNat 60), limits⟩],
        [⟨"fan1", some (ofNat 50), [], false⟩, ⟨"fan2", some (ofNat 50), [], false⟩]⟩
    let w : Machine := { Machine.blank with bench }
    let first : Members Probe Drive :=
      ⟨[⟨.simulated 0 "fan1", .empty "fan1" 10⟩], [⟨.simulated 0 "cpu", .empty "cpu" 10, false⟩]⟩
    let late : Members Probe Drive :=
      ⟨[⟨.simulated 1 "fan2", .empty "fan2" 10⟩], [⟨.simulated 1 "gpu", .empty "gpu" 10, false⟩]⟩
    let minute : Duration := ⟨60000000000, by decide⟩
    let as (m : Members Probe Drive) : List (Access Machine Probe Drive Recorder) :=
      [.operate (.load "Rack" m), .operate (.load "System" first),
        .operate (.tick (ofNat 0) { members := [("System", m)], refresh := true }),
        .operate (.reconfigure { Config.default with historyCapacity := 3 }),
        .runZone ⟨ofNat 60, minute⟩ (some m) true, .operate (.load "System" m)]
    let P' : Platform Machine Probe Drive Recorder :=
      { Machine.platform with
        temperature := fun p m =>
          match p with
          | .simulated 1 _ => .ok (ofNat 200)
          | _ => p.temperature m
        setSpeed := fun d speed m =>
          match d with
          | .simulated 1 _ => (.ok (), d, .blank)
          | _ => d.setSpeed speed m }
    ∃ (c : Controller Probe Drive Recorder)
      (events events' : List (AccessEvent Machine Probe Drive Recorder)),
      Controller.create Config.default = .ok c ∧
      (System.mk c w).perform Machine.platform (as late) = .ok events ∧
      (System.mk c w).perform P' (as .empty) = .ok events' ∧
      events.map (fun e =>
          (e.after.controller.zone.fans.map Fan.name,
            e.after.controller.zone.sensors.map Sensor.name,
            e.log.commands.map fun command => command.1.name)) =
        [([], [], []), (["fan1"], ["cpu"], []), (["fan1"], ["cpu"], ["fan1"]),
          (["fan1"], ["cpu"], []), (["fan1"], ["cpu"], ["fan1"]), (["fan1"], ["cpu"], [])] ∧
      events'.map AccessEvent.result = events.map AccessEvent.result := by
  intro limits bench w first late minute as P'
  obtain ⟨c, hcreate, hvalues⟩ : ∃ c : Controller Probe Drive Recorder,
      Controller.create Config.default = .ok c ∧
        ((System.mk c w).perform Machine.platform (as late)).toOption.map (fun events =>
          events.map fun e =>
            (e.after.controller.zone.fans.map Fan.name,
              e.after.controller.zone.sensors.map Sensor.name,
              e.log.commands.map fun command => command.1.name)) =
          some [([], [], []), (["fan1"], ["cpu"], []), (["fan1"], ["cpu"], ["fan1"]),
            (["fan1"], ["cpu"], []), (["fan1"], ["cpu"], ["fan1"]), (["fan1"], ["cpu"], [])] :=
    ⟨_, Controller.create_default, by decide +kernel⟩
  obtain ⟨events, hrun, -, -, hlater⟩ :=
    members_bound_once (P := Machine.platform) hcreate w (as late)
  have hfirst : firstBound (as late) = some first := rfl
  have hsame : ∀ m ∈ firstBound (as late), Machine.platform.SameOn P' m := by
    rintro m hm
    obtain rfl : first = m := Option.some.inj hm
    have hdrive : ∀ d, Machine.platform.Descends (.simulated 0 "fan1") d →
        d = .simulated 0 "fan1" := by
      intro d hd
      induction hd with
      | refl => rfl
      | tail _ hset ih =>
        obtain ⟨speed, w, rfl⟩ := hset
        rw [ih]
        exact Drive.drive_setSpeed_simulated ..
    constructor
    · exact List.forall_mem_singleton.2 rfl
    · exact List.forall_mem_singleton.2 rfl
    · exact List.forall_mem_singleton.2 fun d hd => hdrive d hd ▸ rfl
    · exact List.forall_mem_singleton.2 fun d hd => hdrive d hd ▸ rfl
  have has : List.Forall₂ Access.SameButOffer (as late) (as .empty) :=
    .cons (.load ..) (.cons (.refl _) (.cons (.tick ..) (.cons (.refl _)
      (.cons (.runZone ..) (.cons (.load ..) .nil)))))
  obtain ⟨events', hrun', hresults⟩ := hlater P' (as .empty) rfl hsame has rfl
  rw [hrun] at hvalues
  exact ⟨c, events, events', hcreate, hrun, hrun', Option.some.inj hvalues, hresults⟩

end ChassisCooling
