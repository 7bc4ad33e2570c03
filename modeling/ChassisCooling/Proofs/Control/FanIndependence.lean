import ChassisCooling.Machine.Basic
import ChassisCooling.Proofs.Control.Frame
import ChassisCooling.Proofs.Success

/-!
# Fans have no say

Before its first tick a zone may take the speed to start from off a fan. From then on it starts from
the speed that it commanded last, and neither a new capacity nor a fan can take that speed away. So
two zones with the same configuration, sensors and last speed decide alike for ever, whatever fans
they have, whatever those show, and whichever writes fail.

* `Zone.Basis`, `Zone.basis`: what the decisions rest on.
* `ActionsMatch`: what is done to two zones differs in the fans only.
* `Zone.DifferInFans`: the invariant, which `DifferInFans.run`, `DifferInFans.reconfigure` and
  `DifferInFans.recordSpeed_left` keep.
* `Zone.actAll_decisions`: any number of actions, with the same decisions.
-/

namespace ChassisCooling

open Binary

/-- What a tick decides. -/
structure Decision where
  speed : Single
  overheat : Bool
  selected : Option String
  deriving DecidableEq

def ZoneReport.decision (r : ZoneReport) : Decision := ⟨r.speed, r.overheat, r.selected⟩

/-- What may be done to a zone. Each tick is given the world that it meets, which is the one that
the tick before it left, or any other. -/
inductive ZoneAction (World Probe Drive : Type) where
  | run (world : World) (tick : Tick) (offered : Option (Members Probe Drive)) (refresh : Bool)
  | reconfigure (config : Config)
  /-- A speed read elsewhere, for the first fan of a name. -/
  | recordSpeed (fan : String) (now : Timestamp) (value : Single)

namespace Zone

/-- What a zone's decisions rest on once it has commanded a speed. -/
structure Basis (Probe : Type) where
  config : Config
  initialized : Bool
  sensors : List (Sensor Probe)
  lastSpeed : Option Single

section Actions

variable {World Probe Drive Outlet : Type} (P : Platform World Probe Drive Outlet)

def basis (z : Zone Probe Drive) : Basis Probe :=
  ⟨z.config, z.isInitialized, z.sensors, z.lastSpeed⟩

/-- Records a speed for the first fan of a name, if there is one. -/
def recordSpeed (z : Zone Probe Drive) (fan : String) (now : Timestamp) (value : Single) :
    Zone Probe Drive :=
  ((z.changeFan fan fun f => ((), f.record now value)).map Prod.snd).getD z

/-- What comes of one action: the report of a tick, and the next zone. -/
def act (z : Zone Probe Drive) :
    ZoneAction World Probe Drive → Except Breach (List ZoneReport × Zone Probe Drive)
  | .run w tick offered refresh => do
    let (report, z, _) ← z.run P w tick offered refresh
    return ([report], z)
  | .reconfigure config => .ok ([], z.reconfigure config)
  | .recordSpeed fan now value => .ok ([], z.recordSpeed fan now value)

/-- The reports of the ticks among a list of actions, and the zone after them. -/
def actAll (z : Zone Probe Drive) :
    List (ZoneAction World Probe Drive) → Except Breach (List ZoneReport × Zone Probe Drive)
  | [] => .ok ([], z)
  | a :: as => do
    let (reports, z) ← z.act P a
    let (rest, z) ← z.actAll as
    return (reports ++ rest, z)

/-! ## The basis after an operation -/

theorem basis_load (z : Zone Probe Drive) (m : Members Probe Drive) :
    (z.load m).basis =
      ⟨z.config, true, if z.isInitialized then z.sensors else m.sensors, z.lastSpeed⟩ := by
  rw [← sensors_load, ← isInitialized_load z m]
  rfl

theorem basis_refresh (z : Zone Probe Drive) (w : World) (now : Timestamp) :
    (z.refresh P w now).basis =
      { z.basis with sensors := z.sensors.map (Sensor.refresh P w now) } := by
  rw [← sensors_refresh]
  show Basis.mk _ (z.refresh P w now).isInitialized _ _ = _
  rw [isInitialized_refresh]
  rfl

theorem decision_conclude (z : Zone Probe Drive) (w : World) (tick : Tick) (last : Single) :
    (z.conclude P w tick last).1.decision =
      ⟨z.config.nextSpeed last (z.evaluate P w) tick.elapsed, (z.evaluate P w).overheat,
        (z.evaluate P w).choose.map Snapshot.sensor⟩ :=
  rfl

theorem basis_conclude (z : Zone Probe Drive) (w : World) (tick : Tick) (last : Single) :
    (z.conclude P w tick last).2.1.basis =
      ⟨z.config, true, z.sensors, some (z.conclude P w tick last).1.decision.speed⟩ := by
  show Basis.mk _ _ _ (z.conclude P w tick last).2.1.lastSpeed = _
  rw [lastSpeed_conclude]
  rfl

theorem speed_conclude (z : Zone Probe Drive) (w : World) (tick : Tick) (last : Single) :
    (z.conclude P w tick last).2.1.speed =
      z.speed.recordCommanded tick.now (z.conclude P w tick last).1.speed :=
  rfl

theorem basis_reconfigure (z : Zone Probe Drive) (config : Config) :
    (z.reconfigure config).basis =
      { z.basis with
        config
        sensors :=
          if config.historyCapacity = z.config.historyCapacity then z.sensors
          else z.sensors.map (Sensor.setCapacity config.historyCapacity) } := by
  show Basis.mk _ _ _ _ = _
  rw [config_reconfigure, isInitialized_reconfigure, sensors_reconfigure, lastSpeed_reconfigure]
  rfl

/-- Nothing but fans changes with a speed read elsewhere. -/
theorem exists_recordSpeed_eq (z : Zone Probe Drive) (fan : String) (now : Timestamp)
    (value : Single) :
    ∃ fans, z.recordSpeed fan now value =
      { z with members := z.members.map fun m => { m with fans } } :=
  exists_touchFan_eq z fan fun f => f.record now value

theorem basis_recordSpeed (z : Zone Probe Drive) (fan : String) (now : Timestamp)
    (value : Single) : (z.recordSpeed fan now value).basis = z.basis := by
  obtain ⟨fans, h⟩ := exists_recordSpeed_eq z fan now value
  rw [h]
  unfold basis isInitialized sensors lastSpeed
  cases z.members <;> rfl

theorem speed_recordSpeed (z : Zone Probe Drive) (fan : String) (now : Timestamp)
    (value : Single) : (z.recordSpeed fan now value).speed = z.speed := by
  obtain ⟨fans, h⟩ := exists_recordSpeed_eq z fan now value
  rw [h]

/-! ## Actions one by one -/

theorem actAll_run_cons (z : Zone Probe Drive) (w : World) (tick : Tick)
    (offered : Option (Members Probe Drive)) (refresh : Bool)
    (as : List (ZoneAction World Probe Drive)) :
    z.actAll P (.run w tick offered refresh :: as) =
      z.run P w tick offered refresh >>= fun r => r.2.1.actAll P as >>= fun rest =>
        .ok (r.1 :: rest.1, rest.2) := by
  show ((z.run P w tick offered refresh).bind fun r => .ok ([r.1], r.2.1)).bind _ = _
  cases z.run P w tick offered refresh <;> rfl

/-- An action without a report. -/
theorem actAll_cons_of_silent {z z₁ : Zone Probe Drive} {a : ZoneAction World Probe Drive}
    (h : z.act P a = .ok ([], z₁)) (as : List (ZoneAction World Probe Drive)) :
    z.actAll P (a :: as) = z₁.actAll P as := by
  show (z.act P a).bind _ = _
  rw [h]
  show (z₁.actAll P as).bind _ = _
  cases z₁.actAll P as <;> rfl

end Actions

end Zone

/-! ## Two worlds and two zones -/

section Pairs

variable {World World' Probe Drive Drive' Outlet Outlet' : Type}
  (P : Platform World Probe Drive Outlet) (P' : Platform World' Probe Drive' Outlet')
  (watched : Probe → Prop)

/-- Two worlds show the same at some probes. -/
structure ShowAlike (w : World) (w' : World') : Prop where
  read : ∀ p, watched p → Sensor.read? P p w = Sensor.read? P' p w'
  limits : ∀ p, watched p → P.limits p w = P'.limits p w'

/-- The same ticks and configurations for two zones, in worlds that show the same at some probes,
and to which the offered sensors belong. Speeds read elsewhere may come at any time to either. -/
inductive ActionsMatch :
    List (ZoneAction World Probe Drive) → List (ZoneAction World' Probe Drive') → Prop where
  | nil : ActionsMatch [] []
  | run {w : World} {w' : World'} {tick : Tick} {offered : Option (Members Probe Drive)}
      {offered' : Option (Members Probe Drive')} {refresh : Bool}
      {as : List (ZoneAction World Probe Drive)} {as' : List (ZoneAction World' Probe Drive')}
      (hw : ShowAlike P P' watched w w')
      (hoffered : (offered.getD .empty).sensors = (offered'.getD .empty).sensors)
      (hwatched : ∀ s ∈ (offered.getD .empty).sensors, watched s.probe)
      (h : ActionsMatch as as') :
      ActionsMatch (.run w tick offered refresh :: as) (.run w' tick offered' refresh :: as')
  | reconfigure {config : Config} {as : List (ZoneAction World Probe Drive)}
      {as' : List (ZoneAction World' Probe Drive')} (h : ActionsMatch as as') :
      ActionsMatch (.reconfigure config :: as) (.reconfigure config :: as')
  | recordLeft {fan : String} {now : Timestamp} {value : Single}
      {as : List (ZoneAction World Probe Drive)} {as' : List (ZoneAction World' Probe Drive')}
      (h : ActionsMatch as as') : ActionsMatch (.recordSpeed fan now value :: as) as'
  | recordRight {fan : String} {now : Timestamp} {value : Single}
      {as : List (ZoneAction World Probe Drive)} {as' : List (ZoneAction World' Probe Drive')}
      (h : ActionsMatch as as') : ActionsMatch as (.recordSpeed fan now value :: as')

namespace Zone

/-- Two zones that differ in their fans, and in earlier speeds unless those are said to be the same,
have commanded a speed, and have probes of a kind. -/
structure DifferInFans (sameSpeeds : Prop) (z : Zone Probe Drive) (z' : Zone Probe Drive') :
    Prop where
  basis_eq : z.basis = z'.basis
  commanded : z.lastSpeed.isSome
  watched : ∀ s ∈ z.sensors, watched s.probe
  speed_eq : sameSpeeds → z.speed = z'.speed

variable {P P' watched} {sameSpeeds : Prop} {z : Zone Probe Drive} {z' : Zone Probe Drive'}

namespace DifferInFans

theorem config_eq (h : DifferInFans watched sameSpeeds z z') : z.config = z'.config :=
  congrArg Basis.config h.basis_eq

theorem sensors_eq (h : DifferInFans watched sameSpeeds z z') : z.sensors = z'.sensors :=
  congrArg Basis.sensors h.basis_eq

theorem initialized_eq (h : DifferInFans watched sameSpeeds z z') :
    z.isInitialized = z'.isInitialized :=
  congrArg Basis.initialized h.basis_eq

theorem lastSpeed_eq (h : DifferInFans watched sameSpeeds z z') : z.lastSpeed = z'.lastSpeed :=
  congrArg Basis.lastSpeed h.basis_eq

theorem load (h : DifferInFans watched sameSpeeds z z') {m : Members Probe Drive}
    {m' : Members Probe Drive'} (hm : m.sensors = m'.sensors)
    (hwatched : ∀ s ∈ m.sensors, watched s.probe) :
    DifferInFans watched sameSpeeds (z.load m) (z'.load m') := by
  refine ⟨?_, h.commanded, ?_, h.speed_eq⟩
  · rw [basis_load, basis_load, h.config_eq, h.initialized_eq, h.sensors_eq, h.lastSpeed_eq, hm]
  · rw [sensors_load]
    split
    · exact h.watched
    · exact hwatched

theorem refresh (h : DifferInFans watched sameSpeeds z z') {w : World} {w' : World'}
    (hw : ShowAlike P P' watched w w') (now : Timestamp) :
    DifferInFans watched sameSpeeds (z.refresh P w now) (z'.refresh P' w' now) := by
  refine ⟨?_, h.commanded, ?_, h.speed_eq⟩
  · have hmap : z.sensors.map (Sensor.refresh P w now) =
        z'.sensors.map (Sensor.refresh P' w' now) := by
      rw [← h.sensors_eq]
      apply List.map_congr_left
      intro s hs
      rw [Sensor.refresh_eq, Sensor.refresh_eq, hw.read s.probe (h.watched s hs)]
    rw [basis_refresh, basis_refresh, h.basis_eq, hmap]
  · rw [sensors_refresh, List.forall_mem_map]
    intro s hs
    rw [Sensor.probe_refresh]
    exact h.watched s hs

theorem prepared (h : DifferInFans watched sameSpeeds z z') {w : World} {w' : World'}
    (hw : ShowAlike P P' watched w w') (now : Timestamp) {offered : Option (Members Probe Drive)}
    {offered' : Option (Members Probe Drive')}
    (hoffered : (offered.getD .empty).sensors = (offered'.getD .empty).sensors)
    (hwatched : ∀ s ∈ (offered.getD .empty).sensors, watched s.probe) (refresh : Bool) :
    DifferInFans watched sameSpeeds (z.prepared P w now offered refresh)
      (z'.prepared P' w' now offered' refresh) := by
  unfold Zone.prepared
  cases refresh with
  | false => exact h.load hoffered hwatched
  | true => exact (h.load hoffered hwatched).refresh hw now

/-- A zone that has commanded a speed does not look at its fans for one to start from. -/
theorem startingSpeed_eq (h : DifferInFans watched sameSpeeds z z') :
    z.startingSpeed = z'.startingSpeed := by
  obtain ⟨speed, hspeed⟩ := Option.isSome_iff_exists.1 h.commanded
  have hspeed' : z'.lastSpeed = some speed := h.lastSpeed_eq ▸ hspeed
  unfold startingSpeed
  rw [hspeed, hspeed', h.config_eq]
  rfl

theorem evaluate_eq (h : DifferInFans watched sameSpeeds z z') {w : World} {w' : World'}
    (hw : ShowAlike P P' watched w w') : z.evaluate P w = z'.evaluate P' w' := by
  have hreadings : z.sensors.map (Sensor.reading P w) = z'.sensors.map (Sensor.reading P' w') := by
    rw [← h.sensors_eq]
    apply List.map_congr_left
    intro s hs
    unfold Sensor.reading
    rw [hw.limits s.probe (h.watched s hs)]
  unfold evaluate
  rw [h.config_eq, hreadings]

/-- The fans are written, and their histories kept, after everything has been decided. -/
theorem conclude (h : DifferInFans watched sameSpeeds z z') {w : World} {w' : World'}
    (hw : ShowAlike P P' watched w w') (tick : Tick) (last : Single) :
    (z.conclude P w tick last).1.decision = (z'.conclude P' w' tick last).1.decision ∧
      DifferInFans watched sameSpeeds (z.conclude P w tick last).2.1
        (z'.conclude P' w' tick last).2.1 := by
  have hdecision :
      (z.conclude P w tick last).1.decision = (z'.conclude P' w' tick last).1.decision := by
    rw [decision_conclude, decision_conclude, h.evaluate_eq hw, h.config_eq]
  have hspeed : (z.conclude P w tick last).1.speed = (z'.conclude P' w' tick last).1.speed :=
    congrArg Decision.speed hdecision
  refine ⟨hdecision, ?_, ?_, h.watched, ?_⟩
  · rw [basis_conclude, basis_conclude, hdecision, h.config_eq, h.sensors_eq]
  · rw [lastSpeed_conclude]
    rfl
  · intro hsame
    rw [speed_conclude, speed_conclude, h.speed_eq hsame, hspeed]

theorem run (h : DifferInFans watched sameSpeeds z z') {w : World} {w' : World'}
    (hw : ShowAlike P P' watched w w') (tick : Tick) {offered : Option (Members Probe Drive)}
    {offered' : Option (Members Probe Drive')}
    (hoffered : (offered.getD .empty).sensors = (offered'.getD .empty).sensors)
    (hwatched : ∀ s ∈ (offered.getD .empty).sensors, watched s.probe) (refresh : Bool) :
    EndAlike
      (fun r r' => r.1.decision = r'.1.decision ∧ DifferInFans watched sameSpeeds r.2.1 r'.2.1)
      (z.run P w tick offered refresh) (z'.run P' w' tick offered' refresh) := by
  have hprepared := h.prepared hw tick.now hoffered hwatched refresh
  rw [run_eq, run_eq, hprepared.startingSpeed_eq]
  cases (z'.prepared P' w' tick.now offered' refresh).startingSpeed with
  | error b => exact .error b
  | ok last => exact .ok (hprepared.conclude hw tick last)

theorem reconfigure (h : DifferInFans watched sameSpeeds z z') (config : Config) :
    DifferInFans watched sameSpeeds (z.reconfigure config) (z'.reconfigure config) := by
  refine ⟨?_, ?_, ?_, ?_⟩
  · rw [basis_reconfigure, basis_reconfigure, h.basis_eq, h.config_eq, h.sensors_eq]
  · rw [lastSpeed_reconfigure]
    exact h.commanded
  · rw [sensors_reconfigure]
    split
    · exact h.watched
    · rw [List.forall_mem_map]
      exact h.watched
  · intro hsame
    rw [speed_reconfigure, speed_reconfigure, h.speed_eq hsame, h.config_eq]

theorem recordSpeed_left (h : DifferInFans watched sameSpeeds z z') (fan : String)
    (now : Timestamp) (value : Single) :
    DifferInFans watched sameSpeeds (z.recordSpeed fan now value) z' := by
  have hbasis := basis_recordSpeed z fan now value
  have hlast : (z.recordSpeed fan now value).lastSpeed = z.lastSpeed :=
    congrArg Basis.lastSpeed hbasis
  have hsensors : (z.recordSpeed fan now value).sensors = z.sensors :=
    congrArg Basis.sensors hbasis
  refine ⟨hbasis.trans h.basis_eq, hlast ▸ h.commanded, hsensors ▸ h.watched, fun hsame => ?_⟩
  rw [speed_recordSpeed, h.speed_eq hsame]

theorem recordSpeed_right (h : DifferInFans watched sameSpeeds z z') (fan : String)
    (now : Timestamp) (value : Single) :
    DifferInFans watched sameSpeeds z (z'.recordSpeed fan now value) := by
  refine ⟨h.basis_eq.trans (basis_recordSpeed z' fan now value).symm, h.commanded, h.watched,
    fun hsame => ?_⟩
  rw [speed_recordSpeed, h.speed_eq hsame]

end DifferInFans

/-! ## Any number of actions -/

/-- By induction on the actions: whatever was done so far, the zones differ in their fans only. -/
theorem actAll_endAlike (h : DifferInFans watched sameSpeeds z z')
    {as : List (ZoneAction World Probe Drive)} {as' : List (ZoneAction World' Probe Drive')}
    (has : ActionsMatch P P' watched as as') :
    EndAlike
      (fun r r' => r.1.map ZoneReport.decision = r'.1.map ZoneReport.decision ∧
        DifferInFans watched sameSpeeds r.2 r'.2)
      (z.actAll P as) (z'.actAll P' as') := by
  induction has generalizing z z' with
  | nil => exact .ok ⟨rfl, h⟩
  | run hw hoffered hwatched _ ih =>
    rw [actAll_run_cons, actAll_run_cons]
    refine (h.run hw _ hoffered hwatched _).bind ?_
    rintro ⟨report, z₁, w₁⟩ ⟨report', z₁', w₁'⟩ ⟨hdecision, h₁⟩
    refine (ih h₁).bind ?_
    rintro ⟨reports, z₂⟩ ⟨reports', z₂'⟩ ⟨hdecisions, h₂⟩
    refine .ok ⟨?_, h₂⟩
    rw [List.map_cons, List.map_cons, hdecision, hdecisions]
  | reconfigure _ ih =>
    rw [actAll_cons_of_silent P rfl, actAll_cons_of_silent P' rfl]
    exact ih (h.reconfigure _)
  | recordLeft _ ih =>
    rw [actAll_cons_of_silent P rfl]
    exact ih (h.recordSpeed_left _ _ _)
  | recordRight _ ih =>
    rw [actAll_cons_of_silent P' rfl]
    exact ih (h.recordSpeed_right _ _ _)

/-- Under valid configurations every tick comes to an end. -/
theorem exists_actAll_eq_ok (hc : z.config.Valid) {as : List (ZoneAction World Probe Drive)}
    (has : ∀ config, .reconfigure config ∈ as → config.Valid) : ∃ r, z.actAll P as = .ok r := by
  induction as generalizing z with
  | nil => exact ⟨_, rfl⟩
  | cons a as ih =>
    have has' : ∀ config, .reconfigure config ∈ as → config.Valid :=
      fun config h => has config (List.mem_cons_of_mem a h)
    cases a with
    | run w tick offered refresh =>
      obtain ⟨r, hrun, hconfig⟩ := exists_run_eq_ok P hc w tick offered refresh
      obtain ⟨rest, hrest⟩ := ih (z := r.2.1) (hconfig ▸ hc) has'
      refine ⟨(r.1 :: rest.1, rest.2), ?_⟩
      rw [actAll_run_cons, hrun]
      exact bind_eq_ok_iff.2 ⟨r, rfl, bind_eq_ok_iff.2 ⟨rest, hrest, rfl⟩⟩
    | reconfigure config =>
      rw [actAll_cons_of_silent P rfl]
      refine ih ?_ has'
      rw [config_reconfigure]
      exact has config List.mem_cons_self
    | recordSpeed fan now value =>
      have hconfig : (z.recordSpeed fan now value).config = z.config :=
        congrArg Basis.config (basis_recordSpeed z fan now value)
      rw [actAll_cons_of_silent P rfl]
      exact ih (hconfig ▸ hc) has'

/-- Two zones of one basis, with a speed commanded before, and the same ticks and configurations
for both: the decisions are the same, tick by tick, and so is the basis in the end, and so are the
speeds on record if they were the same before. No fan takes part in this, whatever fans there are,
whatever they show and whichever writes fail. Under valid configurations every tick comes to an
end. -/
theorem actAll_decisions (hbasis : z.basis = z'.basis) (hcommanded : z.lastSpeed.isSome)
    (hwatched : ∀ s ∈ z.sensors, watched s.probe) {as : List (ZoneAction World Probe Drive)}
    {as' : List (ZoneAction World' Probe Drive')} (has : ActionsMatch P P' watched as as') :
    ((z.actAll P as).map fun r => (r.1.map ZoneReport.decision, r.2.basis)) =
        ((z'.actAll P' as').map fun r => (r.1.map ZoneReport.decision, r.2.basis)) ∧
      (z.speed = z'.speed →
        ((z.actAll P as).map fun r => r.2.speed) = (z'.actAll P' as').map fun r => r.2.speed) ∧
      (z.config.Valid → (∀ config, .reconfigure config ∈ as → config.Valid) →
        ∃ r, z.actAll P as = .ok r) := by
  have hends := actAll_endAlike
    (⟨hbasis, hcommanded, hwatched, id⟩ : DifferInFans watched (z.speed = z'.speed) z z') has
  refine ⟨?_, ?_, ?_⟩
  · apply hends.map_eq
    rintro r r' ⟨hdecisions, hr⟩
    rw [hdecisions, hr.basis_eq]
  · intro hspeed
    apply hends.map_eq
    rintro r r' ⟨-, hr⟩
    exact hr.speed_eq hspeed
  · intro hc hconfigs
    exact exists_actAll_eq_ok hc hconfigs

end Zone

end Pairs

/-- A zone with a fan that can neither be read nor written and one that another program sets, and a
zone with a single sound fan: two ticks, with a higher floor and shorter histories in between. -/
theorem Zone.actAll_decisions_of_failing_fan :
    let limits : Limits := ⟨some (ofNat 95), some (ofNat 100), some (ofNat 70)⟩
    let sensors : List SimulatedSensor := [⟨"cpu", some (ofNat 80), limits⟩]
    let w : Machine :=
      { Machine.blank with
        bench := ⟨sensors, [⟨"fan1", none, [], true⟩, ⟨"fan2", some (ofNat 30), [], false⟩]⟩ }
    let w' : Machine :=
      { Machine.blank with bench := ⟨sensors, [⟨"fan", some (ofNat 90), [], false⟩]⟩ }
    let cpu : Sensor Probe := ⟨.simulated 0 "cpu", .empty "cpu" 10, false⟩
    let fan1 : Fan Drive := ⟨.simulated 0 "fan1", .empty "fan1" 10⟩
    let fan2 : Fan Drive := ⟨.simulated 1 "fan2", .empty "fan2" 10⟩
    let fan : Fan Drive := ⟨.simulated 0 "fan", .empty "fan" 10⟩
    let speed := (History.empty speedHistoryName 10).recordCommanded (ofNat 1) (ofNat 50)
    let z : Zone Probe Drive := ⟨"System", .default, speed, some ⟨[fan1, fan2], [cpu]⟩⟩
    let z' : Zone Probe Drive := ⟨"System", .default, speed, some ⟨[fan], [cpu]⟩⟩
    let config := { Config.default.withMinSpeed (ofNat 60) with historyCapacity := 3 }
    let minute : Duration := ⟨60000000000, by decide⟩
    let as : List (ZoneAction Machine Probe Drive) :=
      [.recordSpeed "fan2" (ofNat 2) (ofNat 99), .run w ⟨ofNat 60, minute⟩ none true,
        .reconfigure config, .run w ⟨ofNat 120, minute⟩ none true]
    let as' : List (ZoneAction Machine Probe Drive) :=
      [.run w' ⟨ofNat 60, minute⟩ none true, .reconfigure config,
        .recordSpeed "fan" (ofNat 90) .nan, .run w' ⟨ofNat 120, minute⟩ none true]
    let watched : Probe → Prop := fun p => p = .simulated 0 "cpu"
    (z.basis = z'.basis ∧ z.lastSpeed.isSome ∧ (∀ s ∈ z.sensors, watched s.probe) ∧
        ActionsMatch Machine.platform Machine.platform watched as as') ∧
      ((z.actAll Machine.platform as).map fun r =>
          (r.1.map ZoneReport.decision, r.2.basis)) =
        ((z'.actAll Machine.platform as').map fun r =>
          (r.1.map ZoneReport.decision, r.2.basis)) ∧
      ((z.actAll Machine.platform as).map fun r => r.2.speed) =
        ((z'.actAll Machine.platform as').map fun r => r.2.speed) ∧
      ∃ r, z.actAll Machine.platform as = .ok r := by
  intro limits sensors w w' cpu fan1 fan2 fan speed z z' config minute as as' watched
  have hshow : ShowAlike Machine.platform Machine.platform watched w w' := by
    constructor <;> (rintro p rfl; rfl)
  have hnone : ∀ s ∈ ((none : Option (Members Probe Drive)).getD .empty).sensors,
      watched s.probe :=
    List.forall_mem_nil _
  have hwatched : ∀ s ∈ z.sensors, watched s.probe := List.forall_mem_singleton.2 rfl
  have hmatch : ActionsMatch Machine.platform Machine.platform watched as as' :=
    .recordLeft (.run hshow rfl hnone (.reconfigure (.recordRight (.run hshow rfl hnone .nil))))
  have hconfigs : ∀ c, .reconfigure c ∈ as → c.Valid := by
    intro c hc
    have hconfig : c = config := by simpa [as] using hc
    rw [hconfig]
    constructor <;> decide +kernel
  have hvalid : z.config.Valid := Config.validate_eq_ok_iff.1 Config.validate_default
  have hbasis : z.basis = z'.basis := rfl
  have hcommanded : z.lastSpeed.isSome := rfl
  obtain ⟨hsame, hspeeds, hends⟩ := actAll_decisions hbasis hcommanded hwatched hmatch
  exact ⟨⟨hbasis, hcommanded, hwatched, hmatch⟩, hsame, hspeeds rfl, hends hvalid hconfigs⟩

end ChassisCooling
