import ChassisCooling.Machine.Basic
import ChassisCooling.Proofs.Control.Alike
import ChassisCooling.Proofs.Control.System

/-!
# The capacity of histories is of no consequence

Two controllers that are made for configurations with different capacities, and are handed members
and configurations with different capacities later on, report the same ticks, ask the platform for
the same, and show the same values. The only way to tell them apart is a configuration that is
refused for its capacity, and so not taken by one of the two.

* `Operation.Alike`: operations that differ in capacities at most.
* `Controller.Alike`, `System.Alike`: the invariant.
* `System.Alike.step`: one operation for each of two systems.
* `System.run_showsAlike`: runs of two new controllers.
* `System.run_differs_of_refused_capacity`: a capacity that is refused.
-/

namespace ChassisCooling

open Binary

section Runs

variable {World Probe Drive Outlet : Type} {P : Platform World Probe Drive Outlet}

/-! ## Operations -/

/-- Options of one kind for two ticks, with alike members. -/
structure TickOptions.Alike (options options' : TickOptions Probe Drive) : Prop where
  refresh : options.refresh = options'.refresh
  elapsed : options.elapsed = options'.elapsed
  members : List.Forall₂ (fun entry entry' => entry.1 = entry'.1 ∧ entry.2.Alike entry'.2)
    options.members options'.members

/-- The same operation, but for capacities: of the members that it brings, and of a configuration
that is taken, or not taken, in both cases. -/
inductive Operation.Alike :
    Operation World Probe Drive Outlet → Operation World Probe Drive Outlet → Prop where
  | change (world : World) : Alike (.change world) (.change world)
  | tick (now : Timestamp) {options options' : TickOptions Probe Drive}
      (h : options.Alike options') : Alike (.tick now options) (.tick now options')
  | load (zone : String) {members members' : Members Probe Drive} (h : members.Alike members') :
      Alike (.load zone members) (.load zone members')
  | reconfigure {config config' : Config} (h : config.SameButCapacity config')
      (haccepted : config.validate = .ok () ↔ config'.validate = .ok ()) :
      Alike (.reconfigure config) (.reconfigure config')
  | withOutlet (outlet : Outlet) : Alike (.withOutlet outlet) (.withOutlet outlet)
  | recordTemperature (sensor : String) (now : Timestamp) (value : Single) :
      Alike (.recordTemperature sensor now value) (.recordTemperature sensor now value)
  | recordSpeed (fan : String) (now : Timestamp) (value : Single) :
      Alike (.recordSpeed fan now value) (.recordSpeed fan now value)

/-- The same answer; what a refusal says may tell of different capacities. -/
inductive Outcome.Alike : Outcome → Outcome → Prop where
  | same (outcome : Outcome) : Alike outcome outcome
  | refused (e e' : Error) : Alike (.refused e) (.refused e')

theorem Outcome.Alike.found {known known' : Bool} (h : known = known') :
    Alike (.found known) (.found known') := by
  rw [h]
  exact .same _

theorem TickOptions.Alike.offered {options options' : TickOptions Probe Drive}
    (h : options.Alike options') (zone : String) :
    ((options.members.lookup zone).getD .empty).Alike
      ((options'.members.lookup zone).getD .empty) := by
  obtain ⟨members, refresh, elapsed⟩ := options
  obtain ⟨members', refresh', elapsed'⟩ := options'
  obtain ⟨-, -, hmembers⟩ := h
  simp only at hmembers ⊢
  induction hmembers with
  | nil => exact .empty
  | @cons entry entry' members members' hentry _ ih =>
    rw [List.lookup_cons, List.lookup_cons, ← hentry.1]
    split
    · exact hentry.2
    · exact ih

/-! ## Controllers -/

/-- Controllers whose configurations and histories differ in capacities at most. -/
structure Controller.Alike (c c' : Controller Probe Drive Outlet) : Prop where
  valid : c.config.Valid
  config : c.config.SameButCapacity c'.config
  zoneConfig : c.zone.config = c.config
  zoneConfig' : c'.zone.config = c'.config
  lastTick : c.lastTick = c'.lastTick
  tickedAt : c.tickedAt = c'.tickedAt
  elapsed : c.elapsed = c'.elapsed
  destination : c.destination = c'.destination
  zone : c.zone.Alike c'.zone

namespace Controller

/-- New controllers. -/
theorem alike_create {config : Config} {capacity : Nat} {c c' : Controller Probe Drive Outlet}
    (h : create config = .ok c)
    (h' : create { config with historyCapacity := capacity } = .ok c') : c.Alike c' := by
  obtain ⟨hvalid, -, elapsed, helapsed, rfl⟩ := create_eq_ok_iff.1 h
  obtain ⟨-, -, elapsed', helapsed', rfl⟩ := create_eq_ok_iff.1 h'
  obtain rfl := Except.ok.inj (helapsed.symm.trans helapsed')
  exact
    { valid := hvalid
      config := rfl
      zoneConfig := rfl
      zoneConfig' := rfl
      lastTick := rfl
      tickedAt := rfl
      elapsed := rfl
      destination := rfl
      zone := ⟨rfl, .empty Zone.speedHistoryName _ _, .none⟩ }

/-- A controller can be made with any other capacity for which there is room. -/
theorem create_withCapacity {config : Config} {c : Controller Probe Drive Outlet}
    (h : create config = .ok c) {capacity : Nat} (hmin : minHistoryCapacity ≤ capacity)
    (hroom : History.reservable capacity) :
    (create { config with historyCapacity := capacity } :
        Except Refusal (Controller Probe Drive Outlet)) =
      .ok
        { c with
          config := { config with historyCapacity := capacity }
          zone := ⟨systemZone, { config with historyCapacity := capacity },
            .empty Zone.speedHistoryName capacity, none⟩ } := by
  obtain ⟨hvalid, -, elapsed, helapsed, rfl⟩ := create_eq_ok_iff.1 h
  exact create_eq_ok_iff.2 ⟨hvalid.withCapacity hmin, hroom, elapsed, helapsed, rfl⟩

namespace Alike

variable {c c' : Controller Probe Drive Outlet}

theorem zone_sameButCapacity (h : c.Alike c') :
    c.zone.config.SameButCapacity c'.zone.config := by
  rw [h.zoneConfig, h.zoneConfig']
  exact h.config

theorem withZone (h : c.Alike c') {t t' : Zone Probe Drive} (ht : t.Alike t')
    (hconfig : t.config = c.zone.config) (hconfig' : t'.config = c'.zone.config) :
    Alike { c with zone := t } { c' with zone := t' } :=
  { h with
    zone := ht
    zoneConfig := hconfig.trans h.zoneConfig
    zoneConfig' := hconfig'.trans h.zoneConfig' }

theorem withOutlet (h : c.Alike c') (outlet : Outlet) :
    (c.withOutlet outlet).Alike (c'.withOutlet outlet) :=
  { h with destination := rfl }

theorem load (h : c.Alike c') (zone : String) {m m' : Members Probe Drive} (hm : m.Alike m') :
    (c.load zone m).1 = (c'.load zone m').1 ∧ (c.load zone m).2.Alike (c'.load zone m').2 := by
  unfold Controller.load
  rw [h.zone.name]
  split
  · exact ⟨rfl, h.withZone (h.zone.load hm) rfl rfl⟩
  · exact ⟨rfl, h⟩

theorem recordTemperature (h : c.Alike c') (sensor : String) (now : Timestamp) (value : Single) :
    (c.recordTemperature sensor now value).1 = (c'.recordTemperature sensor now value).1 ∧
      (c.recordTemperature sensor now value).2.Alike
        (c'.recordTemperature sensor now value).2 := by
  have hzone := h.zone.changeSensor sensor (fun s => ((), s.record now value))
    fun _ _ hs => hs.record now value
  unfold Controller.recordTemperature
  generalize c.zone.changeSensor sensor _ = r, c'.zone.changeSensor sensor _ = r' at hzone
  cases hzone with
  | none => exact ⟨rfl, h⟩
  | some hr => exact ⟨rfl, h.withZone hr.1 hr.2.1 hr.2.2⟩

theorem recordSpeed (h : c.Alike c') (fan : String) (now : Timestamp) (value : Single) :
    (c.recordSpeed fan now value).1 = (c'.recordSpeed fan now value).1 ∧
      (c.recordSpeed fan now value).2.Alike (c'.recordSpeed fan now value).2 := by
  have hzone := h.zone.changeFan fan (fun f => ((), f.record now value))
    fun _ _ hf => hf.record now value
  unfold Controller.recordSpeed
  generalize c.zone.changeFan fan _ = r, c'.zone.changeFan fan _ = r' at hzone
  cases hzone with
  | none => exact ⟨rfl, h⟩
  | some hr => exact ⟨rfl, h.withZone hr.1 hr.2.1 hr.2.2⟩

/-- Configurations that are both accepted, or both refused. -/
theorem reconfigure (h : c.Alike c') {config config' : Config}
    (hconfig : config.SameButCapacity config')
    (haccepted : config.validate = .ok () ↔ config'.validate = .ok ()) :
    (∃ d d', c.reconfigure config = .ok d ∧ c'.reconfigure config' = .ok d' ∧ d.Alike d') ∨
      ∃ e e', c.reconfigure config = .error e ∧ c'.reconfigure config' = .error e' := by
  unfold Controller.reconfigure
  cases hvalidate : config.validate with
  | ok u =>
    have hvalidate' := haccepted.1 hvalidate
    rw [hvalidate']
    refine .inl ⟨_, _, rfl, rfl, ?_⟩
    exact
      { valid := Config.validate_eq_ok_iff.1 hvalidate
        config := hconfig
        zoneConfig := Zone.config_reconfigure c.zone config
        zoneConfig' := Zone.config_reconfigure c'.zone config'
        lastTick := h.lastTick
        tickedAt := h.tickedAt
        elapsed := h.elapsed
        destination := by rw [h.destination, hconfig]; rfl
        zone := h.zone.reconfigure config config' }
  | error e =>
    cases hvalidate' : config'.validate with
    | ok u =>
      rw [haccepted.2 hvalidate'] at hvalidate
      cases hvalidate
    | error e' => exact .inr ⟨e, e', rfl, rfl⟩

theorem elapsedAt_eq (h : c.Alike c') (now : Timestamp) : c.elapsedAt now = c'.elapsedAt now := by
  unfold elapsedAt
  rw [h.lastTick, h.config]

theorem exportRows_eq (h : c.Alike c') (w : World) : c.exportRows P w = c'.exportRows P w := by
  unfold exportRows
  rw [h.config, h.destination, h.zone.name, h.zone.exportRows_eq]

theorem concludeTick (h : c.Alike c') {t t' : Zone Probe Drive} (ht : t.Alike t')
    (hconfig : t.config = c.zone.config) (hconfig' : t'.config = c'.zone.config) (w : World)
    (now : Timestamp) (elapsed : Duration) (report : ZoneReport) :
    (c.concludeTick P w now elapsed report t).2.1.Alike
        (c'.concludeTick P w now elapsed report t').2.1 ∧
      (c.concludeTick P w now elapsed report t).2.2 =
        (c'.concludeTick P w now elapsed report t').2.2 := by
  have halike : (c.concludeTick P w now elapsed report t).2.1.Alike
      (c'.concludeTick P w now elapsed report t').2.1 :=
    { h.withZone ht hconfig hconfig' with
      lastTick := rfl
      tickedAt := rfl
      elapsed := rfl }
  exact ⟨halike, halike.exportRows_eq w⟩

/-- One tick of each of two controllers. -/
theorem tick (h : c.Alike c') {options options' : TickOptions Probe Drive}
    (hoptions : options.Alike options') (w : World) (now : Timestamp) :
    ∃ report d d' w', c.tick P w now options = .ok (report, d, w') ∧
      c'.tick P w now options' = .ok (report, d', w') ∧ d.Alike d' := by
  have hvalid : c.zone.config.Valid := h.zoneConfig ▸ h.valid
  have helapsed : options'.elapsed.getD (c'.elapsedAt now) =
      options.elapsed.getD (c.elapsedAt now) := by
    rw [hoptions.elapsed, h.elapsedAt_eq]
  obtain ⟨report, t, t', w', hrun, hrun', hzone, hconfig, hconfig'⟩ :=
    h.zone.run (P := P) h.zone_sameButCapacity hvalid (hoptions.offered c.zone.name) w
      ⟨now, options.elapsed.getD (c.elapsedAt now)⟩ options.refresh
  have htick := tick_eq P c w now options
  have htick' := tick_eq P c' w now options'
  rw [hrun] at htick
  rw [helapsed, ← h.zone.name, ← hoptions.refresh, hrun'] at htick'
  obtain ⟨halike, hw⟩ := h.concludeTick (P := P) hzone hconfig hconfig' w' now
    (options.elapsed.getD (c.elapsedAt now)) report
  refine ⟨_, _, _, _, htick, htick'.trans ?_, halike⟩
  exact congrArg Except.ok (Prod.ext rfl (Prod.ext rfl hw.symm))

end Alike

end Controller

/-! ## Runs -/

/-- Alike controllers in one world. -/
structure System.Alike (s s' : System World Probe Drive Outlet) : Prop where
  controller : s.controller.Alike s'.controller
  world : s.world = s'.world

/-- Alike operations with the same answer, which asked the platform for the same, left one world,
and left zones of which the same can be seen. -/
structure Event.ShowsAlike (e e' : Event World Probe Drive Outlet) : Prop where
  operation : e.operation.Alike e'.operation
  outcome : e.outcome.Alike e'.outcome
  log : e.log = e'.log
  world : e.after.world = e'.after.world
  zone : e.after.controller.zone.ShowsAlike e'.after.controller.zone

namespace System

variable {s s' : System World Probe Drive Outlet}

theorem Alike.step (h : s.Alike s') {op op' : Operation World Probe Drive Outlet}
    (hop : op.Alike op') :
    ∃ outcome outcome' t t' log, s.step P op = .ok (outcome, t, log) ∧
      s'.step P op' = .ok (outcome', t', log) ∧ outcome.Alike outcome' ∧ t.Alike t' := by
  obtain ⟨hc, hw⟩ := h
  cases hop with
  | change world => exact ⟨_, _, _, _, _, rfl, rfl, .same _, hc, rfl⟩
  | tick now hoptions =>
    obtain ⟨report, d, d', ⟨w, log⟩, htick, htick', hd⟩ :=
      hc.tick (P := P.logged) hoptions (s.world, .empty) now
    rw [hw] at htick'
    exact ⟨_, _, _, _, _, step_tick_eq_ok htick, step_tick_eq_ok htick', .same _, hd, rfl⟩
  | load zone hm =>
    obtain ⟨hknown, hd⟩ := hc.load zone hm
    exact ⟨_, _, _, _, _, rfl, rfl, .found hknown, hd, hw⟩
  | reconfigure hconfig haccepted =>
    rcases hc.reconfigure hconfig haccepted with ⟨d, d', hd, hd', halike⟩ | ⟨e, e', he, he'⟩
    · refine ⟨.none, .none, ⟨d, s.world⟩, ⟨d', s'.world⟩, .empty, ?_, ?_, .same _, halike, hw⟩
      · simp only [System.step, hd]
      · simp only [System.step, hd']
    · refine ⟨.refused e, .refused e', s, s', .empty, ?_, ?_, .refused e e', hc, hw⟩
      · simp only [System.step, he]
      · simp only [System.step, he']
  | withOutlet outlet =>
    exact ⟨_, _, _, _, _, rfl, rfl, .same _, hc.withOutlet outlet, hw⟩
  | recordTemperature sensor now value =>
    obtain ⟨hknown, hd⟩ := hc.recordTemperature sensor now value
    exact ⟨_, _, _, _, _, rfl, rfl, .found hknown, hd, hw⟩
  | recordSpeed fan now value =>
    obtain ⟨hknown, hd⟩ := hc.recordSpeed fan now value
    exact ⟨_, _, _, _, _, rfl, rfl, .found hknown, hd, hw⟩

theorem Alike.run (h : s.Alike s') {ops ops' : List (Operation World Probe Drive Outlet)}
    (hops : List.Forall₂ Operation.Alike ops ops') :
    ∃ events events', s.run P ops = .ok events ∧ s'.run P ops' = .ok events' ∧
      List.Forall₂ Event.ShowsAlike events events' := by
  -- By induction on the operations, for all systems that are alike.
  induction hops generalizing s s' with
  | nil => exact ⟨[], [], rfl, rfl, .nil⟩
  | cons hop _ ih =>
    obtain ⟨outcome, outcome', t, t', log, hstep, hstep', houtcome, ht⟩ := h.step (P := P) hop
    obtain ⟨events, events', hrun, hrun', hevents⟩ := ih ht
    refine ⟨_, _, run_cons_eq_ok hstep hrun, run_cons_eq_ok hstep' hrun', .cons ?_ hevents⟩
    exact
      { operation := hop
        outcome := houtcome
        log := rfl
        world := ht.world
        zone := ht.controller.zone.showsAlike }

/-- Two new controllers whose configurations differ in the capacity of histories at most, in one
world, and operations that differ in capacities at most, where configurations are taken by both or
by neither: every operation comes to an end in both, with the same answer, the same commands and the
same deliveries, and the same can be seen of both, but for how far histories reach back. -/
theorem run_showsAlike {config : Config} {capacity : Nat} {c c' : Controller Probe Drive Outlet}
    (h : Controller.create config = .ok c)
    (h' : Controller.create { config with historyCapacity := capacity } = .ok c') (w : World)
    {ops ops' : List (Operation World Probe Drive Outlet)}
    (hops : List.Forall₂ Operation.Alike ops ops') :
    ∃ events events', (System.mk c w).run P ops = .ok events ∧
      (System.mk c' w).run P ops' = .ok events' ∧
      List.Forall₂ Event.ShowsAlike events events' := by
  have hsystems : (System.mk c w).Alike (System.mk c' w) := ⟨Controller.alike_create h h', rfl⟩
  exact hsystems.run hops

end System

end Runs

/-- Capacities of 10 and 4 to start with, of 10 and 3 for the members, and of 3 and 20 later on. -/
theorem System.run_showsAlike_of_growing :
    let limits : Limits := ⟨some (ofNat 95), some (ofNat 100), some (ofNat 70)⟩
    let bench : Bench :=
      ⟨[⟨"cpu", some (ofNat 80), limits⟩], [⟨"fan1", some (ofNat 50), [], false⟩]⟩
    let w : Machine := { Machine.blank with bench }
    let members (capacity : Nat) : Members Probe Drive :=
      ⟨[⟨.simulated 0 "fan1", .empty "fan1" capacity⟩],
        [⟨.simulated 0 "cpu", .empty "cpu" capacity, false⟩]⟩
    let config (capacity : Nat) := { Config.default with historyCapacity := capacity }
    let ops (asked later : Nat) : List (Operation Machine Probe Drive Recorder) :=
      [.load "System" (members asked), .tick (ofNat 0) { refresh := true },
        .recordSpeed "fan1" (ofNat 1) (ofNat 70), .reconfigure (config later),
        .tick (ofNat 60) { refresh := true }]
    ∃ c c' : Controller Probe Drive Recorder,
      Controller.create Config.default = .ok c ∧ Controller.create (config 4) = .ok c' ∧
      List.Forall₂ Operation.Alike (ops 10 3) (ops 3 20) ∧
      ∃ events events', (System.mk c w).run Machine.platform (ops 10 3) = .ok events ∧
        (System.mk c' w).run Machine.platform (ops 3 20) = .ok events' ∧
        List.Forall₂ Event.ShowsAlike events events' := by
  intro limits bench w members config ops
  obtain ⟨c, hc⟩ : ∃ c : Controller Probe Drive Recorder,
      Controller.create Config.default = .ok c :=
    ⟨_, Controller.create_default⟩
  obtain ⟨c', hc'⟩ : ∃ c' : Controller Probe Drive Recorder,
      Controller.create (config 4) = .ok c' :=
    ⟨_, Controller.create_withCapacity hc (by decide) (by decide)⟩
  have hwrap : Members.wrap Machine.platform 10 [.simulated 0 "fan1"] [.simulated 0 "cpu"] =
      .ok (members 10) :=
    rfl
  have hwrap' : Members.wrap Machine.platform 3 [.simulated 0 "fan1"] [.simulated 0 "cpu"] =
      .ok (members 3) :=
    rfl
  have hmembers : (members 10).Alike (members 3) := .wrap hwrap hwrap'
  have hvalid : ∀ n, minHistoryCapacity ≤ n → (config n).validate = .ok () := by
    intro n hn
    rw [Config.validate_eq_ok_iff]
    exact (Config.validate_eq_ok_iff.1 Config.validate_default).withCapacity hn
  have haccepted := iff_of_true (hvalid 3 (by decide)) (hvalid 20 (by decide))
  have hops : List.Forall₂ Operation.Alike (ops 10 3) (ops 3 20) :=
    .cons (.load "System" hmembers) (.cons (.tick (ofNat 0) ⟨rfl, rfl, .nil⟩)
      (.cons (.recordSpeed "fan1" (ofNat 1) (ofNat 70))
        (.cons (.reconfigure (Config.sameButCapacity .default 3 20) haccepted)
          (.cons (.tick (ofNat 60) ⟨rfl, rfl, .nil⟩) .nil))))
  exact ⟨c, c', hc, hc', hops, run_showsAlike hc hc' w hops⟩

/-- Two controllers of capacities 20 and 10, and then a configuration with a higher floor, once with
the capacity 10 and once with the capacity 1. The second one is refused, so the second controller
keeps its old floor. -/
theorem System.run_differs_of_refused_capacity :
    let limits : Limits := ⟨some (ofNat 95), some (ofNat 100), some (ofNat 70)⟩
    let bench : Bench :=
      ⟨[⟨"cpu", some (ofNat 20), limits⟩], [⟨"fan1", some (ofNat 50), [], false⟩]⟩
    let w : Machine := { Machine.blank with bench }
    let members : Members Probe Drive :=
      ⟨[⟨.simulated 0 "fan1", .empty "fan1" 10⟩], [⟨.simulated 0 "cpu", .empty "cpu" 10, false⟩]⟩
    let config (capacity : Nat) := { Config.default with historyCapacity := capacity }
    let raised (capacity : Nat) : Config :=
      { Config.default.withMinSpeed (ofNat 60) with historyCapacity := capacity }
    let ops (capacity : Nat) : List (Operation Machine Probe Drive Recorder) :=
      [.load "System" members, .tick (ofNat 0) { refresh := true }, .reconfigure (raised capacity),
        .tick (ofNat 60) { refresh := true }]
    let speeds (c : Controller Probe Drive Recorder) (capacity : Nat) : Option (List Single) :=
      ((System.mk c w).run Machine.platform (ops capacity)).toOption.map fun events =>
        events.filterMap fun e => e.outcome.report?.map fun report => report.zone.speed
    (raised 10).SameButCapacity (raised 1) ∧
      ∃ c c' : Controller Probe Drive Recorder,
        Controller.create (config 20) = .ok c ∧ Controller.create (config 10) = .ok c' ∧
        speeds c 10 = some [ofNat 40, ofNat 60] ∧ speeds c' 1 = some [ofNat 40, ofNat 30] := by
  intro limits bench w members config raised ops speeds
  refine ⟨Config.sameButCapacity (Config.default.withMinSpeed (ofNat 60)) 10 1, _, _,
    Controller.create_withCapacity Controller.create_default (by decide) (by decide),
    Controller.create_withCapacity Controller.create_default (by decide) (by decide), ?_, ?_⟩
  all_goals decide +kernel

end ChassisCooling
