import ChassisCooling.Proofs.Control.Membership
import ChassisCooling.Proofs.Control.Reconfigure
import ChassisCooling.Proofs.Control.Routing

/-!
# Exports have no say

Two controllers on the same clock and hardware, whose configurations differ in where rows go and in
targets for sensors that they do not have, control alike. It does not matter whether rows are handed
out at all, to which outlets or directories, or what comes of it, as long as whatever takes the rows
keeps away from the hardware.

* `Routing`: what decides where rows go, at some point of a run.
* `Paired`: the same accesses for both controllers but for what concerns exports.
* `System.Agree`: the invariant, kept by `Agree.tick` and the lemmas beside it.
* `ControlView`: what can be seen of control; `System.controls_alike`: the main result.
-/

namespace ChassisCooling

open Binary

section Exports

variable {World World' Probe Drive Outlet Outlet' : Type}
  {P : Platform World Probe Drive Outlet} {P' : Platform World' Probe Drive Outlet'}
  {S : Scope Probe Drive} {R : World → World' → Prop}

/-! ## What may differ -/

/-- What decides where rows go: the configuration in force and the outlet that was supplied last. -/
structure Routing (Outlet : Type) where
  config : Config
  outlet : Option Outlet

namespace Routing

def route (x : Routing Outlet) : Option (Destination Outlet) := x.config.route x.outlet

/-- After a configuration was offered, which comes into force if it passes its checks. -/
def offered (x : Routing Outlet) (config : Config) : Routing Outlet :=
  if config.validate.isOk then { x with config } else x

theorem offered_of_valid {config : Config} (h : config.Valid) (x : Routing Outlet) :
    x.offered config = { x with config } := by
  unfold offered
  rw [Config.validate_eq_ok_iff.2 h]
  rfl

/-- After an access. -/
def after (x : Routing Outlet) : Access World Probe Drive Outlet → Routing Outlet
  | .operate (.reconfigure config) => x.offered config
  | .operate (.withOutlet outlet) => { x with outlet := some outlet }
  | _ => x

theorem after_operate (x : Routing Outlet) (op : Operation World Probe Drive Outlet) :
    x.after (.operate op) = ⟨op.accepted?.getD x.config, op.outlet?.or x.outlet⟩ := by
  cases op with
  | reconfigure config =>
    show x.offered config = ⟨Option.getD (if config.validate.isOk then some config else none) _, _⟩
    unfold offered
    split <;> rfl
  | change | tick | load | withOutlet | recordTemperature | recordSpeed => rfl

end Routing

/-- Whatever takes rows at a destination keeps away from what a relation between worlds is about. -/
def Platform.HarmlessAt (P : Platform World Probe Drive Outlet) (R : World → World' → Prop)
    (d : Destination Outlet) : Prop :=
  ∀ zone rows w w', R w w' → R (P.deliver d zone rows w).2 w'

theorem Platform.HarmlessAt.flip {R : World → World → Prop} {d : Destination Outlet}
    (h : P.HarmlessAt R d) (hsymm : ∀ w w', R w w' → R w' w) : P.HarmlessAt (flip R) d :=
  fun zone rows w w' hw => hsymm _ _ (h zone rows w w' (hsymm _ _ hw))

section Pairs

variable (P : Platform World Probe Drive Outlet) (P' : Platform World' Probe Drive Outlet')
  (S : Scope Probe Drive) (R : World → World' → Prop)

/-- The same access to two controllers. The rows of a tick go where they do no harm; configurations
may differ, but what is in force then agrees on control; and when the worlds change by themselves,
they stay related. -/
inductive Corresponds (x : Routing Outlet) (x' : Routing Outlet') :
    Access World Probe Drive Outlet → Access World' Probe Drive Outlet' → Prop where
  | tick (now : Timestamp) (options : TickOptions Probe Drive)
      (hd : ∀ d ∈ x.route, P.HarmlessAt R d) (hd' : ∀ d ∈ x'.route, P'.HarmlessAt (flip R) d) :
      Corresponds x x' (.operate (.tick now options)) (.operate (.tick now options))
  | runZone (tick : Tick) (offered : Option (Members Probe Drive)) (refresh : Bool) :
      Corresponds x x' (.runZone tick offered refresh) (.runZone tick offered refresh)
  | load (zone : String) (members : Members Probe Drive) :
      Corresponds x x' (.operate (.load zone members)) (.operate (.load zone members))
  | reconfigure (config config' : Config)
      (h : (x.offered config).config.SameControl S.names (x'.offered config').config) :
      Corresponds x x' (.operate (.reconfigure config)) (.operate (.reconfigure config'))
  | recordTemperature (sensor : String) (now : Timestamp) (value : Single) :
      Corresponds x x' (.operate (.recordTemperature sensor now value))
        (.operate (.recordTemperature sensor now value))
  | recordSpeed (fan : String) (now : Timestamp) (value : Single) :
      Corresponds x x' (.operate (.recordSpeed fan now value))
        (.operate (.recordSpeed fan now value))
  | change {w : World} {w' : World'} (hw : R w w') :
      Corresponds x x' (.operate (.change w)) (.operate (.change w'))

/-- The same accesses to two controllers, except that outlets may be supplied to either at any
time. -/
inductive Paired : Routing Outlet → Routing Outlet' → List (Access World Probe Drive Outlet) →
    List (Access World' Probe Drive Outlet') → Prop where
  | nil {x : Routing Outlet} {x' : Routing Outlet'} : Paired x x' [] []
  | both {x : Routing Outlet} {x' : Routing Outlet'} {a : Access World Probe Drive Outlet}
      {a' : Access World' Probe Drive Outlet'} {as : List (Access World Probe Drive Outlet)}
      {as' : List (Access World' Probe Drive Outlet')} (ha : Corresponds P P' S R x x' a a')
      (h : Paired (x.after a) (x'.after a') as as') : Paired x x' (a :: as) (a' :: as')
  | supplyLeft {x : Routing Outlet} {x' : Routing Outlet'} {outlet : Outlet}
      {as : List (Access World Probe Drive Outlet)} {as' : List (Access World' Probe Drive Outlet')}
      (h : Paired { x with outlet := some outlet } x' as as') :
      Paired x x' (.operate (.withOutlet outlet) :: as) as'
  | supplyRight {x : Routing Outlet} {x' : Routing Outlet'} {outlet : Outlet'}
      {as : List (Access World Probe Drive Outlet)} {as' : List (Access World' Probe Drive Outlet')}
      (h : Paired x { x' with outlet := some outlet } as as') :
      Paired x x' as (.operate (.withOutlet outlet) :: as')

end Pairs

/-- A tick at some time with some options. -/
def Access.ofTick (t : Timestamp × TickOptions Probe Drive) : Access World Probe Drive Outlet :=
  .operate (.tick t.1 t.2)

/-- Ticks of which the rows always go where they do no harm. -/
theorem Paired.ticks {x : Routing Outlet} {x' : Routing Outlet'}
    (hd : ∀ d ∈ x.route, P.HarmlessAt R d) (hd' : ∀ d ∈ x'.route, P'.HarmlessAt (flip R) d)
    (ticks : List (Timestamp × TickOptions Probe Drive)) :
    Paired P P' S R x x' (ticks.map Access.ofTick) (ticks.map Access.ofTick) := by
  induction ticks with
  | nil => exact .nil
  | cons t ticks ih => exact .both (.tick t.1 t.2 hd hd') ih

/-! ## What can be seen -/

/-- What can be seen of control after an access: the report and the writes of a tick, the times, and
the zone with all its histories. -/
structure ControlView (Probe Drive : Type) where
  report : Option TickReport
  writes : List (Drive × Single)
  lastTick : Option Timestamp
  tickedAt : Option Timestamp
  elapsed : Duration
  name : String
  speed : History
  members : Option (Members Probe Drive)

/-- The view after an access that answers an outcome and asks the platform for what is logged. -/
def System.view (s : System World Probe Drive Outlet) (outcome : Outcome)
    (log : Log Drive Outlet) : ControlView Probe Drive :=
  ⟨outcome.report?, log.commands, s.controller.lastTick, s.controller.tickedAt,
    s.controller.elapsed, s.controller.zone.name, s.controller.zone.speed,
    s.controller.zone.members⟩

/-- The view after an access, unless that only supplied an outlet. -/
def AccessEvent.view? (e : AccessEvent World Probe Drive Outlet) :
    Option (ControlView Probe Drive) :=
  match e.access with
  | .operate (.withOutlet _) => none
  | _ => some (e.after.view e.outcome e.log)

/-! ## The invariant -/

/-- Two systems that agree on everything but exports. -/
structure System.Agree (S : Scope Probe Drive) (R : World → World' → Prop)
    (s : System World Probe Drive Outlet) (s' : System World' Probe Drive Outlet') : Prop where
  zone : s.controller.zone.Agree S s'.controller.zone
  config : s.controller.config.SameControl S.names s'.controller.config
  lastTick : s.controller.lastTick = s'.controller.lastTick
  tickedAt : s.controller.tickedAt = s'.controller.tickedAt
  elapsed : s.controller.elapsed = s'.controller.elapsed
  world : R s.world s'.world

namespace Controller.Routed

variable {c : Controller Probe Drive Outlet} {x : Routing Outlet}

/-- Rows that are handed out where it does no harm. -/
theorem exportRows (hc : c.Routed x.config x.outlet) (hd : ∀ d ∈ x.route, P.HarmlessAt R d)
    {w : World} {w' : World'} (hw : R w w') : R (c.exportRows P w) w' := by
  rw [exportRows_eq_foldl, hc.deliveries_eq]
  cases hroute : x.config.route x.outlet with
  | none => exact hw
  | some d => exact hd d hroute _ _ w w' hw

theorem exportRows_both {c' : Controller Probe Drive Outlet'} {x' : Routing Outlet'}
    (hc : c.Routed x.config x.outlet) (hc' : c'.Routed x'.config x'.outlet)
    (hd : ∀ d ∈ x.route, P.HarmlessAt R d) (hd' : ∀ d ∈ x'.route, P'.HarmlessAt (flip R) d)
    {w : World} {w' : World'} (hw : R w w') : R (c.exportRows P w) (c'.exportRows P' w') :=
  hc'.exportRows (R := flip R) hd' (hc.exportRows (R := R) hd hw)

end Controller.Routed

namespace System.Agree

variable {s s₁ : System World Probe Drive Outlet} {s' s₁' : System World' Probe Drive Outlet'}
  {outcome outcome' : Outcome} {log : Log Drive Outlet} {log' : Log Drive Outlet'}

theorem view_eq (h : Agree S R s s') (hreport : outcome.report? = outcome'.report?)
    (hwrites : log.commands = log'.commands) : s.view outcome log = s'.view outcome' log' := by
  unfold System.view
  rw [hreport, hwrites, h.lastTick, h.tickedAt, h.elapsed, h.zone.name, h.zone.speed,
    h.zone.members]

/-- A change of the zones that keeps them in agreement. -/
theorem withZone (h : Agree S R s s') {z z' : Zone Probe Drive} (hz : z.Agree S z') :
    Agree S R { s with controller := { s.controller with zone := z } }
      { s' with controller := { s'.controller with zone := z' } } :=
  ⟨hz, h.config, h.lastTick, h.tickedAt, h.elapsed, h.world⟩

theorem load (h : Agree S R s s') (zone : String) {m : Members Probe Drive}
    (hm : zone = s.controller.zone.name → s.controller.zone.members = none → m.Within S) :
    Agree S R { s with controller := (s.controller.load zone m).2 }
      { s' with controller := (s'.controller.load zone m).2 } := by
  unfold Controller.load
  rw [← h.zone.name]
  split
  · next heq => exact h.withZone (h.zone.load fun hnone => ⟨rfl, hm heq hnone⟩)
  · exact h

theorem recordTemperature (h : Agree S R s s') (sensor : String) (now : Timestamp)
    (value : Single) :
    Agree S R { s with controller := (s.controller.recordTemperature sensor now value).2 }
      { s' with controller := (s'.controller.recordTemperature sensor now value).2 } := by
  rw [Controller.recordTemperature_eq, Controller.recordTemperature_eq]
  exact h.withZone (h.zone.touchSensor sensor fun s hs => ⟨hs.probe, hs.name⟩)

theorem recordSpeed (h : Agree S R s s') (fan : String) (now : Timestamp) (value : Single) :
    Agree S R { s with controller := (s.controller.recordSpeed fan now value).2 }
      { s' with controller := (s'.controller.recordSpeed fan now value).2 } := by
  rw [Controller.recordSpeed_eq, Controller.recordSpeed_eq]
  exact h.withZone (h.zone.touchFan fan fun f hf => ⟨hf.drive⟩)

/-- The zones of two systems decide and write alike in a tick of either kind. -/
theorem runZone (h : Agree S R s s') (hs : s.controller.Settled) (hs' : s'.controller.Settled)
    (hP : P.SameHardware P' S R) (tick : Tick) {offered : Option (Members Probe Drive)}
    (hoffered : s.controller.zone.members = none → (offered.getD .empty).Within S)
    (refresh : Bool) :
    EndAlike (fun r r' => r.1 = r'.1 ∧ r.2.1.Agree S r'.2.1 ∧ R r.2.2 r'.2.2)
        (s.controller.zone.run P s.world tick offered refresh)
        (s'.controller.zone.run P' s'.world tick offered refresh) ∧
      (s.controller.zone.load (offered.getD .empty)).fans =
        (s'.controller.zone.load (offered.getD .empty)).fans := by
  have hconfig : s.controller.zone.config.SameControl S.names s'.controller.zone.config := by
    rw [hs.config_eq, hs'.config_eq]
    exact h.config
  have hoffered' : s.controller.zone.members = none →
      offered.getD .empty = offered.getD .empty ∧ (offered.getD .empty).Within S :=
    fun hnone => ⟨rfl, hoffered hnone⟩
  exact ⟨h.zone.run hconfig hP h.world tick hoffered' refresh, (h.zone.load hoffered').fans_eq⟩

theorem access_runZone (h : Agree S R s s') (hs : s.controller.Settled)
    (hs' : s'.controller.Settled) (hP : P.SameHardware P' S R) {tick : Tick}
    {offered : Option (Members Probe Drive)} {refresh : Bool}
    (hoffered : s.controller.zone.members = none → (offered.getD .empty).Within S)
    (hr : s.access P (.runZone tick offered refresh) = .ok (outcome, s₁, log))
    (hr' : s'.access P' (.runZone tick offered refresh) = .ok (outcome', s₁', log')) :
    outcome.report? = outcome'.report? ∧ log.commands = log'.commands ∧ Agree S R s₁ s₁' := by
  obtain ⟨hends, hfans⟩ := h.runZone hs hs' hP tick hoffered refresh
  rw [access_runZone_eq] at hr hr'
  obtain ⟨⟨report, z, w⟩, hrun, heq⟩ := map_eq_ok_iff.1 hr
  obtain ⟨⟨report', z', w'⟩, hrun', heq'⟩ := map_eq_ok_iff.1 hr'
  cases heq
  cases heq'
  obtain ⟨rfl, hzone, hworld⟩ := hends.of_ok hrun hrun'
  rw [hfans]
  exact ⟨rfl, rfl, hzone, h.config, h.lastTick, h.tickedAt, h.elapsed, hworld⟩

/-- Beside what its zone does, a tick keeps the time and hands out rows. -/
theorem tick (h : Agree S R s s') (hs : s.controller.Settled)
    (hs' : s'.controller.Settled) (hP : P.SameHardware P' S R) {x : Routing Outlet}
    {x' : Routing Outlet'} (hx : s.controller.Routed x.config x.outlet)
    (hx' : s'.controller.Routed x'.config x'.outlet) (hd : ∀ d ∈ x.route, P.HarmlessAt R d)
    (hd' : ∀ d ∈ x'.route, P'.HarmlessAt (flip R) d) {now : Timestamp}
    {options : TickOptions Probe Drive}
    (hoffered : s.controller.zone.members = none →
      ((options.members.lookup s.controller.zone.name).getD .empty).Within S)
    (hr : s.access P (.operate (.tick now options)) = .ok (outcome, s₁, log))
    (hr' : s'.access P' (.operate (.tick now options)) = .ok (outcome', s₁', log')) :
    outcome.report? = outcome'.report? ∧ log.commands = log'.commands ∧ Agree S R s₁ s₁' := by
  have helapsed : s.controller.elapsedAt now = s'.controller.elapsedAt now := by
    unfold Controller.elapsedAt
    rw [h.lastTick, h.config.intervalSecs_eq]
  obtain ⟨hends, hfans⟩ := h.runZone hs hs' hP
    ⟨now, options.elapsed.getD (s.controller.elapsedAt now)⟩ hoffered options.refresh
  rw [access, step_tick_eq] at hr hr'
  rw [← helapsed, ← h.zone.name] at hr'
  obtain ⟨⟨report, z, w⟩, hrun, heq⟩ := map_eq_ok_iff.1 hr
  obtain ⟨⟨report', z', w'⟩, hrun', heq'⟩ := map_eq_ok_iff.1 hr'
  cases heq
  cases heq'
  obtain ⟨rfl, hzone, hworld⟩ := hends.of_ok hrun hrun'
  unfold Controller.commandedFans
  rw [← h.zone.name, hfans]
  refine ⟨rfl, rfl, hzone, h.config, rfl, rfl, rfl, ?_⟩
  refine Controller.Routed.exportRows_both ?_ ?_ hd hd' hworld
  · exact hx.of_eq rfl rfl
  · exact hx'.of_eq rfl rfl

/-- A configuration is taken or refused; either way the zone has the one in force then. -/
theorem exists_step_reconfigure_eq (hs : s.controller.Settled) {x : Routing Outlet}
    (hx : s.controller.Routed x.config x.outlet) (config : Config) :
    ∃ outcome destination, outcome.report? = none ∧ s.step P (.reconfigure config) =
      .ok (outcome,
        ⟨{ s.controller with
            config := (x.offered config).config
            destination
            zone := s.controller.zone.reconfigure (x.offered config).config }, s.world⟩,
        .empty) := by
  rw [step_reconfigure]
  unfold Routing.offered
  cases config.validate with
  | ok u => exact ⟨_, _, rfl, rfl⟩
  | error e =>
    have hzone : s.controller.zone.reconfigure x.config = s.controller.zone := by
      rw [← hx.config_eq, ← hs.config_eq]
      exact Zone.reconfigure_config s.controller.zone
    refine ⟨.refused e, s.controller.destination, rfl, ?_⟩
    show _ = Except.ok (_, System.mk { s.controller with
      config := x.config, zone := s.controller.zone.reconfigure x.config } s.world, _)
    rw [hzone, ← hx.config_eq]

theorem reconfigure (h : Agree S R s s') (hs : s.controller.Settled)
    (hs' : s'.controller.Settled) {x : Routing Outlet} {x' : Routing Outlet'}
    (hx : s.controller.Routed x.config x.outlet) (hx' : s'.controller.Routed x'.config x'.outlet)
    {config config' : Config}
    (hconfig : (x.offered config).config.SameControl S.names (x'.offered config').config)
    (hr : s.access P (.operate (.reconfigure config)) = .ok (outcome, s₁, log))
    (hr' : s'.access P' (.operate (.reconfigure config')) = .ok (outcome', s₁', log')) :
    outcome.report? = outcome'.report? ∧ log.commands = log'.commands ∧ Agree S R s₁ s₁' := by
  obtain ⟨answer, destination, hanswer, heq⟩ := exists_step_reconfigure_eq (P := P) hs hx config
  obtain ⟨answer', destination', hanswer', heq'⟩ :=
    exists_step_reconfigure_eq (P := P') hs' hx' config'
  cases hr.symm.trans heq
  cases hr'.symm.trans heq'
  have hcapacity : s.controller.zone.config.historyCapacity =
      s'.controller.zone.config.historyCapacity := by
    rw [hs.config_eq, hs'.config_eq]
    exact h.config.historyCapacity_eq
  exact ⟨hanswer.trans hanswer'.symm, rfl,
    h.zone.reconfigure hconfig.historyCapacity_eq hcapacity, hconfig, h.lastTick, h.tickedAt,
    h.elapsed, h.world⟩

end System.Agree

/-! ## Runs -/

namespace System

/-- Two systems in agreement, each routed in its own way. -/
structure Parallel (S : Scope Probe Drive) (R : World → World' → Prop) (x : Routing Outlet)
    (x' : Routing Outlet') (s : System World Probe Drive Outlet)
    (s' : System World' Probe Drive Outlet') : Prop where
  agree : Agree S R s s'
  settled : s.controller.Settled
  settled' : s'.controller.Settled
  routed : s.controller.Routed x.config x.outlet
  routed' : s'.controller.Routed x'.config x'.outlet
  name : s.controller.zone.name = systemZone

variable {s s₁ : System World Probe Drive Outlet} {s' s₁' : System World' Probe Drive Outlet'}
  {x : Routing Outlet} {x' : Routing Outlet'} {a : Access World Probe Drive Outlet}
  {a' : Access World' Probe Drive Outlet'} {outcome outcome' : Outcome} {log : Log Drive Outlet}
  {log' : Log Drive Outlet'} {as : List (Access World Probe Drive Outlet)}
  {as' : List (Access World' Probe Drive Outlet')}

theorem access_routed (hx : s.controller.Routed x.config x.outlet)
    (h : s.access P a = .ok (outcome, s₁, log)) :
    s₁.controller.Routed (x.after a).config (x.after a).outlet := by
  cases a with
  | operate op =>
    rw [Routing.after_operate]
    exact (step_routed hx h).1
  | runZone tick offered refresh =>
    rw [access_runZone_eq] at h
    obtain ⟨r, -, heq⟩ := map_eq_ok_iff.1 h
    cases heq
    exact hx.of_eq rfl rfl

namespace Parallel

theorem after (h : Parallel S R x x' s s') (hr : s.access P a = .ok (outcome, s₁, log))
    (hr' : s'.access P' a' = .ok (outcome', s₁', log')) (hagree : Agree S R s₁ s₁') :
    Parallel S R (x.after a) (x'.after a') s₁ s₁' where
  agree := hagree
  settled := access_settled h.settled hr
  settled' := access_settled h.settled' hr'
  routed := access_routed h.routed hr
  routed' := access_routed h.routed' hr'
  name := (access_holds h.name (Zone.holds_members P s.controller.zone) hr).1

/-- The same access to each of two systems. -/
theorem access (h : Parallel S R x x' s s') (hP : P.SameHardware P' S R)
    (ha : Corresponds P P' S R x x' a a')
    (hoffer : s.controller.zone.members = none → ∀ m ∈ a.offer?, m.Within S)
    (hr : s.access P a = .ok (outcome, s₁, log))
    (hr' : s'.access P' a' = .ok (outcome', s₁', log')) :
    AccessEvent.view? ⟨a, outcome, log, s₁⟩ = AccessEvent.view? ⟨a', outcome', log', s₁'⟩ ∧
      Agree S R s₁ s₁' := by
  obtain ⟨hagree, hs, hs', hx, hx', hname⟩ := h
  have hshow : outcome.report? = outcome'.report? ∧ log.commands = log'.commands ∧
      Agree S R s₁ s₁' := by
    cases ha with
    | tick now options hd hd' =>
      refine hagree.tick hs hs' hP hx hx' hd hd' (fun hnone => ?_) hr hr'
      rw [hname]
      exact hoffer hnone _ rfl
    | runZone tick offered refresh =>
      exact hagree.access_runZone hs hs' hP (fun hnone => hoffer hnone _ rfl) hr hr'
    | load zone members =>
      cases hr
      cases hr'
      refine ⟨rfl, rfl, hagree.load zone fun heq hnone => hoffer hnone members ?_⟩
      exact if_pos (heq.trans hname)
    | reconfigure config config' hconfig => exact hagree.reconfigure hs hs' hx hx' hconfig hr hr'
    | recordTemperature sensor now value =>
      cases hr
      cases hr'
      exact ⟨rfl, rfl, hagree.recordTemperature sensor now value⟩
    | recordSpeed fan now value =>
      cases hr
      cases hr'
      exact ⟨rfl, rfl, hagree.recordSpeed fan now value⟩
    | change hw =>
      cases hr
      cases hr'
      exact ⟨rfl, rfl, hagree.zone, hagree.config, hagree.lastTick, hagree.tickedAt,
        hagree.elapsed, hw⟩
  obtain ⟨hreport, hwrites, hafter⟩ := hshow
  have hview : some (s₁.view outcome log) = some (s₁'.view outcome' log') :=
    congrArg some (hafter.view_eq hreport hwrites)
  refine ⟨?_, hafter⟩
  cases ha <;> exact hview

theorem withOutlet_left (h : Parallel S R x x' s s') (outlet : Outlet) :
    Parallel S R { x with outlet := some outlet } x'
      { s with controller := s.controller.withOutlet outlet } s' where
  agree := ⟨h.agree.zone, h.agree.config, h.agree.lastTick, h.agree.tickedAt, h.agree.elapsed,
    h.agree.world⟩
  settled := h.settled.withOutlet outlet
  settled' := h.settled'
  routed := ⟨h.routed.config_eq, rfl⟩
  routed' := h.routed'
  name := h.name

theorem withOutlet_right (h : Parallel S R x x' s s') (outlet : Outlet') :
    Parallel S R x { x' with outlet := some outlet } s
      { s' with controller := s'.controller.withOutlet outlet } where
  agree := ⟨h.agree.zone, h.agree.config, h.agree.lastTick, h.agree.tickedAt, h.agree.elapsed,
    h.agree.world⟩
  settled := h.settled
  settled' := h.settled'.withOutlet outlet
  routed := h.routed
  routed' := ⟨h.routed'.config_eq, rfl⟩
  name := h.name

/-- The same members are offered to both systems. -/
theorem load (h : Parallel S R x x' s s') (zone : String) {m : Members Probe Drive}
    (hm : m.Within S) :
    Parallel S R x x' { s with controller := (s.controller.load zone m).2 }
      { s' with controller := (s'.controller.load zone m).2 } := by
  obtain ⟨z, heq, hname, -⟩ := Controller.exists_load_eq s.controller zone m
  obtain ⟨z', heq', -, -⟩ := Controller.exists_load_eq s'.controller zone m
  exact ⟨h.agree.load zone fun _ _ => hm, h.settled.load zone m, h.settled'.load zone m,
    heq ▸ h.routed.of_eq rfl rfl, heq' ▸ h.routed'.of_eq rfl rfl, heq ▸ hname.trans h.name⟩

end Parallel

/-- Members that may still be bound after an access might have been bound before it. -/
theorem within_of_access (hname : s.controller.zone.name = systemZone)
    (hr : s.access P a = .ok (outcome, s₁, log))
    (hbound : s.controller.zone.members = none → ∀ m ∈ firstBound (a :: as), m.Within S) :
    (s.controller.zone.members = none → ∀ m ∈ a.offer?, m.Within S) ∧
      (s₁.controller.zone.members = none → ∀ m ∈ firstBound as, m.Within S) := by
  unfold firstBound at hbound
  rw [List.findSome?_cons] at hbound
  constructor
  · intro hnone m hm
    rw [Option.mem_def.1 hm] at hbound
    exact hbound hnone m rfl
  · intro hnone
    obtain ⟨hnone₀, hsilent⟩ := members_eq_none_of_access hname hr hnone
    rw [hsilent] at hbound
    exact hbound hnone₀

/-- By induction on the accesses: the systems stay in agreement, and an outlet that is supplied to
one of them does not show. -/
theorem perform_paired (has : Paired P P' S R x x' as as') (hP : P.SameHardware P' S R)
    (h : Parallel S R x x' s s')
    (hbound : s.controller.zone.members = none → ∀ m ∈ firstBound as, m.Within S) :
    ∃ events events', s.perform P as = .ok events ∧ s'.perform P' as' = .ok events' ∧
      events.filterMap AccessEvent.view? = events'.filterMap AccessEvent.view? := by
  induction has generalizing s s' with
  | nil => exact ⟨[], [], rfl, rfl, rfl⟩
  | @both x x' a a' as as' ha has ih =>
    obtain ⟨⟨outcome, s₁, log⟩, hr⟩ := exists_access_eq_ok (P := P) h.settled a
    obtain ⟨⟨outcome', s₁', log'⟩, hr'⟩ := exists_access_eq_ok (P := P') h.settled' a'
    obtain ⟨hoffer, hlater⟩ := within_of_access h.name hr hbound
    obtain ⟨hview, hagree⟩ := h.access hP ha hoffer hr hr'
    obtain ⟨events, events', hrun, hrun', heq⟩ := ih (h.after hr hr' hagree) hlater
    refine ⟨_, _, perform_cons_eq_ok_iff.2 ⟨_, _, _, _, hr, hrun, rfl⟩,
      perform_cons_eq_ok_iff.2 ⟨_, _, _, _, hr', hrun', rfl⟩, ?_⟩
    rw [List.filterMap_cons, List.filterMap_cons, hview, heq]
  | @supplyLeft x x' outlet as as' has ih =>
    obtain ⟨events, events', hrun, hrun', heq⟩ := ih (h.withOutlet_left outlet) hbound
    exact ⟨_, _, perform_cons_eq_ok_iff.2 ⟨_, _, _, _, rfl, hrun, rfl⟩, hrun', heq⟩
  | @supplyRight x x' outlet as as' has ih =>
    obtain ⟨events, events', hrun, hrun', heq⟩ := ih (h.withOutlet_right outlet) hbound
    exact ⟨_, _, hrun, perform_cons_eq_ok_iff.2 ⟨_, _, _, _, rfl, hrun', rfl⟩, heq⟩

/-- New controllers on the same hardware start in agreement. -/
theorem parallel_of_create {config config' : Config} {c : Controller Probe Drive Outlet}
    {c' : Controller Probe Drive Outlet'} (hcreate : Controller.create config = .ok c)
    (hcreate' : Controller.create config' = .ok c') (hcontrol : config.SameControl S.names config')
    {w : World} {w' : World'} (hw : R w w') :
    Parallel S R ⟨config, none⟩ ⟨config', none⟩ (System.mk c w) (System.mk c' w') := by
  have hagree : Agree S R (System.mk c w) (System.mk c' w') := by
    obtain ⟨-, -, elapsed, hinterval, rfl⟩ := Controller.create_eq_ok_iff.1 hcreate
    obtain ⟨-, -, elapsed', hinterval', rfl⟩ := Controller.create_eq_ok_iff.1 hcreate'
    have helapsed : elapsed = elapsed' := by
      rw [hcontrol.interval_eq, hinterval'] at hinterval
      exact (Except.ok.inj hinterval).symm
    have hspeed : History.empty Zone.speedHistoryName config.historyCapacity =
        History.empty Zone.speedHistoryName config'.historyCapacity := by
      rw [hcontrol.historyCapacity_eq]
    exact ⟨⟨rfl, hspeed, rfl, fun m hm => nomatch hm⟩, hcontrol, rfl, rfl, helapsed, hw⟩
  exact ⟨hagree, Controller.settled_create hcreate, Controller.settled_create hcreate',
    Controller.routed_create hcreate, Controller.routed_create hcreate',
    Controller.zoneName_of_create hcreate⟩

/-- Two new controllers on the same hardware, whose configurations differ at most in where rows go
and in targets of other sensors, and the same accesses to both, whatever outlets are supplied to
either and whatever becomes of the rows: every access comes to an end, and what can be seen of
control after it is the same. -/
theorem controls_alike {config config' : Config} {c : Controller Probe Drive Outlet}
    {c' : Controller Probe Drive Outlet'} (hcreate : Controller.create config = .ok c)
    (hcreate' : Controller.create config' = .ok c') (hcontrol : config.SameControl S.names config')
    (hP : P.SameHardware P' S R) {w : World} {w' : World'} (hw : R w w')
    (has : Paired P P' S R ⟨config, none⟩ ⟨config', none⟩ as as')
    (hbound : ∀ m ∈ firstBound as, m.Within S) :
    ∃ events events', (System.mk c w).perform P as = .ok events ∧
      (System.mk c' w').perform P' as' = .ok events' ∧
      events.map AccessEvent.access = as ∧ events'.map AccessEvent.access = as' ∧
      events.filterMap AccessEvent.view? = events'.filterMap AccessEvent.view? := by
  have hparallel := parallel_of_create hcreate hcreate' hcontrol hw
  obtain ⟨events, events', hrun, hrun', hviews⟩ :=
    perform_paired has hP hparallel fun _ => hbound
  exact ⟨events, events', hrun, hrun', map_access_of_perform hrun, map_access_of_perform hrun',
    hviews⟩

end System

end Exports

/-- No destination of a machine does harm to its simulated devices. -/
theorem Machine.harmlessAt_bench (d : Destination Recorder) :
    platform.HarmlessAt SameBench d ∧ platform.HarmlessAt (flip SameBench) d :=
  ⟨fun zone rows m _ h => (bench_deliver d zone rows m).trans h,
    fun zone rows m _ h => h.trans (bench_deliver d zone rows m).symm⟩

/-- One controller exports to a directory that cannot be made, below a file, and later to none; the
other one to an outlet that reports failure, then nothing in simulation. The other one also has a
target for a sensor that there is not. -/
theorem System.controls_alike_with_failing_exports :
    let limits : Limits := ⟨some (ofNat 95), some (ofNat 100), some (ofNat 70)⟩
    let bench : Bench :=
      ⟨[⟨"cpu", some (ofNat 80), limits⟩], [⟨"fan1", some (ofNat 50), [], false⟩]⟩
    let w : Machine :=
      { files := ⟨[(["work"], .directory), (["work", "f"], .file .empty)], ["work"]⟩
        bench
        recorded := [] }
    let w' : Machine := { Machine.blank with bench }
    let members : Members Probe Drive :=
      ⟨[⟨.simulated 0 "fan1", .empty "fan1" 10⟩], [⟨.simulated 0 "cpu", .empty "cpu" 10, false⟩]⟩
    let config (exportPath : Option String) (simulation : Bool) : Config :=
      { Config.default with exportPath, simulation }
    let config' (exportPath : Option String) (simulation : Bool) : Config :=
      { config exportPath simulation with
        sensorTargets := Targets.empty.insert "gpu" (ofNat 10) }
    let tick (now : Nat) : Operation Machine Probe Drive Recorder :=
      .tick (ofNat now) { refresh := true }
    let as : List (Access Machine Probe Drive Recorder) :=
      [.operate (.load "System" members), .operate (tick 0),
        .operate (.reconfigure (config none false)), .operate (tick 60)]
    let as' : List (Access Machine Probe Drive Recorder) :=
      [.operate (.withOutlet ⟨true⟩), .operate (.load "System" members), .operate (tick 0),
        .operate (.reconfigure (config' none true)), .operate (tick 60)]
    ∃ (c c' : Controller Probe Drive Recorder)
      (events events' : List (AccessEvent Machine Probe Drive Recorder)),
      Controller.create (config (some "f/csv") false) = .ok c ∧
      Controller.create (config' none false) = .ok c' ∧
      (System.mk c w).perform Machine.platform as = .ok events ∧
      (System.mk c' w').perform Machine.platform as' = .ok events' ∧
      (events.map fun e => e.log.deliveries.length) = [0, 1, 0, 0] ∧
      (events'.map fun e => e.log.deliveries.length) = [0, 0, 1, 0, 0] ∧
      (events'.map fun e => e.after.world.recorded.length) = [0, 0, 1, 1, 1] ∧
      events.filterMap AccessEvent.view? = events'.filterMap AccessEvent.view? := by
  intro limits bench w w' members config config' tick as as'
  have hvalid : ∀ exportPath simulation, (config exportPath simulation).Valid :=
    (Config.validate_eq_ok_iff.1 Config.validate_default).withExport
  have hfinite : ∀ entry ∈ (Targets.empty.insert "gpu" (ofNat 10 : Single)).entries,
      entry.2.isFinite := by
    decide +kernel
  have hvalid' : ∀ exportPath simulation, (config' exportPath simulation).Valid :=
    fun exportPath simulation => (hvalid exportPath simulation).withTargets hfinite
  have hcontrol : ∀ exportPath simulation exportPath' simulation',
      (config exportPath simulation).SameControl (· = "cpu") (config' exportPath' simulation') := by
    intro exportPath simulation exportPath' simulation'
    refine ⟨rfl, ?_⟩
    rintro name rfl
    rfl
  have hinterval : ∀ exportPath simulation,
      (config exportPath simulation).interval = .ok ⟨60000000000, by decide⟩ :=
    fun _ _ => Config.interval_withExport.trans Config.interval_default
  have hinterval' : ∀ exportPath simulation,
      (config' exportPath simulation).interval = .ok ⟨60000000000, by decide⟩ :=
    fun _ _ => (hcontrol none false _ _).interval_eq.symm.trans (hinterval none false)
  obtain ⟨c, hcreate, hvalues⟩ : ∃ c : Controller Probe Drive Recorder,
      Controller.create (config (some "f/csv") false) = .ok c ∧
        ((System.mk c w).perform Machine.platform as).toOption.map (fun events =>
          events.map fun e => e.log.deliveries.length) = some [0, 1, 0, 0] :=
    ⟨_, Controller.create_eq_ok_iff.2 ⟨hvalid _ _, by decide, _, hinterval _ _, rfl⟩,
      by decide +kernel⟩
  obtain ⟨c', hcreate', hvalues'⟩ : ∃ c' : Controller Probe Drive Recorder,
      Controller.create (config' none false) = .ok c' ∧
        ((System.mk c' w').perform Machine.platform as').toOption.map (fun events =>
          (events.map fun e => e.log.deliveries.length,
            events.map fun e => e.after.world.recorded.length)) =
          some ([0, 0, 1, 0, 0], [0, 0, 1, 1, 1]) :=
    ⟨_, Controller.create_eq_ok_iff.2 ⟨hvalid' _ _, by decide, _, hinterval' _ _, rfl⟩,
      by decide +kernel⟩
  have htick : ∀ (x x' : Routing Recorder) (now : Nat),
      Corresponds Machine.platform Machine.platform (Machine.benchScope (· = "cpu"))
        Machine.SameBench x x' (.operate (tick now)) (.operate (tick now)) :=
    fun x x' now => .tick _ _ (fun d _ => (Machine.harmlessAt_bench d).1)
      fun d _ => (Machine.harmlessAt_bench d).2
  have hpaired : Paired Machine.platform Machine.platform (Machine.benchScope (· = "cpu"))
      Machine.SameBench ⟨config (some "f/csv") false, none⟩ ⟨config' none false, none⟩ as as' := by
    refine .supplyRight (.both (.load ..) (.both (htick ..) (.both (.reconfigure _ _ ?_)
      (.both (htick ..) .nil))))
    rw [Routing.offered_of_valid (hvalid _ _), Routing.offered_of_valid (hvalid' _ _)]
    exact hcontrol none false none true
  have hbench : w.SameBench w' := rfl
  have hbound : ∀ m ∈ firstBound as, m.Within (Machine.benchScope (· = "cpu")) := by
    intro m hm
    obtain rfl : members = m := Option.some.inj hm
    exact ⟨List.forall_mem_singleton.2 ⟨⟨0, "fan1", rfl⟩⟩,
      List.forall_mem_singleton.2 ⟨⟨0, "cpu", rfl⟩, rfl⟩⟩
  obtain ⟨events, events', hrun, hrun', -, -, hviews⟩ :=
    controls_alike hcreate hcreate' (hcontrol _ _ _ _) (Machine.sameHardware_bench (· = "cpu"))
      hbench hpaired hbound
  rw [hrun] at hvalues
  rw [hrun'] at hvalues'
  obtain ⟨hlengths, hrecorded⟩ := Prod.mk.inj (Option.some.inj hvalues')
  exact ⟨c, c', events, events', hcreate, hcreate', hrun, hrun', Option.some.inj hvalues, hlengths,
    hrecorded, hviews⟩

end ChassisCooling
