import ChassisCooling.Machine.Basic
import ChassisCooling.Proofs.Control.Reachable

/-!
# Where exported rows go

After each tick the rows of the zone go to one destination at most, and which one it is follows from
two things only: the configuration in force, and the outlet that was supplied last. Both can be read
off the operations so far, without a look at the controller.

* `Config.inForce`, `lastOutlet`: the configuration and the outlet after a list of operations.
* `Config.route`: the destination that the two decide on.
* `Controller.Routed`: the invariant, which `System.step_routed` keeps.
* `System.rows_follow_route`: the main result.
-/

namespace ChassisCooling

open Binary

section Routes

variable {World Probe Drive Outlet : Type} {P : Platform World Probe Drive Outlet}

/-! ## What the operations so far have settled -/

namespace Operation

/-- The configuration that an operation brings into force: one that passes its checks. -/
def accepted? : Operation World Probe Drive Outlet → Option Config
  | .reconfigure config => if config.validate.isOk then some config else none
  | _ => none

/-- The outlet that an operation supplies. -/
def outlet? : Operation World Probe Drive Outlet → Option Outlet
  | .withOutlet outlet => some outlet
  | _ => none

def isTick : Operation World Probe Drive Outlet → Bool
  | .tick .. => true
  | _ => false

theorem accepted?_reconfigure_of_ok {config : Config} (h : config.validate = .ok ()) :
    (reconfigure config : Operation World Probe Drive Outlet).accepted? = some config := by
  simp only [accepted?, h, Except.isOk, Except.toBool, if_true]

theorem accepted?_reconfigure_of_error {config : Config} {e : Error}
    (h : config.validate = .error e) :
    (reconfigure config : Operation World Probe Drive Outlet).accepted? = none := by
  simp only [accepted?, h, Except.isOk, Except.toBool, if_false, Bool.false_eq_true]

end Operation

/-- The configuration in force after some operations: the last one that was accepted, or else the
one at the start. -/
def Config.inForce (start : Config) (ops : List (Operation World Probe Drive Outlet)) : Config :=
  (ops.filterMap Operation.accepted?).getLast?.getD start

/-- The outlet that was supplied last. -/
def lastOutlet (ops : List (Operation World Probe Drive Outlet)) : Option Outlet :=
  (ops.filterMap Operation.outlet?).getLast?

/-- Where rows go: nowhere in simulation, else to the outlet that was supplied, else to the
directory that the configuration names. -/
def Config.route (config : Config) (outlet : Option Outlet) : Option (Destination Outlet) :=
  if config.simulation then none
  else (outlet.map .supplied).or (config.exportPath.map .directory)

/-! ## One operation more -/

theorem Config.inForce_cons (start : Config) (op : Operation World Probe Drive Outlet)
    (ops : List (Operation World Probe Drive Outlet)) :
    start.inForce (op :: ops) = (op.accepted?.getD start).inForce ops := by
  unfold inForce
  rw [List.filterMap_cons]
  cases op.accepted? with
  | none => rfl
  | some config =>
    rw [List.getLast?_cons]
    rfl

/-- What was told last by one element and others: by them, else by the one, else earlier. -/
theorem getLast?_filterMap_cons_or {α β : Type} (tell : α → Option β) (x : α) (xs : List α)
    (earlier : Option β) :
    ((x :: xs).filterMap tell).getLast?.or earlier =
      (xs.filterMap tell).getLast?.or ((tell x).or earlier) := by
  rw [List.filterMap_cons]
  cases tell x with
  | none => rfl
  | some later =>
    rw [List.getLast?_cons]
    cases (xs.filterMap tell).getLast? <;> rfl

/-- The outlet after one operation and others: theirs, else that of the one, else an earlier one. -/
theorem lastOutlet_cons_or (op : Operation World Probe Drive Outlet)
    (ops : List (Operation World Probe Drive Outlet)) (outlet : Option Outlet) :
    (lastOutlet (op :: ops)).or outlet = (lastOutlet ops).or (op.outlet?.or outlet) :=
  getLast?_filterMap_cons_or Operation.outlet? op ops outlet

/-- An outlet stays the last one while no other is supplied. -/
theorem lastOutlet_append_cons {before after : List (Operation World Probe Drive Outlet)}
    {outlet : Outlet} (hafter : ∀ later, .withOutlet later ∉ after) :
    lastOutlet (before ++ .withOutlet outlet :: after) = some outlet := by
  have hnone : after.filterMap Operation.outlet? = [] := by
    rw [List.filterMap_eq_nil_iff]
    intro op hop
    cases op with
    | withOutlet later => exact absurd hop (hafter later)
    | change | tick | load | reconfigure | recordTemperature | recordSpeed => rfl
  have hsupplied : (Operation.withOutlet outlet :: after).filterMap Operation.outlet? =
      [outlet] := by
    rw [List.filterMap_cons, hnone]
    rfl
  unfold lastOutlet
  rw [List.filterMap_append, hsupplied, List.getLast?_concat]

theorem Config.route_eq_directory {config : Config} {outlet : Option Outlet} {path : String}
    (h : config.route outlet = some (.directory path)) :
    outlet = none ∧ config.exportPath = some path ∧ config.simulation = false := by
  unfold route at h
  split at h
  · cases h
  · next hlive =>
    cases outlet with
    | some outlet => cases h
    | none =>
      obtain ⟨path', hpath, heq⟩ := Option.map_eq_some_iff.1 h
      cases heq
      exact ⟨rfl, hpath, Bool.eq_false_iff.2 hlive⟩

/-- Rows that go anywhere after an outlet was supplied go there. -/
theorem Config.eq_supplied_of_route {config : Config} {outlet : Outlet} {d : Destination Outlet}
    (h : config.route (some outlet) = some d) : d = .supplied outlet := by
  unfold route at h
  split at h
  · cases h
  · exact (Option.some.inj h).symm

/-! ## The invariant -/

namespace Controller

/-- The controller has taken the configuration, and holds the destination that it and the outlet
decide on; which only in simulation may be one that rows do not go to. -/
structure Routed (c : Controller Probe Drive Outlet) (config : Config) (outlet : Option Outlet) :
    Prop where
  config_eq : c.config = config
  destination_eq : c.destination = (outlet.map .supplied).or config.destination

variable {c : Controller Probe Drive Outlet} {config : Config} {outlet : Option Outlet}

theorem routed_create (h : create config = .ok c) : c.Routed config none := by
  obtain ⟨-, -, elapsed, -, rfl⟩ := create_eq_ok_iff.1 h
  exact ⟨rfl, rfl⟩

/-- Nothing else of the controller has a part in it. -/
theorem Routed.of_eq (h : c.Routed config outlet) {c' : Controller Probe Drive Outlet}
    (hconfig : c'.config = c.config) (hdestination : c'.destination = c.destination) :
    c'.Routed config outlet :=
  ⟨hconfig.trans h.config_eq, hdestination.trans h.destination_eq⟩

theorem Routed.withConfig (h : c.Routed config outlet) (later : Config) :
    (c.withConfig later).Routed later outlet := by
  refine ⟨rfl, ?_⟩
  show later.redirect c.destination = _
  rw [h.destination_eq]
  cases outlet with
  | some outlet => rfl
  | none =>
    -- The directory of the earlier configuration gives way, whichever it was.
    show later.redirect config.destination = later.destination
    unfold Config.destination
    cases config.exportEnabled with
    | false => rfl
    | true => cases config.exportPath <;> rfl

/-- What a controller hands out goes where the configuration and the outlet decide. -/
theorem Routed.deliveries_eq (h : c.Routed config outlet) :
    c.deliveries =
      (config.route outlet).toList.map fun d => ⟨d, c.zone.name, c.zone.exportRows⟩ := by
  unfold deliveries Config.route
  rw [h.config_eq, h.destination_eq]
  cases hsimulation : config.simulation with
  | true => rfl
  | false =>
    unfold Config.destination Config.exportEnabled
    rw [hsimulation]
    cases outlet with
    | some outlet => rfl
    | none => cases config.exportPath <;> rfl

/-- A tick hands out the rows that the zone has after it. -/
theorem deliveries_of_tick {w w' : World} {l : Log Drive Outlet} {now : Timestamp}
    {options : TickOptions Probe Drive} {report : TickReport} {c' : Controller Probe Drive Outlet}
    (h : c.tick P.logged (w, .empty) now options = .ok (report, c', (w', l))) :
    l.deliveries = c'.deliveries := by
  rw [tick_logged] at h
  cases htick : c.tick P w now options with
  | error b =>
    rw [htick] at h
    cases h
  | ok r =>
    rw [htick] at h
    cases h
    exact List.nil_append _

end Controller

/-- What an event hands out: after a tick the rows that the zone has then, to where a configuration
and an outlet have them go, and nothing otherwise. -/
def Event.HandsOut (e : Event World Probe Drive Outlet) (zone : String) (config : Config)
    (outlet : Option Outlet) : Prop :=
  e.log.deliveries =
    if e.operation.isTick then
      (config.route outlet).toList.map fun d => ⟨d, zone, e.after.controller.zone.exportRows⟩
    else []

theorem Event.HandsOut.route_of_mem {e : Event World Probe Drive Outlet} {zone : String}
    {config : Config} {outlet : Option Outlet} (h : e.HandsOut zone config outlet)
    {d : Delivery Outlet} (hd : d ∈ e.log.deliveries) :
    config.route outlet = some d.destination := by
  unfold Event.HandsOut at h
  rw [h] at hd
  split at hd
  · obtain ⟨destination, hmem, rfl⟩ := List.mem_map.1 hd
    exact Option.mem_toList.1 hmem
  · cases hd

namespace System

variable {s s' : System World Probe Drive Outlet} {op : Operation World Probe Drive Outlet}
  {outcome : Outcome} {log : Log Drive Outlet}

/-- One operation: the zone keeps its name, the controller is routed by what the operation settles,
and rows are handed out after a tick only. -/
theorem step_routed {config : Config} {outlet : Option Outlet}
    (hs : s.controller.Routed config outlet) (h : s.step P op = .ok (outcome, s', log)) :
    s'.controller.Routed (op.accepted?.getD config) (op.outlet?.or outlet) ∧
      s'.controller.zone.name = s.controller.zone.name ∧
      log.deliveries = if op.isTick then s'.controller.deliveries else [] := by
  cases op with
  | change world =>
    cases h
    exact ⟨hs, rfl, rfl⟩
  | tick now options =>
    obtain ⟨⟨report, c', w', log'⟩, htick, h⟩ := bind_eq_ok_iff.1 h
    cases h
    have hdeliveries := Controller.deliveries_of_tick htick
    obtain ⟨z, rfl, hname, -⟩ := Controller.exists_tick_eq htick
    exact ⟨hs.of_eq rfl rfl, hname, hdeliveries⟩
  | load zone members =>
    cases h
    obtain ⟨z, heq, hname, -⟩ := Controller.exists_load_eq s.controller zone members
    exact ⟨heq ▸ hs.of_eq rfl rfl, heq ▸ hname, rfl⟩
  | reconfigure later =>
    rw [step_reconfigure] at h
    cases hvalid : later.validate with
    | ok u =>
      rw [hvalid] at h
      cases h
      rw [Operation.accepted?_reconfigure_of_ok hvalid]
      exact ⟨hs.withConfig later, Zone.name_reconfigure s.controller.zone later, rfl⟩
    | error e =>
      rw [hvalid] at h
      cases h
      rw [Operation.accepted?_reconfigure_of_error hvalid]
      exact ⟨hs, rfl, rfl⟩
  | withOutlet outlet =>
    cases h
    exact ⟨⟨hs.config_eq, rfl⟩, rfl, rfl⟩
  | recordTemperature sensor now value =>
    cases h
    obtain ⟨z, heq, hname, -⟩ :=
      Controller.exists_recordTemperature_eq s.controller sensor now value
    exact ⟨heq ▸ hs.of_eq rfl rfl, heq ▸ hname, rfl⟩
  | recordSpeed fan now value =>
    cases h
    obtain ⟨z, heq, hname, -⟩ := Controller.exists_recordSpeed_eq s.controller fan now value
    exact ⟨heq ▸ hs.of_eq rfl rfl, heq ▸ hname, rfl⟩

theorem step_handsOut {config : Config} {outlet : Option Outlet}
    (hs : s.controller.Routed config outlet) (h : s.step P op = .ok (outcome, s', log)) :
    Event.HandsOut ⟨op, s, outcome, log, s'⟩ s.controller.zone.name config outlet := by
  obtain ⟨hrouted, hname, hdeliveries⟩ := step_routed hs h
  unfold Event.HandsOut
  rw [hdeliveries, ← hname]
  cases op with
  | tick now options => exact hrouted.deliveries_eq
  | change | load | reconfigure | withOutlet | recordTemperature | recordSpeed => rfl

/-! ## Runs -/

/-- By induction on the operations: what was settled by those before an event decides. -/
theorem run_routed {config : Config} {outlet : Option Outlet}
    {ops : List (Operation World Probe Drive Outlet)}
    {events : List (Event World Probe Drive Outlet)} (hs : s.controller.Routed config outlet)
    (h : s.run P ops = .ok events) {i : Nat} {e : Event World Probe Drive Outlet}
    (he : events[i]? = some e) :
    e.HandsOut s.controller.zone.name (config.inForce (ops.take i))
      ((lastOutlet (ops.take i)).or outlet) := by
  induction ops generalizing s config outlet events i with
  | nil =>
    cases h
    cases he
  | cons op ops ih =>
    obtain ⟨outcome, s', log, later, hstep, hlater, rfl⟩ := run_cons_eq_ok_iff.1 h
    cases i with
    | zero =>
      cases he
      exact step_handsOut hs hstep
    | succ i =>
      obtain ⟨hrouted, hname, -⟩ := step_routed hs hstep
      have hafter := ih hrouted hlater he
      rw [hname] at hafter
      rw [List.take_succ_cons, Config.inForce_cons, lastOutlet_cons_or]
      exact hafter

/-- Rows go where the configuration in force and the outlet have them go, whatever happens to a new
controller and its world, in any order. An outlet that was supplied gets the rows of every tick out
of simulation until another one is supplied, whatever configurations come in between; and a
directory gets rows only while the configuration in force names it. -/
theorem rows_follow_route {config : Config} {c : Controller Probe Drive Outlet}
    (hcreate : Controller.create config = .ok c) (w : World)
    (ops : List (Operation World Probe Drive Outlet)) :
    ∃ events, (System.mk c w).run P ops = .ok events ∧ events.map Event.operation = ops ∧
      ∀ i e, events[i]? = some e →
        e.HandsOut systemZone (config.inForce (ops.take i)) (lastOutlet (ops.take i)) ∧
        (∀ before outlet between, ops.take i = before ++ .withOutlet outlet :: between →
          (∀ later, .withOutlet later ∉ between) →
            ∀ d ∈ e.log.deliveries, d.destination = .supplied outlet) ∧
        ∀ d ∈ e.log.deliveries, ∀ path, d.destination = .directory path →
          (config.inForce (ops.take i)).exportPath = some path := by
  obtain ⟨events, hrun⟩ :=
    exists_run_eq_ok (P := P) (s := ⟨c, w⟩) (Controller.settled_create hcreate) ops
  refine ⟨events, hrun, map_operation_of_run hrun, ?_⟩
  intro i e he
  have hhands := run_routed (Controller.routed_create hcreate) hrun he
  rw [Controller.zoneName_of_create hcreate, Option.or_none] at hhands
  refine ⟨hhands, ?_, ?_⟩
  · intro before outlet between hops hbetween d hd
    have hroute := hhands.route_of_mem hd
    rw [hops, lastOutlet_append_cons hbetween] at hroute
    exact Config.eq_supplied_of_route hroute
  · intro d hd path hpath
    have hroute := hhands.route_of_mem hd
    rw [hpath] at hroute
    exact (Config.route_eq_directory hroute).2.1

end System

end Routes

/-- A directory, no directory, simulation, another directory, a configuration that is refused, and
an outlet that stays when the first directory comes back. -/
theorem System.rows_follow_route_of_outlet :
    let bench : Bench := ⟨[], [⟨"fan1", some (ofNat 50), [], false⟩]⟩
    let w : Machine := { Machine.blank with bench }
    let members : Members Probe Drive := ⟨[⟨.simulated 0 "fan1", .empty "fan1" 10⟩], []⟩
    let into (path : Option String) : Config := { Config.default with exportPath := path }
    let ops : List (Operation Machine Probe Drive Recorder) :=
      [.load "System" members, .tick (ofNat 0) {}, .reconfigure (into none), .tick (ofNat 60) {},
        .reconfigure { into (some "b") with simulation := true }, .tick (ofNat 120) {},
        .reconfigure (into (some "b")), .tick (ofNat 180) {},
        .reconfigure { into (some "c") with minSpeed := ofNat 150 }, .tick (ofNat 240) {},
        .withOutlet ⟨true⟩, .reconfigure (into (some "a")), .tick (ofNat 300) {}]
    let name : Destination Recorder → String
      | .directory path => path
      | .supplied _ => "outlet"
    ∃ (c : Controller Probe Drive Recorder) (events : List (Event Machine Probe Drive Recorder)),
      Controller.create (into (some "a")) = .ok c ∧
      (System.mk c w).run Machine.platform ops = .ok events ∧
      (events.filter fun e => e.operation.isTick).map
          (fun e => e.log.deliveries.map fun d => name d.destination) =
        [["a"], [], [], ["b"], ["b"], ["outlet"]] ∧
      ∀ (i : Nat) (e : Event Machine Probe Drive Recorder), events[i]? = some e →
        e.HandsOut systemZone ((into (some "a")).inForce (ops.take i)) (lastOutlet (ops.take i)) := by
  intro bench w members into ops name
  have hvalid : (into (some "a")).Valid :=
    (Config.validate_eq_ok_iff.1 Config.validate_default).withExport (some "a") false
  have hinterval : (into (some "a")).interval = .ok ⟨60000000000, by decide⟩ :=
    Config.interval_withExport.trans Config.interval_default
  obtain ⟨c, hcreate, hplaces⟩ : ∃ c : Controller Probe Drive Recorder,
      Controller.create (into (some "a")) = .ok c ∧
        ((System.mk c w).run Machine.platform ops).toOption.map (fun events =>
          (events.filter fun e => e.operation.isTick).map
            fun e => e.log.deliveries.map fun d => name d.destination) =
          some [["a"], [], [], ["b"], ["b"], ["outlet"]] :=
    ⟨_, Controller.create_eq_ok_iff.2 ⟨hvalid, by decide, _, hinterval, rfl⟩,
      by decide +kernel⟩
  obtain ⟨events, hrun, -, hevents⟩ :=
    rows_follow_route (P := Machine.platform) hcreate w ops
  rw [hrun] at hplaces
  exact ⟨c, events, hcreate, hrun, Option.some.inj hplaces, fun i e he => (hevents i e he).1⟩

end ChassisCooling
