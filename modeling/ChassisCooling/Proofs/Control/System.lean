import ChassisCooling.Proofs.Control.Log

/-!
# Runs of a controller

A controller together with the world that it acts on, and what may happen to the two: the caller's
operations, in any order, and changes of the world by itself in between.

* `Operation`: one thing that happens.
* `System.step`: what comes of one operation.
* `System.run`: the events of a list of operations.
-/

namespace ChassisCooling

/-- One thing that happens to a controller or to its world. -/
inductive Operation (World Probe Drive Outlet : Type) where
  /-- The world becomes another one by itself. -/
  | change (world : World)
  | tick (now : Timestamp) (options : TickOptions Probe Drive)
  | load (zone : String) (members : Members Probe Drive)
  | reconfigure (config : Config)
  | withOutlet (outlet : Outlet)
  /-- A temperature read elsewhere, for the first sensor of a name. -/
  | recordTemperature (sensor : String) (now : Timestamp) (value : Single)
  /-- A speed read elsewhere, for the first fan of a name. -/
  | recordSpeed (fan : String) (now : Timestamp) (value : Single)

/-- What an operation answers. -/
inductive Outcome where
  | none
  | ticked (report : TickReport)
  /-- Whether there is a zone, sensor or fan of the name. -/
  | found (known : Bool)
  | refused (e : Error)

/-- The report of a tick. -/
def Outcome.report? : Outcome → Option TickReport
  | .ticked report => some report
  | _ => Option.none

/-- A controller and its world. -/
structure System (World Probe Drive Outlet : Type) where
  controller : Controller Probe Drive Outlet
  world : World

/-- One operation of a run, with what it met, what it answered, what it asked of the platform and
what it left. -/
structure Event (World Probe Drive Outlet : Type) where
  operation : Operation World Probe Drive Outlet
  before : System World Probe Drive Outlet
  outcome : Outcome
  log : Log Drive Outlet
  after : System World Probe Drive Outlet

variable {World Probe Drive Outlet : Type} (P : Platform World Probe Drive Outlet)

namespace Controller

/-- Records a temperature for the first sensor of a name. -/
def recordTemperature (c : Controller Probe Drive Outlet) (sensor : String) (now : Timestamp)
    (value : Single) : Bool × Controller Probe Drive Outlet :=
  match c.zone.changeSensor sensor fun s => ((), s.record now value) with
  | some (_, zone) => (true, { c with zone })
  | none => (false, c)

/-- Records a speed for the first fan of a name. -/
def recordSpeed (c : Controller Probe Drive Outlet) (fan : String) (now : Timestamp)
    (value : Single) : Bool × Controller Probe Drive Outlet :=
  match c.zone.changeFan fan fun f => ((), f.record now value) with
  | some (_, zone) => (true, { c with zone })
  | none => (false, c)

end Controller

namespace System

/-- What comes of one operation: an answer, the next system, and what the platform was asked to
do. Only a tick asks for anything, and only a tick can fail to come to an end. -/
def step (s : System World Probe Drive Outlet) :
    Operation World Probe Drive Outlet →
      Except Breach (Outcome × System World Probe Drive Outlet × Log Drive Outlet)
  | .change world => .ok (.none, { s with world }, .empty)
  | .tick now options => do
    let (report, controller, world, log) ←
      s.controller.tick P.logged (s.world, .empty) now options
    return (.ticked report, ⟨controller, world⟩, log)
  | .load zone members =>
    let (known, controller) := s.controller.load zone members
    .ok (.found known, { s with controller }, .empty)
  | .reconfigure config =>
    match s.controller.reconfigure config with
    | .ok controller => .ok (.none, { s with controller }, .empty)
    | .error e => .ok (.refused e, s, .empty)
  | .withOutlet outlet =>
    .ok (.none, { s with controller := s.controller.withOutlet outlet }, .empty)
  | .recordTemperature sensor now value =>
    let (known, controller) := s.controller.recordTemperature sensor now value
    .ok (.found known, { s with controller }, .empty)
  | .recordSpeed fan now value =>
    let (known, controller) := s.controller.recordSpeed fan now value
    .ok (.found known, { s with controller }, .empty)

/-- The events of a list of operations, each of which meets what the one before it left. -/
def run (s : System World Probe Drive Outlet) :
    List (Operation World Probe Drive Outlet) →
      Except Breach (List (Event World Probe Drive Outlet))
  | [] => .ok []
  | op :: ops => do
    let (outcome, after, log) ← s.step P op
    let events ← after.run ops
    return ⟨op, s, outcome, log, after⟩ :: events

variable {P}

theorem step_load (s : System World Probe Drive Outlet) (zone : String)
    (m : Members Probe Drive) :
    s.step P (.load zone m) =
      .ok (.found (s.controller.load zone m).1,
        { s with controller := (s.controller.load zone m).2 }, .empty) :=
  rfl

theorem step_tick_eq_ok {s : System World Probe Drive Outlet} {now : Timestamp}
    {options : TickOptions Probe Drive} {report : TickReport}
    {c : Controller Probe Drive Outlet} {w : World} {log : Log Drive Outlet}
    (h : s.controller.tick P.logged (s.world, .empty) now options = .ok (report, c, w, log)) :
    s.step P (.tick now options) = .ok (.ticked report, ⟨c, w⟩, log) := by
  show (s.controller.tick P.logged (s.world, .empty) now options).bind _ = _
  rw [h]
  rfl

theorem run_cons_eq_ok {s s' : System World Probe Drive Outlet}
    {op : Operation World Probe Drive Outlet} {ops : List (Operation World Probe Drive Outlet)}
    {outcome : Outcome} {log : Log Drive Outlet} {events : List (Event World Probe Drive Outlet)}
    (hstep : s.step P op = .ok (outcome, s', log)) (hrun : s'.run P ops = .ok events) :
    s.run P (op :: ops) = .ok (⟨op, s, outcome, log, s'⟩ :: events) := by
  show (s.step P op).bind _ = _
  rw [hstep]
  show (s'.run P ops).bind _ = _
  rw [hrun]
  rfl

end System

end ChassisCooling
