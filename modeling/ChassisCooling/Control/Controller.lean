import ChassisCooling.Control.Zone

/-!
# The controller

Owns the `System` zone, measures the time between ticks, and hands the zone's newest samples to
the export destination after each tick. It never decides when to run: its caller ticks it and says
what the clock shows.

* `Controller.create`, `Controller.reconfigure`: only valid configurations are taken.
* `Controller.reconfigureInPlace`: the same, one field after the other.
* `Controller.tick`: one tick of the zone, then the export.
* `Controller.elapsedAt`: the time since the last tick.
-/

namespace ChassisCooling

/-- Why there is no controller: the configuration is refused, or cannot be run with. -/
inductive Refusal where
  | error (e : Error)
  | breach (b : Breach)

structure Controller (Probe Drive Outlet : Type) where
  config : Config
  /-- What the clock showed at the last tick, from which the next one measures. -/
  lastTick : Option Timestamp
  /-- The time of the last tick, as callers are told it. -/
  tickedAt : Option Timestamp
  /-- The elapsed time that the last tick used. -/
  elapsed : Duration
  zone : Zone Probe Drive
  destination : Option (Destination Outlet)

/-- What the caller decides for one tick. -/
structure TickOptions (Probe Drive : Type) where
  /-- Members for the zone, by zone name; only used if none are bound. -/
  members : List (String × Members Probe Drive) := []
  /-- Read every fan and sensor first. -/
  refresh : Bool := false
  /-- The elapsed time, instead of the one measured. -/
  elapsed : Option Duration := none

structure TickReport where
  now : Timestamp
  elapsed : Duration
  zone : ZoneReport

/-- The name of the one zone. -/
def systemZone : String := "System"

variable {World Probe Drive Outlet : Type} (P : Platform World Probe Drive Outlet)

namespace Config

/-- The destination that a configuration names, if it lets rows be exported. -/
def destination (c : Config) : Option (Destination Outlet) :=
  if c.exportEnabled then c.exportPath.map .directory else none

/-- Where rows go after a new configuration: a supplied outlet stays. -/
def redirect (c : Config) : Option (Destination Outlet) → Option (Destination Outlet)
  | some (.supplied outlet) => some (.supplied outlet)
  | _ => c.destination

end Config

namespace Controller

/-- A controller with an empty zone. -/
def create (config : Config) : Except Refusal (Controller Probe Drive Outlet) := do
  config.validate.mapError .error
  let zone ← (Zone.create systemZone config).mapError .breach
  let elapsed ← config.interval.mapError .breach
  return ⟨config, none, none, elapsed, zone, config.destination⟩

/-- Sends exported rows to a supplied outlet from now on, whatever is configured. -/
def withOutlet (c : Controller Probe Drive Outlet) (outlet : Outlet) :
    Controller Probe Drive Outlet :=
  { c with destination := some (.supplied outlet) }

/-- Takes another configuration, if it is valid. A supplied outlet stays. -/
def reconfigure (c : Controller Probe Drive Outlet) (config : Config) :
    Except Error (Controller Probe Drive Outlet) := do
  config.validate
  return { c with
    config
    destination := config.redirect c.destination
    zone := c.zone.reconfigure config }

/-- What is done to a controller in place. Where it fails, it leaves what it has done so far. -/
abbrev Update (Probe Drive Outlet : Type) := ExceptT Error (StateM (Controller Probe Drive Outlet))

/-- What came of an update, and what it leaves. -/
def Update.apply {α : Type} (u : Update Probe Drive Outlet α) (c : Controller Probe Drive Outlet) :
    Except Error α × Controller Probe Drive Outlet :=
  u.run.run c

/-- Takes another configuration in place, if it is valid. -/
def reconfigureInPlace (config : Config) : Update Probe Drive Outlet Unit := do
  MonadExcept.ofExcept config.validate
  modify fun c => { c with destination := config.redirect c.destination }
  modify fun c => { c with zone := c.zone.reconfigure config }
  modify fun c => { c with config }

/-- Binds members to the zone of a name, unless some are bound; tells whether there is such a
zone. -/
def load (c : Controller Probe Drive Outlet) (zone : String) (members : Members Probe Drive) :
    Bool × Controller Probe Drive Outlet :=
  if zone = c.zone.name then (true, { c with zone := c.zone.load members }) else (false, c)

/-- The time since the last tick, or the nominal interval before the first one. A clock that went
back counts as no time at all, and so does a time too long for a duration. -/
def elapsedAt (c : Controller Probe Drive Outlet) (now : Timestamp) : Duration :=
  let previous := c.lastTick.getD (now - c.config.intervalSecs)
  (Duration.ofSeconds? ((now - previous).maxNum (Binary.ofNat 0))).getD .zero

/-- Hands the zone's newest samples to the destination, except in simulation. What the destination
reports is of no consequence. -/
def exportRows (c : Controller Probe Drive Outlet) (w : World) : World :=
  if c.config.simulation then w
  else
    match c.destination with
    | none => w
    | some destination => (P.deliver destination c.zone.name c.zone.exportRows w).2

/-- One tick at the time that the clock shows. -/
def tick (c : Controller Probe Drive Outlet) (w : World) (now : Timestamp)
    (options : TickOptions Probe Drive) :
    Except Breach (TickReport × Controller Probe Drive Outlet × World) := do
  let elapsed := options.elapsed.getD (c.elapsedAt now)
  let (report, zone, w) ←
    c.zone.run P w ⟨now, elapsed⟩ (options.members.lookup c.zone.name) options.refresh
  let c := { c with lastTick := some now, tickedAt := some now, elapsed, zone }
  return (⟨now, elapsed, report⟩, c, c.exportRows P w)

end Controller

end ChassisCooling
