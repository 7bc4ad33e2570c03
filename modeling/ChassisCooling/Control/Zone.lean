import ChassisCooling.Control.Fan
import ChassisCooling.Control.Sensor
import ChassisCooling.Thermal.Aggregate

/-!
# Zones

A set of fans driven by a set of sensors. Each tick the zone picks the most critical sensor and
moves the shared speed toward keeping it at its target.

* Any sensor past its ceiling, or no usable sensor at all: full speed.
* The chosen sensor within the deadband: the last speed.
* Otherwise a step in proportion to the sensor's place between target and ceiling, capped, and
  scaled down if the tick came early; the result stays within the allowed range.

`Zone.run` is one tick; `Zone.nextSpeed` is the decision.
-/

namespace ChassisCooling

/-- Fans and sensors of a zone. -/
structure Members (Probe Drive : Type) where
  fans : List (Fan Drive)
  sensors : List (Sensor Probe)

structure Zone (Probe Drive : Type) where
  name : String
  config : Config
  /-- The speeds commanded by the zone. -/
  speed : History
  /-- Fans and sensors, once they are bound. -/
  members : Option (Members Probe Drive)

/-- The time of a tick. -/
structure Tick where
  now : Timestamp
  elapsed : Duration

/-- The outcome of one tick. -/
structure ZoneReport where
  zone : String
  speed : Single
  overheat : Bool
  /-- The sensor that was chosen, if any. -/
  selected : Option String
  failedWrites : Nat
  deriving DecidableEq

variable {World Probe Drive Outlet : Type} (P : Platform World Probe Drive Outlet)

namespace Members

def empty : Members Probe Drive := ⟨[], []⟩

instance : Inhabited (Members Probe Drive) := ⟨empty⟩

/-- Drives and probes with histories of one capacity. -/
def wrap (capacity : Nat) (drives : List Drive) (probes : List Probe) :
    Except Breach (Members Probe Drive) := do
  return ⟨← drives.mapM (Fan.wrap P capacity), ← probes.mapM (Sensor.wrap P capacity)⟩

/-- Reads every fan and every sensor. -/
def refresh (w : World) (now : Timestamp) (m : Members Probe Drive) : Members Probe Drive :=
  ⟨m.fans.map (Fan.refresh P w now), m.sensors.map (Sensor.refresh P w now)⟩

def setCapacity (capacity : Nat) (m : Members Probe Drive) : Members Probe Drive :=
  ⟨m.fans.map (Fan.setCapacity capacity), m.sensors.map (Sensor.setCapacity capacity)⟩

/-- The histories of all fans, then of all sensors. -/
def histories (m : Members Probe Drive) : List History :=
  m.fans.map Fan.history ++ m.sensors.map Sensor.history

end Members

namespace Zone

/-- The name of a zone's own history. -/
def speedHistoryName : String := "target"

/-- A zone without members. -/
def create (name : String) (config : Config) : Except Breach (Zone Probe Drive) := do
  return ⟨name, config, ← History.create speedHistoryName config.historyCapacity, none⟩

def isInitialized (z : Zone Probe Drive) : Bool := z.members.isSome

def fans (z : Zone Probe Drive) : List (Fan Drive) := (z.members.getD .empty).fans

def sensors (z : Zone Probe Drive) : List (Sensor Probe) := (z.members.getD .empty).sensors

/-- Binds members, unless some are bound. -/
def load (z : Zone Probe Drive) (members : Members Probe Drive) : Zone Probe Drive :=
  { z with members := z.members.or (some members) }

/-- Takes another configuration. If it asks for another capacity, every history gets it. -/
def reconfigure (z : Zone Probe Drive) (config : Config) : Zone Probe Drive :=
  if config.historyCapacity = z.config.historyCapacity then { z with config }
  else
    { z with
      config
      speed := z.speed.setCapacity config.historyCapacity
      members := z.members.map (Members.setCapacity config.historyCapacity) }

/-- Reads every fan and every sensor into its history. -/
def refresh (w : World) (now : Timestamp) (z : Zone Probe Drive) : Zone Probe Drive :=
  { z with members := z.members.map (Members.refresh P w now) }

/-- The speed commanded last. -/
def lastSpeed (z : Zone Probe Drive) : Option Single := z.speed.lastCommanded

/-- The speed to start from: the one commanded last, else the first one measured at a fan, both
moved into the allowed range, else full speed. -/
def startingSpeed (z : Zone Probe Drive) : Except Breach Single :=
  match z.lastSpeed.or (z.fans.findSome? Fan.speed) with
  | some speed => speed.clamp z.config.minSpeed maxSpeed
  | none => .ok maxSpeed

/-- All sensors of the zone, as they are now. -/
def evaluate (w : World) (z : Zone Probe Drive) : Aggregate :=
  (Aggregate.forConfig z.config).processAll (z.sensors.map (Sensor.reading P w))

end Zone

namespace Config

/-- The part of a full step that a tick is allowed: the elapsed time as a fraction of the nominal
interval, at most one. -/
def stepFactor (c : Config) (elapsed : Duration) : Single :=
  ((elapsed.toSeconds / c.intervalSecs).minNum (Binary.ofNat 1)).toSingle

/-- A step, scaled down for a tick that comes early. -/
def scaleStep (c : Config) (step : Single) (elapsed : Duration) : Single :=
  step * c.stepFactor elapsed

/-- Whether a place between target and ceiling lies within the deadband. -/
def inDeadband (c : Config) (deltap : Single) : Prop :=
  c.deadbandLow < deltap * Binary.ofNat 100 ∧ deltap * Binary.ofNat 100 < c.deadbandHigh

instance (c : Config) (deltap : Single) : Decidable (c.inDeadband deltap) :=
  inferInstanceAs (Decidable (_ ∧ _))

/-- The full step for a snapshot: down below the target and up from it on, each with its cap. -/
def fullStep (c : Config) (s : Snapshot) : Single :=
  if s.delta < Binary.ofNat 0 then (c.maxDecrease * s.deltap).maxNum (-c.maxDecrease)
  else (c.maxIncrease * s.deltap).minNum c.maxIncrease

/-- The speed that follows the last one. -/
def nextSpeed (c : Config) (last : Single) (a : Aggregate) (elapsed : Duration) : Single :=
  if a.overheat then maxSpeed
  else
    match a.choose with
    | none => maxSpeed
    | some s =>
      if c.inDeadband s.deltap then last
      else
        ((last + c.scaleStep (c.fullStep s) elapsed).maxNum c.minSpeed).minNum maxSpeed

end Config

namespace Zone

/-- Writes one speed to every fan, in order; also counts the writes that failed. -/
def commandAll (now : Timestamp) (speed : Single) :
    List (Fan Drive) → World → Nat × List (Fan Drive) × World
  | [], w => (0, [], w)
  | f :: fs, w =>
    let (written, f, w) := f.command P w now speed
    let (failed, fs, w) := commandAll now speed fs w
    ((if written then failed else failed + 1), f :: fs, w)

/-- One tick. Members that are offered are bound only if none are. -/
def run (z : Zone Probe Drive) (w : World) (tick : Tick) (offered : Option (Members Probe Drive))
    (refresh : Bool) : Except Breach (ZoneReport × Zone Probe Drive × World) := do
  let z := z.load (offered.getD .empty)
  let z := if refresh then z.refresh P w tick.now else z
  let last ← z.startingSpeed
  let aggregate := z.evaluate P w
  let speed := z.config.nextSpeed last aggregate tick.elapsed
  let (failed, fans, w) := commandAll P tick.now speed z.fans w
  let report : ZoneReport :=
    { zone := z.name
      speed
      overheat := aggregate.overheat
      selected := aggregate.choose.map Snapshot.sensor
      failedWrites := failed }
  let z :=
    { z with
      speed := z.speed.recordCommanded tick.now speed
      members := some ⟨fans, z.sensors⟩ }
  return (report, z, w)

/-! ## Diagnostics -/

/-- The newest samples of every fan, then of every sensor. -/
def exportRows (z : Zone Probe Drive) : List Export.Row :=
  (z.members.getD .empty).histories.flatMap Export.newestRows

/-- The histories of the zone itself and of its members. -/
def histories (z : Zone Probe Drive) : List History :=
  z.speed :: (z.members.getD .empty).histories

/-- A sample with its value widened, as the diagnostics dump shows it. -/
def dumpSample (s : Sample) : Json.Value :=
  .object [("timestamp", .double s.timestamp), ("value", .double s.value.toDouble)]

def dumpHistory (h : History) : Json.Value :=
  .object
    [("name", .string h.name), ("measured", .array (h.measured.map dumpSample)),
      ("commanded", .array (h.commanded.map dumpSample))]

/-- A dump of all histories. -/
def dump (z : Zone Probe Drive) : Json.Value :=
  .object
    [("zone", .string z.name), ("last_speed", .ofOption (fun x => .double x.toDouble) z.lastSpeed),
      ("histories", .array (z.histories.map dumpHistory))]

def label (z : Zone Probe Drive) : String := "CoolingZone(" ++ z.name ++ ")"

def describe (w : World) (z : Zone Probe Drive) : String :=
  Text.record "CoolingZone"
    [("name", Text.quote z.name), ("fans", Text.bracketed (z.fans.map Fan.describe)),
      ("sensors", Text.bracketed (z.sensors.map (Sensor.describe P w))),
      ("last_speed", Text.optionalNumber z.lastSpeed),
      ("initialized", Text.boolean z.isInitialized)]

/-! ## Single members -/

/-- Changes the first element that a test picks; also tells what came of it. -/
def changeFirst {α β : Type} (p : α → Bool) (change : α → β × α) : List α → Option (β × List α)
  | [] => none
  | x :: xs =>
    if p x then
      let (result, x) := change x
      some (result, x :: xs)
    else (changeFirst p change xs).map fun (result, xs) => (result, x :: xs)

/-- Changes the first sensor of a name. -/
def changeSensor {α : Type} (name : String) (change : Sensor Probe → α × Sensor Probe)
    (z : Zone Probe Drive) : Option (α × Zone Probe Drive) := do
  let m ← z.members
  let (result, sensors) ← changeFirst (fun s => s.name == name) change m.sensors
  return (result, { z with members := some { m with sensors } })

/-- Changes the first fan of a name. -/
def changeFan {α : Type} (name : String) (change : Fan Drive → α × Fan Drive)
    (z : Zone Probe Drive) : Option (α × Zone Probe Drive) := do
  let m ← z.members
  let (result, fans) ← changeFirst (fun f => f.name == name) change m.fans
  return (result, { z with members := some { m with fans } })

end Zone

end ChassisCooling
