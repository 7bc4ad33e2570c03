import ChassisCooling.Config.Basic
import ChassisCooling.Decimal.Style

/-!
# Readings and snapshots

A `Reading` is what a sensor shows at one moment. A `Snapshot` places a temperature between target
and ceiling: `deltap` is 0 at the target, 1 at the ceiling and above 1 beyond it.
-/

namespace ChassisCooling

/-- The thresholds and the target that a sensor states, in degrees. -/
structure Limits where
  overheat : Option Single
  critical : Option Single
  target : Option Single
  deriving DecidableEq

/-- What a sensor shows at one moment. -/
structure Reading where
  name : String
  temperature : Option Single
  limits : Limits
  deriving DecidableEq

namespace Reading

/-- A sensor takes part in control with a temperature and both thresholds. -/
def isValid (r : Reading) : Bool :=
  r.temperature.isSome && r.limits.overheat.isSome && r.limits.critical.isSome

end Reading

/-- One sensor's temperature against its target and ceiling. -/
structure Snapshot where
  sensor : String
  value : Single
  target : Single
  ceiling : Single
  /-- Degrees above the target. -/
  delta : Single
  /-- Degrees above the target, as a fraction of the way to the ceiling. -/
  deltap : Single
  deriving DecidableEq

namespace Snapshot

def of (sensor : String) (value target ceiling : Single) : Snapshot where
  sensor := sensor
  value := value
  target := target
  ceiling := ceiling
  delta := value - target
  deltap := (value - target) / (ceiling - target)

def describe (s : Snapshot) : String :=
  "ThermalSnapshot(sensor=" ++ s.sensor ++ ", value=" ++ s.value.writeFixed 2 ++
    ", target=" ++ s.target.writeFixed 2 ++ ", ceiling=" ++ s.ceiling.writeFixed 2 ++
    ", delta=" ++ s.delta.writeFixed 2 ++ ", deltap=" ++ s.deltap.writeFixed 3 ++ ")"

end Snapshot

end ChassisCooling
