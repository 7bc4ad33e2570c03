import ChassisCooling.Thermal.Snapshot

/-!
# The sensors of one tick

An aggregate collects the snapshots of the usable sensors, remembers whether one of them is past
its ceiling, and picks the most critical one.

* `Aggregate.process`: takes one more reading.
* `Aggregate.choose`: the first snapshot of highest `deltap`.
-/

namespace ChassisCooling

structure Aggregate where
  /-- Added to every target. -/
  offset : Single
  /-- The target of a sensor that has none, as a fraction of its overheat threshold. -/
  factor : Single
  /-- Targets that take the place of the sensors' own. -/
  targets : Targets Single
  overheat : Bool
  snapshots : List Snapshot

namespace Aggregate

/-- An aggregate without readings and without targets by name. -/
def start (offset factor : Single) : Aggregate :=
  { offset, factor, targets := .empty, overheat := false, snapshots := [] }

/-- An aggregate without readings, with a configuration's offset, factor and targets. -/
def forConfig (c : Config) : Aggregate :=
  { start c.targetOffset c.targetFactor with targets := c.sensorTargets }

/-- A sensor's target before the offset: the one given by name, else the sensor's own, else a
fraction of its overheat threshold. -/
def baseTarget (a : Aggregate) (name : String) (own : Option Single) (overheat : Single) : Single :=
  ((a.targets.get? name).or own).getD (a.factor * overheat)

/-- A temperature above its ceiling sets the overheat flag for good. -/
def flag (a : Aggregate) (value ceiling : Single) : Aggregate :=
  { a with overheat := a.overheat || decide (ceiling < value) }

/-- Takes one reading. A reading without a temperature or without both thresholds is passed over,
and so is one whose target or ceiling is not above zero. The ceiling is the lower threshold; if it
is not above the target there is an overheat flag at most, and no snapshot. -/
def process (a : Aggregate) (r : Reading) : Aggregate :=
  match r.temperature, r.limits.overheat, r.limits.critical with
  | some value, some overheat, some critical =>
    let ceiling := overheat.minNum critical
    let target := a.baseTarget r.name r.limits.target overheat + a.offset
    if target ≤ Binary.ofNat 0 ∨ ceiling ≤ Binary.ofNat 0 then a
    else if ceiling ≤ target then a.flag value ceiling
    else
      let flagged := a.flag value ceiling
      { flagged with snapshots := flagged.snapshots ++ [.of r.name value target ceiling] }
  | _, _, _ => a

def processAll (a : Aggregate) (rs : List Reading) : Aggregate := rs.foldl process a

/-- The later of two snapshots if its `deltap` is higher, else the earlier. -/
def moreCritical (s t : Snapshot) : Snapshot := if s.deltap < t.deltap then t else s

/-- The most critical snapshot; of several, the first. -/
def choose (a : Aggregate) : Option Snapshot :=
  match a.snapshots with
  | [] => none
  | s :: rest => some (rest.foldl moreCritical s)

end Aggregate

end ChassisCooling
