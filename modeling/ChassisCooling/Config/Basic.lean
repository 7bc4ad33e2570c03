import ChassisCooling.Binary.Arithmetic
import ChassisCooling.Config.Targets
import ChassisCooling.Decimal.Style
import ChassisCooling.Duration
import ChassisCooling.Error

/-!
# Configuration

The tunables of the control loop. A configuration is a value: it is read once, checked, and
replaced as a whole.

* `Config`: the twelve fields; `Config.default`: their defaults.
* `Config.validate`: the checks of every field, of which the first that fails is reported.
* `Config.interval`: the nominal tick period as a duration.
-/

namespace ChassisCooling

/-- Seconds on the controller's monotonic clock. -/
abbrev Timestamp := Double

/-- Full speed in percent; also the fail-safe speed. -/
def maxSpeed : Single := Binary.ofNat 100

/-- No history keeps fewer samples. -/
def minHistoryCapacity : Nat := 3

structure Config where
  /-- Speed floor in percent. -/
  minSpeed : Single
  /-- Largest decrease over one nominal interval, in percent. -/
  maxDecrease : Single
  /-- Largest increase over one nominal interval, in percent. -/
  maxIncrease : Single
  /-- Added to every sensor's target; negative values bias toward cooler. -/
  targetOffset : Single
  /-- Lower edge of the band without change, in percent of the way from target to ceiling. -/
  deadbandLow : Single
  /-- Upper edge of the band without change. -/
  deadbandHigh : Single
  /-- Samples kept in each stream of a history. -/
  historyCapacity : Nat
  /-- Nominal tick period in seconds. -/
  intervalSecs : Double
  /-- The target of a sensor that has none, as a fraction of its overheat threshold. -/
  targetFactor : Single
  /-- Directory for exported rows; nothing is exported without one. -/
  exportPath : Option String
  /-- Simulation: never export. -/
  simulation : Bool
  /-- Targets that take the place of the sensors' own, by sensor name. -/
  sensorTargets : Targets Single

namespace Config

def default : Config where
  minSpeed := Binary.ofNat 30
  maxDecrease := Binary.ofNat 10
  maxIncrease := Binary.ofNat 20
  targetOffset := Binary.ofNat 0
  deadbandLow := Binary.ofInt (-10)
  deadbandHigh := Binary.ofNat 10
  historyCapacity := 10
  intervalSecs := Binary.ofNat 60
  targetFactor := Binary.ofDecimal false 8 (-1)
  exportPath := none
  simulation := false
  sensorTargets := .empty

instance : Inhabited Config := ⟨default⟩

/-- What is wrong with a field's value. -/
inductive Problem where
  | notPercentage (field : String) (value : Single)
  | notNonNegative (field : String) (value : Single)
  | notPositive (field : String) (value : Double)
  | offsetNotFinite
  | deadbandNotFinite
  | deadbandInverted (low high : Single)
  | capacityTooSmall (capacity : Nat)
  | factorOutOfRange (factor : Single)
  | targetNotFinite (sensor : String)
  deriving DecidableEq

namespace Problem

/-- The field that a message names. -/
def field : Problem → String
  | notPercentage field _ | notNonNegative field _ | notPositive field _ => field
  | offsetNotFinite => "target_offset"
  | deadbandNotFinite => "deadband"
  | deadbandInverted .. => "deadband_low"
  | capacityTooSmall _ => "history_capacity"
  | factorOutOfRange _ => "target_factor"
  | targetNotFinite sensor => "sensor_targets." ++ sensor

def reason : Problem → String
  | notPercentage _ value => value.toPlainText ++ " is not a percentage (0.0-100.0)"
  | notNonNegative _ value => value.toPlainText ++ " must be a finite value >= 0"
  | notPositive _ value => value.toPlainText ++ " must be a finite value > 0"
  | deadbandNotFinite => "bounds must be finite"
  | deadbandInverted low high =>
    low.toPlainText ++ " is above deadband_high " ++ high.toPlainText
  | capacityTooSmall capacity =>
    toString capacity ++ " is below the minimum of " ++ toString minHistoryCapacity
  | factorOutOfRange factor => factor.toPlainText ++ " is not within (0, 1]"
  | offsetNotFinite | targetNotFinite _ => "must be finite"

def toError (p : Problem) : Error := .invalidConfig p.field p.reason

end Problem

/-! ## Checks -/

/-- A finite number from 0 to 100. -/
def checkPercentage (field : String) (value : Single) : Except Problem Single :=
  if value.isFinite ∧ Binary.ofNat 0 ≤ value ∧ value ≤ maxSpeed then .ok value
  else .error (.notPercentage field value)

/-- A finite number that is not below zero. -/
def checkNonNegative (field : String) (value : Single) : Except Problem Single :=
  if value.isFinite ∧ ¬value < Binary.ofNat 0 then .ok value
  else .error (.notNonNegative field value)

/-- A finite number above zero. -/
def checkPositive (field : String) (value : Double) : Except Problem Double :=
  if value.isFinite ∧ ¬value ≤ Binary.ofNat 0 then .ok value
  else .error (.notPositive field value)

/-- A check that yields no value. -/
def require (p : Prop) [Decidable p] (problem : Problem) : Except Problem Unit :=
  if p then .ok () else .error problem

/-- The targets by sensor name, each of which must be finite. -/
def checkTargets : List (String × Single) → Except Problem Unit
  | [] => .ok ()
  | (name, target) :: rest => do
    require target.isFinite (.targetNotFinite name)
    checkTargets rest

/-- The checks of all fields, in order. -/
def check (c : Config) : Except Problem Unit := do
  discard <| checkPercentage "min_speed" c.minSpeed
  discard <| checkNonNegative "max_decrease" c.maxDecrease
  discard <| checkNonNegative "max_increase" c.maxIncrease
  require c.targetOffset.isFinite .offsetNotFinite
  require (c.deadbandLow.isFinite ∧ c.deadbandHigh.isFinite) .deadbandNotFinite
  require (¬c.deadbandHigh < c.deadbandLow) (.deadbandInverted c.deadbandLow c.deadbandHigh)
  require (minHistoryCapacity ≤ c.historyCapacity) (.capacityTooSmall c.historyCapacity)
  discard <| checkPositive "interval_secs" c.intervalSecs
  require (Binary.ofNat 0 < c.targetFactor ∧ c.targetFactor ≤ Binary.ofNat 1)
    (.factorOutOfRange c.targetFactor)
  checkTargets c.sensorTargets.entries

/-- A configuration is refused for its first problem. -/
def validate (c : Config) : Except Error Unit := c.check.mapError Problem.toError

/-! ## Derived settings -/

/-- The nominal tick period. A period that is no duration cannot be run with. -/
def interval (c : Config) : Except Breach Duration :=
  match Duration.ofSeconds? c.intervalSecs with
  | some d => .ok d
  | none => .error .invalidInterval

/-- The same configuration with another speed floor. -/
def withMinSpeed (c : Config) (minSpeed : Single) : Config := { c with minSpeed }

/-- Rows are exported if there is a directory for them, except in simulation. -/
def exportEnabled (c : Config) : Bool := c.exportPath.isSome && !c.simulation

/-- The tables agree name by name and number by number. -/
def sameTargets : List (String × Single) → List (String × Single) → Bool
  | [], [] => true
  | (k, x) :: xs, (l, y) :: ys => k == l && x.numEq y && sameTargets xs ys
  | _, _ => false

/-- Equality of all fields, numbers as numbers: a field that is not a number differs from
itself. -/
def numEq (c d : Config) : Bool :=
  c.minSpeed.numEq d.minSpeed && c.maxDecrease.numEq d.maxDecrease &&
    c.maxIncrease.numEq d.maxIncrease && c.targetOffset.numEq d.targetOffset &&
    c.deadbandLow.numEq d.deadbandLow && c.deadbandHigh.numEq d.deadbandHigh &&
    c.historyCapacity == d.historyCapacity && c.intervalSecs.numEq d.intervalSecs &&
    c.targetFactor.numEq d.targetFactor && c.exportPath == d.exportPath &&
    c.simulation == d.simulation && sameTargets c.sensorTargets.entries d.sensorTargets.entries

end Config

end ChassisCooling
