import ChassisCooling.Config.Basic

/-!
# Duty cycles

A fan's raw duty cycle is a byte; speeds are percentages.

* `DutyCycle.ofPercent`: the nearest duty cycle, speeds outside 0 to 100 moved to the nearer end.
* `DutyCycle.toPercent`: the speed of a duty cycle.
-/

namespace ChassisCooling.DutyCycle

/-- The largest duty cycle. -/
def maxValue : UInt8 := 255

/-- A speed moved into the range from 0 to 100; not-a-number stays. -/
def clampPercent (percent : Single) : Single :=
  if percent < Binary.ofNat 0 then Binary.ofNat 0
  else if maxSpeed < percent then maxSpeed
  else percent

def ofPercent (percent : Single) : UInt8 :=
  (clampPercent percent / Binary.ofNat 100 * Binary.ofNat maxValue.toNat).roundHalfAway.toByte

def toPercent (value : UInt8) : Single :=
  Binary.ofNat value.toNat / Binary.ofNat maxValue.toNat * Binary.ofNat 100

end ChassisCooling.DutyCycle
