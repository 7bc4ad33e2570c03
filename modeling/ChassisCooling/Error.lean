import ChassisCooling.Binary.Basic
import ChassisCooling.Files.Failure
import ChassisCooling.Json.Fault

/-!
# Errors and breaches

* `Error`: what configuration, hardware and export can report, with its text.
* `Error.isHardware`: errors of a hardware read or write.
* `Breach`: a precondition that does not hold, which ends the program.
-/

namespace ChassisCooling

/-- What can go wrong in the world outside the control loop. -/
inductive Error where
  | io (cause : Files.Failure)
  | fileRead (path : String) (cause : Files.Failure)
  | temperatureRead (path reason : String)
  | fanRead (path reason : String)
  | pwmWrite (path reason : String)
  | hardwareNotFound (reason : String)
  | jsonParse (cause : Json.TextError)
  | invalidConfig (field reason : String)
  | exportFailed (path : String) (cause : Files.Failure)
  | generic (text : String)
  deriving DecidableEq

namespace Error

def message : Error → String
  | io cause => "I/O error: " ++ cause.message
  | fileRead path cause => "Failed to read file " ++ path ++ ": " ++ cause.message
  | temperatureRead path reason => "Failed to read temperature from " ++ path ++ ": " ++ reason
  | fanRead path reason => "Failed to read fan speed from " ++ path ++ ": " ++ reason
  | pwmWrite path reason => "Failed to write PWM to " ++ path ++ ": " ++ reason
  | hardwareNotFound reason => "Hardware not found: " ++ reason
  | jsonParse cause => "Failed to parse JSON: " ++ cause.message
  | invalidConfig field reason =>
    "Invalid configuration value for " ++ field ++ ": " ++ reason
  | exportFailed path cause => "Export to " ++ path ++ " failed: " ++ cause.message
  | generic text => text

/-- Errors raised by a hardware read or write. -/
def isHardware : Error → Bool
  | temperatureRead .. | fanRead .. | pwmWrite .. | hardwareNotFound .. => true
  | _ => false

/-- The texts of an error and of what caused it, the error first. -/
def chain (e : Error) : List String :=
  e.message ::
    match e with
    | io cause | fileRead _ cause | exportFailed _ cause => [cause.message]
    | jsonParse cause => [cause.message]
    | _ => []

end Error

/-- A precondition that does not hold. Nothing is computed any more. -/
inductive Breach where
  /-- The lowest allowed speed is above the highest, or not a number. -/
  | emptySpeedRange
  /-- The tick period is negative, too long, or not a number. -/
  | invalidInterval
  /-- A history asks for more room than can be addressed. -/
  | historyTooLarge
  deriving DecidableEq

namespace Binary

/-- A number moved into a range by the least amount; not-a-number stays. The range must not be
empty. -/
def clamp {f : Format} (x low high : Binary f) : Except Breach (Binary f) :=
  if low ≤ high then .ok (if x < low then low else if high < x then high else x)
  else .error .emptySpeedRange

end Binary

end ChassisCooling
