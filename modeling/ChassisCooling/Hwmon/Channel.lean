import ChassisCooling.Files.Tree
import ChassisCooling.Hwmon.DutyCycle
import ChassisCooling.Text.Blank
import ChassisCooling.Text.Inspection
import ChassisCooling.Text.Integer
import ChassisCooling.Thermal.Snapshot

/-!
# Sensor and fan channels

The files of a monitoring chip: `tempN_input` holds millidegrees, with `tempN_max` and `tempN_crit`
as thresholds and `tempN_label` as a name; `pwmN` holds a duty cycle, and `pwmN_enable` says who
controls it.

* `Hwmon.readMillidegrees`, `Hwmon.readDutyCycle`: the numbers in such files.
* `Hwmon.ThermalChannel`: a temperature channel. Names and thresholds are read once.
* `Hwmon.FanChannel`: a fan channel. The first write takes control of it.
-/

namespace ChassisCooling.Hwmon

open Files (Tree)
open Files.Path (join)
open Text (IntegerFault)

/-- Why a file holds no number. -/
inductive NumberFault where
  | unreadable (cause : Files.Failure)
  | malformed (text : String) (fault : IntegerFault)

def NumberFault.reason : NumberFault → String
  | unreadable cause => "Failed to read: " ++ cause.message
  | malformed text fault => "Failed to parse '" ++ text ++ "': " ++ fault.message

/-- The number that a file holds between blanks. -/
def readNumber {α : Type} (parse : List Char → Except IntegerFault α) (t : Tree) (path : String) :
    Except NumberFault α :=
  match t.readText path with
  | .error cause => .error (.unreadable cause)
  | .ok content =>
    let text := Text.trim content
    (parse text.toList).mapError (.malformed text)

/-- Millidegrees as degrees. -/
def degrees (millidegrees : Int) : Single := Binary.ofInt millidegrees / Binary.ofNat 1000

/-- A temperature in degrees, from a file that holds 32-bit millidegrees. -/
def readMillidegrees (t : Tree) (path : String) : Except Error Single :=
  match readNumber (Text.readSigned (UInt32.size / 2) (UInt32.size / 2 - 1)) t path with
  | .ok n => .ok (degrees n)
  | .error fault => .error (.temperatureRead path fault.reason)

/-- A speed in percent, from a file that holds a duty cycle. -/
def readDutyCycle (t : Tree) (path : String) : Except Error Single :=
  match readNumber (Text.readUnsigned 255) t path with
  | .ok n => .ok (DutyCycle.toPercent (UInt8.ofNat n))
  | .error fault => .error (.fanRead path fault.reason)

/-- The text of a file between blanks, unless there is none. -/
def readLabel (t : Tree) (path : String) : Option String :=
  match t.readText path with
  | .ok content =>
    let text := Text.trim content
    if text.isEmpty then none else some text
  | .error _ => none

/-- A number that may not be there. -/
def succeeded {α : Type} : Except Error α → Option α
  | .ok a => some a
  | .error _ => none

/-! ## Temperatures -/

structure ThermalChannel where
  name : String
  inputPath : String
  overheat : Option Single
  critical : Option Single
  deriving DecidableEq

namespace ThermalChannel

/-- A label with underscores for spaces. -/
def underscored (label : String) : String :=
  String.ofList (label.toList.map fun c => if c = ' ' then '_' else c)

/-- Channel `index` of a chip, as its files describe it now. -/
def describedAt (t : Tree) (chip directory : String) (index : Nat) : ThermalChannel :=
  let stem := "temp" ++ toString index
  let label := (readLabel t (join directory (stem ++ "_label"))).getD stem
  { name := chip ++ "_" ++ underscored label
    inputPath := join directory (stem ++ "_input")
    overheat := succeeded (readMillidegrees t (join directory (stem ++ "_max")))
    critical := succeeded (readMillidegrees t (join directory (stem ++ "_crit"))) }

def temperature (c : ThermalChannel) (t : Tree) : Except Error Single :=
  readMillidegrees t c.inputPath

/-- A channel has thresholds but no target of its own. -/
def limits (c : ThermalChannel) : Limits := ⟨c.overheat, c.critical, none⟩

def describe (c : ThermalChannel) : String :=
  Text.record "HwmonThermal"
    [("name", Text.quote c.name), ("input_path", Text.quote c.inputPath),
      ("overheat", Text.optionalNumber c.overheat), ("critical", Text.optionalNumber c.critical)]

end ThermalChannel

/-! ## Fans -/

structure FanChannel where
  name : String
  dutyPath : String
  enablePath : String
  /-- Control of the channel was taken. -/
  manual : Bool
  deriving DecidableEq

namespace FanChannel

/-- Channel `index` of a chip. -/
def ofIndex (chip directory : String) (index : Nat) : FanChannel :=
  let stem := "pwm" ++ toString index
  { name := chip ++ "_" ++ stem
    dutyPath := join directory stem
    enablePath := join directory (stem ++ "_enable")
    manual := false }

def speed (c : FanChannel) (t : Tree) : Except Error Single := readDutyCycle t c.dutyPath

/-- The mode of a channel under control. -/
def manualMode : String := "1"

/-- Takes control of the channel, unless that was done before. A channel without an enable file
is always under control. -/
def takeControl (c : FanChannel) (t : Tree) : Except Error Unit × FanChannel × Tree :=
  if c.manual then (.ok (), c, t)
  else if t.holds c.enablePath then
    match t.writeText c.enablePath manualMode with
    | .ok t => (.ok (), { c with manual := true }, t)
    | .error failure =>
      let reason := "Failed to enable manual PWM control: " ++ failure.message
      (.error (.pwmWrite c.enablePath reason), c, t)
  else (.ok (), { c with manual := true }, t)

/-- Sets the speed, in percent, of a channel under control. -/
def setSpeed (c : FanChannel) (speed : Single) (t : Tree) : Except Error Unit × FanChannel × Tree :=
  match c.takeControl t with
  | (.error e, c, t) => (.error e, c, t)
  | (.ok (), c, t) =>
    let duty := toString (DutyCycle.ofPercent speed).toNat
    match t.writeText c.dutyPath duty with
    | .ok t => (.ok (), c, t)
    | .error failure =>
      let reason := "Failed to write PWM value " ++ duty ++ ": " ++ failure.message
      (.error (.pwmWrite c.dutyPath reason), c, t)

def describe (c : FanChannel) : String :=
  Text.record "HwmonFan"
    [("name", Text.quote c.name), ("pwm_path", Text.quote c.dutyPath),
      ("enable_path", Text.quote c.enablePath), ("manual", Text.boolean c.manual)]

end FanChannel

end ChassisCooling.Hwmon
