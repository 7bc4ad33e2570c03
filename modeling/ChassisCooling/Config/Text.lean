import ChassisCooling.Config.Basic
import ChassisCooling.Json.Reader
import ChassisCooling.Json.Value

/-!
# The text of a configuration

An object with the fields by name, in any order, or an array of the fields in declaration order.
Fields that are left out have their defaults; unknown and repeated names are refused.

* `Config.Field`: the twelve fields and their names.
* `Config.read`, `Config.ofText`: reading.
* `Config.toValue`: what is written, field by field.
-/

namespace ChassisCooling.Config

open Json (Fault Parsed Reader Stop TextError Value)

/-- The fields of a configuration. -/
inductive Field where
  | minSpeed
  | maxDecrease
  | maxIncrease
  | targetOffset
  | deadbandLow
  | deadbandHigh
  | historyCapacity
  | intervalSecs
  | targetFactor
  | exportPath
  | simulation
  | sensorTargets
  deriving DecidableEq

namespace Field

/-- All fields in declaration order. -/
def all : List Field :=
  [minSpeed, maxDecrease, maxIncrease, targetOffset, deadbandLow, deadbandHigh, historyCapacity,
    intervalSecs, targetFactor, exportPath, simulation, sensorTargets]

def name : Field → String
  | minSpeed => "min_speed"
  | maxDecrease => "max_decrease"
  | maxIncrease => "max_increase"
  | targetOffset => "target_offset"
  | deadbandLow => "deadband_low"
  | deadbandHigh => "deadband_high"
  | historyCapacity => "history_capacity"
  | intervalSecs => "interval_secs"
  | targetFactor => "target_factor"
  | exportPath => "export_path"
  | simulation => "simulation"
  | sensorTargets => "sensor_targets"

/-- The field of a name. -/
def ofName? (name : String) : Option Field := all.find? fun field => field.name == name

end Field

/-! ## Reading -/

/-- A target into a table, in place of an earlier one of the same name. -/
def readTarget (targets : Targets Single) (name : String) (s : List Char) :
    Except Stop (Parsed (Targets Single)) := do
  let s ← Json.readColon s
  let (target, rest) ← Json.readSingle s
  return (targets.insert name target, rest)

def readTargets (s : List Char) : Except Stop (Parsed (Targets Single)) :=
  match Json.skipBlanks s with
  | '\x7b' :: rest => Json.readObject readTarget .empty rest
  | s => .error (Json.unexpected "a map" s)

/-- A reader of one field, as a change of a configuration. -/
def into {α : Type} (change : α → Config) (read : Reader α) (s : List Char) :
    Except Stop (Parsed Config) := do
  let (a, rest) ← read s
  return (change a, rest)

/-- A configuration with the value of one field. -/
def readField (c : Config) : Field → Reader Config
  | .minSpeed => into (fun x => { c with minSpeed := x }) Json.readSingle
  | .maxDecrease => into (fun x => { c with maxDecrease := x }) Json.readSingle
  | .maxIncrease => into (fun x => { c with maxIncrease := x }) Json.readSingle
  | .targetOffset => into (fun x => { c with targetOffset := x }) Json.readSingle
  | .deadbandLow => into (fun x => { c with deadbandLow := x }) Json.readSingle
  | .deadbandHigh => into (fun x => { c with deadbandHigh := x }) Json.readSingle
  | .historyCapacity => into (fun n => { c with historyCapacity := n }) Json.readCount
  | .intervalSecs => into (fun x => { c with intervalSecs := x }) Json.readDouble
  | .targetFactor => into (fun x => { c with targetFactor := x }) Json.readSingle
  | .exportPath => into (fun path => { c with exportPath := path }) Json.readPath
  | .simulation => into (fun b => { c with simulation := b }) Json.readBool
  | .sensorTargets => into (fun targets => { c with sensorTargets := targets }) readTargets

/-- Where reading stops at a name that may not stand here: the closing bracket, if it is next, is
still read. -/
def refuseName (fault : Fault) (s : List Char) : Stop :=
  match Json.skipBlanks s with
  | '\x7d' :: rest => .before fault rest
  | rest => .before fault rest

/-- A member of an object into its field. The fields that were read come with the configuration. -/
def readMember (state : List Field × Config) (name : String) (s : List Char) :
    Except Stop (Parsed (List Field × Config)) :=
  let (seen, c) := state
  match Field.ofName? name with
  | none => .error (refuseName (.unknownField name (Field.all.map Field.name)) s)
  | some field =>
    if field ∈ seen then .error (refuseName (.repeatedField name) s)
    else do
      let s ← Json.readColon s
      let (c, rest) ← readField c field s
      return ((field :: seen, c), rest)

/-- The end of an array that holds all fields. -/
def readListEnd (c : Config) (s : List Char) : Except Stop (Parsed Config) :=
  match Json.skipBlanks s with
  | [] => .error (.on .endInList [])
  | ']' :: rest => .ok (c, rest)
  | ',' :: rest =>
    match Json.skipBlanks rest with
    | ']' :: rest => .error (.on .trailingComma (']' :: rest))
    | rest => .error (.on .trailingText rest)
  | rest => .error (.on .trailingText rest)

/-- The items of an array into the fields in order. -/
def readItems (c : Config) (first : Bool) : List Field → Reader Config
  | [], s => readListEnd c s
  | field :: fields, s => do
    match ← Json.Brackets.list.next first s with
    | .closed rest => return (c, rest)
    | .element s =>
      let (c, rest) ← readField c field s
      readItems c false fields rest

/-- A configuration as an object or an array. -/
def read (s : List Char) : Except Stop (Parsed Config) :=
  match Json.skipBlanks s with
  | '\x7b' :: rest => do
    let ((_, c), rest) ← Json.readObject readMember ([], default) rest
    return (c, rest)
  | '[' :: rest => readItems default true Field.all rest
  | s => .error (Json.unexpected "struct CoolingConfig" s)

/-- A configuration from its text. Nothing is checked but the form. -/
def ofText (text : String) : Except TextError Config := Json.ofText read text

/-! ## Writing -/

def fieldValue (c : Config) : Field → Value
  | .minSpeed => .single c.minSpeed
  | .maxDecrease => .single c.maxDecrease
  | .maxIncrease => .single c.maxIncrease
  | .targetOffset => .single c.targetOffset
  | .deadbandLow => .single c.deadbandLow
  | .deadbandHigh => .single c.deadbandHigh
  | .historyCapacity => .natural c.historyCapacity
  | .intervalSecs => .double c.intervalSecs
  | .targetFactor => .single c.targetFactor
  | .exportPath => .ofOption .string c.exportPath
  | .simulation => .bool c.simulation
  | .sensorTargets => .object (c.sensorTargets.entries.map fun entry => (entry.1, .single entry.2))

/-- All fields in declaration order. -/
def toValue (c : Config) : Value :=
  .object (Field.all.map fun field => (field.name, c.fieldValue field))

end ChassisCooling.Config
