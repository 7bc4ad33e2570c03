import ChassisCooling.Control.Controller
import ChassisCooling.Export.Directory
import ChassisCooling.Hwmon.Inventory
import ChassisCooling.Machine.Bench

/-!
# The machine

The world that the program runs in: a file tree with the monitoring chips' files, and a bench of
simulated devices beside it.

* `Machine`: files, bench, and what recording outlets were given.
* `Machine.platform`: the platform of probes and drives of either kind.
-/

namespace ChassisCooling

structure Machine where
  files : Files.Tree
  bench : Bench
  /-- What recording outlets were given, oldest first. -/
  recorded : List (String × List Export.Row)

namespace Machine

/-- A machine with nothing on it. -/
def blank : Machine := ⟨.blank, .empty, []⟩

instance : Inhabited Machine := ⟨blank⟩

end Machine

/-- A temperature source: simulated, by its number and name, or a chip's channel. -/
inductive Probe where
  | simulated (number : Nat) (name : String)
  | channel (c : Hwmon.ThermalChannel)

/-- A fan: simulated, by its number and name, or a chip's channel. -/
inductive Drive where
  | simulated (number : Nat) (name : String)
  | channel (c : Hwmon.FanChannel)

/-- An outlet that keeps what it is given, and may report failure all the same. -/
structure Recorder where
  failing : Bool

namespace Probe

def name : Probe → String
  | simulated _ name => name
  | channel c => c.name

def temperature (p : Probe) (m : Machine) : Except Error Single :=
  match p with
  | simulated i name =>
    match m.bench.sensors[i]? with
    | some s => s.read
    | none => .error (.temperatureRead name "no such device")
  | channel c => c.temperature m.files

def limits (p : Probe) (m : Machine) : Limits :=
  match p with
  | simulated i _ => (m.bench.sensors[i]?.map SimulatedSensor.limits).getD ⟨none, none, none⟩
  | channel c => c.limits

end Probe

namespace Drive

def name : Drive → String
  | simulated _ name => name
  | channel c => c.name

def speed (d : Drive) (m : Machine) : Except Error Single :=
  match d with
  | simulated i name =>
    match m.bench.fans[i]? with
    | some f => f.read
    | none => .error (.fanRead name "no such device")
  | channel c => c.speed m.files

def setSpeed (d : Drive) (speed : Single) (m : Machine) : Except Error Unit × Drive × Machine :=
  match d with
  | simulated i name =>
    match m.bench.fans[i]? with
    | none => (.error (.pwmWrite name "no such device"), d, m)
    | some f =>
      match f.set speed with
      | .ok f => (.ok (), d, { m with bench := m.bench.changeFan i fun _ => f })
      | .error e => (.error e, d, m)
  | channel c =>
    let (result, c, files) := c.setSpeed speed m.files
    (result, channel c, { m with files })

end Drive

/-- Adds rows to a directory's file, or to what was recorded. -/
def Machine.deliver (destination : Destination Recorder) (zone : String) (rows : List Export.Row)
    (m : Machine) : Except Error Unit × Machine :=
  match destination with
  | .directory path =>
    let (result, files) := Export.appendRows path zone rows m.files
    (result, { m with files })
  | .supplied recorder =>
    ((if recorder.failing then .error (.generic "injected failure") else .ok ()),
      { m with recorded := m.recorded ++ [(zone, rows)] })

/-- The machine as a platform. -/
def Machine.platform : Platform Machine Probe Drive Recorder where
  probeName := Probe.name
  temperature := Probe.temperature
  limits := Probe.limits
  driveName := Drive.name
  speed := Drive.speed
  setSpeed := Drive.setSpeed
  deliver := Machine.deliver

/-- Members of an inventory, with histories of one capacity. -/
def Hwmon.Inventory.toMembers (i : Hwmon.Inventory) (capacity : Nat) :
    Except Breach (Members Probe Drive) :=
  Members.wrap Machine.platform capacity (i.fans.map .channel) (i.thermals.map .channel)

end ChassisCooling
