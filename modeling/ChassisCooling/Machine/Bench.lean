import ChassisCooling.Thermal.Snapshot

/-!
# The bench

Simulated sensors and fans, numbered in the order in which they were set up. Their state is set
from outside, so that the control loop can be run against any behaviour.

* `Bench.addSensor`, `Bench.addFan`: setting up.
* `SimulatedFan.set`: a write, which fails if the fan is told to fail writes.
-/

namespace ChassisCooling

structure SimulatedSensor where
  name : String
  /-- What a read gives; without it a read fails. -/
  temperature : Option Single
  limits : Limits

structure SimulatedFan where
  name : String
  /-- What a read gives; without it a read fails. -/
  speed : Option Single
  /-- Speeds written so far, oldest first. -/
  writes : List Single
  failing : Bool

namespace SimulatedSensor

def path (s : SimulatedSensor) : String := "fake/" ++ s.name

def read (s : SimulatedSensor) : Except Error Single :=
  match s.temperature with
  | some value => .ok value
  | none => .error (.temperatureRead s.path "no reading")

end SimulatedSensor

namespace SimulatedFan

def path (f : SimulatedFan) : String := "fake/" ++ f.name

def read (f : SimulatedFan) : Except Error Single :=
  match f.speed with
  | some value => .ok value
  | none => .error (.fanRead f.path "no reading")

/-- Writes a speed, which becomes the speed that is read. A failing write changes nothing. -/
def set (f : SimulatedFan) (speed : Single) : Except Error SimulatedFan :=
  if f.failing then .error (.pwmWrite f.path "injected failure")
  else .ok { f with writes := f.writes ++ [speed], speed := some speed }

end SimulatedFan

structure Bench where
  sensors : List SimulatedSensor
  fans : List SimulatedFan

namespace Bench

def empty : Bench := ⟨[], []⟩

instance : Inhabited Bench := ⟨empty⟩

/-- Sets up a sensor and tells its number. -/
def addSensor (b : Bench) (s : SimulatedSensor) : Nat × Bench :=
  (b.sensors.length, { b with sensors := b.sensors ++ [s] })

/-- Sets up a fan and tells its number. -/
def addFan (b : Bench) (f : SimulatedFan) : Nat × Bench :=
  (b.fans.length, { b with fans := b.fans ++ [f] })

def changeSensor (b : Bench) (i : Nat) (change : SimulatedSensor → SimulatedSensor) : Bench :=
  { b with sensors := b.sensors.modify i change }

def changeFan (b : Bench) (i : Nat) (change : SimulatedFan → SimulatedFan) : Bench :=
  { b with fans := b.fans.modify i change }

end Bench

end ChassisCooling
