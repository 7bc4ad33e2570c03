import ChassisCooling.Control.Platform
import ChassisCooling.Text.Inspection

/-!
# Sensors

A probe with the history of its temperatures. A sensor whose latest read failed shows no
temperature until the next good one; its older samples stay in the history.

* `Sensor.poll`: reads the probe, records the temperature and answers with it; `Sensor.refresh` is
  what that leaves.
* `Sensor.record`: records a temperature read elsewhere.
* `Sensor.reading`: what the sensor shows.
-/

namespace ChassisCooling

structure Sensor (Probe : Type) where
  probe : Probe
  history : History
  /-- The latest read failed. -/
  stale : Bool

variable {World Probe Drive Outlet : Type} (P : Platform World Probe Drive Outlet)

namespace Sensor

/-- A probe with an empty history. -/
def wrap (capacity : Nat) (probe : Probe) : Except Breach (Sensor Probe) := do
  return ⟨probe, ← History.create (P.probeName probe) capacity, false⟩

def name (s : Sensor Probe) : String := s.history.name

/-- Records a temperature read elsewhere, whatever it is. -/
def record (s : Sensor Probe) (now : Timestamp) (value : Single) : Sensor Probe :=
  { s with history := s.history.recordMeasured now value, stale := false }

/-- The temperature that a probe shows, if the read succeeds and it is finite. -/
def read? (probe : Probe) (w : World) : Option Single :=
  match P.temperature probe w with
  | .ok value => if value.isFinite then some value else none
  | .error _ => none

/-- Reads the probe and records the temperature, which is the answer. Without one the read failed,
and there is no answer. -/
def poll (w : World) (now : Timestamp) (s : Sensor Probe) : Option Single × Sensor Probe :=
  match read? P s.probe w with
  | some value => (some value, s.record now value)
  | none => (none, { s with stale := true })

/-- The sensor after reading its probe. -/
def refresh (w : World) (now : Timestamp) (s : Sensor Probe) : Sensor Probe := (s.poll P w now).2

theorem poll_fst (w : World) (now : Timestamp) (s : Sensor Probe) :
    (s.poll P w now).1 = read? P s.probe w := by
  unfold poll
  cases read? P s.probe w <;> rfl

theorem refresh_eq (w : World) (now : Timestamp) (s : Sensor Probe) :
    s.refresh P w now =
      match read? P s.probe w with
      | some value => s.record now value
      | none => { s with stale := true } := by
  unfold refresh poll
  cases read? P s.probe w <;> rfl

/-- The latest temperature, unless the latest read failed. -/
def temperature (s : Sensor Probe) : Option Single :=
  if s.stale then none else s.history.lastMeasured

def reading (w : World) (s : Sensor Probe) : Reading :=
  ⟨s.name, s.temperature, P.limits s.probe w⟩

def setCapacity (capacity : Nat) (s : Sensor Probe) : Sensor Probe :=
  { s with history := s.history.setCapacity capacity }

def label (s : Sensor Probe) : String := "ThermalSensor(" ++ s.name ++ ")"

def describe (w : World) (s : Sensor Probe) : String :=
  let r := s.reading P w
  Text.record "ThermalSensor"
    [("name", Text.quote r.name), ("temperature", Text.optionalNumber r.temperature),
      ("overheat", Text.optionalNumber r.limits.overheat),
      ("critical", Text.optionalNumber r.limits.critical)]

end Sensor

end ChassisCooling
