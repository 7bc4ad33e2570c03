import ChassisCooling.Control.Platform
import ChassisCooling.Text.Inspection

/-!
# Fans

A drive with the history of the speeds read back from it and written to it.

* `Fan.poll`: reads the speed back, records it and answers with it; `Fan.refresh`: what that leaves.
* `Fan.command`: writes a speed, and records it if the write succeeds.
-/

namespace ChassisCooling

structure Fan (Drive : Type) where
  drive : Drive
  history : History

variable {World Probe Drive Outlet : Type} (P : Platform World Probe Drive Outlet)

namespace Fan

/-- A drive with an empty history. -/
def wrap (capacity : Nat) (drive : Drive) : Except Breach (Fan Drive) := do
  return ⟨drive, ← History.create (P.driveName drive) capacity⟩

def name (f : Fan Drive) : String := f.history.name

/-- Records a speed read elsewhere. -/
def record (f : Fan Drive) (now : Timestamp) (speed : Single) : Fan Drive :=
  { f with history := f.history.recordMeasured now speed }

/-- The speed that a drive shows, if the read succeeds and it is finite. -/
def read? (drive : Drive) (w : World) : Option Single :=
  match P.speed drive w with
  | .ok speed => if speed.isFinite then some speed else none
  | .error _ => none

/-- Reads the speed back and records it, and answers with it. A failed read changes nothing, and
there is no answer. -/
def poll (w : World) (now : Timestamp) (f : Fan Drive) : Option Single × Fan Drive :=
  match read? P f.drive w with
  | some speed => (some speed, f.record now speed)
  | none => (none, f)

/-- The fan after reading its speed back. -/
def refresh (w : World) (now : Timestamp) (f : Fan Drive) : Fan Drive := (f.poll P w now).2

theorem refresh_eq (w : World) (now : Timestamp) (f : Fan Drive) :
    f.refresh P w now =
      match read? P f.drive w with
      | some speed => f.record now speed
      | none => f := by
  unfold refresh poll
  cases read? P f.drive w <;> rfl

/-- The speed measured last. -/
def speed (f : Fan Drive) : Option Single := f.history.lastMeasured

/-- The speed measured before the last one. -/
def previousSpeed (f : Fan Drive) : Option Single := f.history.nthFromEnd 2

def lastCommanded (f : Fan Drive) : Option Single := f.history.lastCommanded

/-- Writes a speed and tells whether the write succeeded; only then it is recorded. -/
def command (w : World) (now : Timestamp) (speed : Single) (f : Fan Drive) :
    Bool × Fan Drive × World :=
  match P.setSpeed f.drive speed w with
  | (.ok (), drive, w) => (true, ⟨drive, f.history.recordCommanded now speed⟩, w)
  | (.error _, drive, w) => (false, ⟨drive, f.history⟩, w)

def setCapacity (capacity : Nat) (f : Fan Drive) : Fan Drive :=
  { f with history := f.history.setCapacity capacity }

def label (f : Fan Drive) : String := "FanActuator(" ++ f.name ++ ")"

def describe (f : Fan Drive) : String :=
  Text.record "FanActuator"
    [("name", Text.quote f.name), ("speed", Text.optionalNumber f.speed),
      ("last_commanded", Text.optionalNumber f.lastCommanded)]

end Fan

end ChassisCooling
