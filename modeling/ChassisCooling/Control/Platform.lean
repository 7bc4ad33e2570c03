import ChassisCooling.Export.Row
import ChassisCooling.Thermal.Snapshot

/-!
# Platforms

What the control loop needs of the world: temperature probes, fan drives, and outlets for exported
rows. The state of the world is a value; reading leaves it as it is, writing yields the next one.
-/

namespace ChassisCooling

/-- Where exported rows go: a file for each zone in a directory, or an outlet supplied by the
caller. -/
inductive Destination (Outlet : Type) where
  | directory (path : String)
  | supplied (outlet : Outlet)

/-- The operations of a world with probes, drives and outlets. -/
structure Platform (World Probe Drive Outlet : Type) where
  probeName : Probe → String
  /-- The current temperature in degrees. -/
  temperature : Probe → World → Except Error Single
  limits : Probe → World → Limits
  driveName : Drive → String
  /-- The speed a fan runs at, in percent. -/
  speed : Drive → World → Except Error Single
  /-- Sets a fan's speed. A drive may change with it, and so may the world, even on failure. -/
  setSpeed : Drive → Single → World → Except Error Unit × Drive × World
  /-- Adds rows of a zone to a destination. -/
  deliver : Destination Outlet → String → List Export.Row → World → Except Error Unit × World

end ChassisCooling
