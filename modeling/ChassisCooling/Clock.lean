import ChassisCooling.Config.Basic

/-!
# A clock set by hand

For tests and replay: it shows what it was set to, moved on by what it was advanced.
-/

namespace ChassisCooling

structure Clock where
  now : Timestamp
  deriving DecidableEq

namespace Clock

def set (_ : Clock) (now : Timestamp) : Clock := ⟨now⟩

def advance (c : Clock) (seconds : Double) : Clock := ⟨c.now + seconds⟩

end Clock

end ChassisCooling
