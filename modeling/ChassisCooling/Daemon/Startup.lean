import ChassisCooling.Config.Load
import ChassisCooling.Machine.Basic

/-!
# Starting and reloading

* `Daemon.build`: a controller bound to the channels that are found.
* `Daemon.reload`: the configuration read again and taken, if that succeeds;
  `Daemon.reloadInPlace`: the same in place.
-/

namespace ChassisCooling.Daemon

/-- Why there is no daemon: an error in some context, or a breach. -/
inductive StartFailure where
  | error (context : String) (e : Error)
  | breach (b : Breach)

/-- The channels below a root, wrapped for binding. In simulation a missing root is an empty
one. -/
def findMembers (config : Config) (root : String) (t : Files.Tree) :
    Except StartFailure (Members Probe Drive) :=
  match Hwmon.discover t root with
  | .ok inventory => (inventory.toMembers config.historyCapacity).mapError .breach
  | .error e =>
    if config.simulation then .ok .empty
    else .error (.error ("hwmon discovery under " ++ root ++ " failed") e)

/-- A refused configuration as a failure to start. -/
def refused : Refusal → StartFailure
  | .error e => .error "invalid cooling configuration" e
  | .breach b => .breach b

/-- A controller whose zone is bound to the channels below a root. -/
def build (config : Config) (root : String) (t : Files.Tree) :
    Except StartFailure (Controller Probe Drive Recorder) := do
  let members ← findMembers config root t
  let controller ← (Controller.create config).mapError refused
  return (controller.load systemZone members).2

/-- Reads the configuration file again and takes what it holds. -/
def reload {Probe Drive Outlet : Type} (path : String) (t : Files.Tree)
    (c : Controller Probe Drive Outlet) : Except Error (Controller Probe Drive Outlet) := do
  c.reconfigure (← Config.load t path)

/-- Reads the configuration file again and takes what it holds, in place. -/
def reloadInPlace {Probe Drive Outlet : Type} (path : String) (t : Files.Tree) :
    Controller.Update Probe Drive Outlet Unit := do
  let config ← MonadExcept.ofExcept (Config.load t path)
  Controller.reconfigureInPlace config

end ChassisCooling.Daemon
