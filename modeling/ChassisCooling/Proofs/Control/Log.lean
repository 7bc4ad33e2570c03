import ChassisCooling.Control.Controller

/-!
# What a platform is asked to do

A platform that keeps a log: the speeds that drives are asked to run at and the rows that are handed
out, in order. A run against it does what the run against the plain platform does, and tells as
well what it asked for.

* `Platform.logged`: the platform with a log.
* `Zone.commandAll_logged`: each fan is asked once, in order, for the one speed.
* `Controller.exportRows_logged`: what a controller hands out.
-/

namespace ChassisCooling

/-- Rows of a zone on their way to a destination. -/
structure Delivery (Outlet : Type) where
  destination : Destination Outlet
  zone : String
  rows : List Export.Row

/-- What a platform was asked to do, oldest first. -/
structure Log (Drive Outlet : Type) where
  commands : List (Drive × Single)
  deliveries : List (Delivery Outlet)

variable {World Probe Drive Outlet : Type}

namespace Log

def empty : Log Drive Outlet := ⟨[], []⟩

/-- The log after the commands to several drives. -/
def command (l : Log Drive Outlet) (commands : List (Drive × Single)) : Log Drive Outlet :=
  { l with commands := l.commands ++ commands }

/-- The log after one more delivery. -/
def deliver (l : Log Drive Outlet) (d : Delivery Outlet) : Log Drive Outlet :=
  { l with deliveries := l.deliveries ++ [d] }

@[simp] theorem command_nil (l : Log Drive Outlet) : l.command [] = l := by
  simp [command]

@[simp] theorem command_command (l : Log Drive Outlet) (cs ds : List (Drive × Single)) :
    (l.command cs).command ds = l.command (cs ++ ds) := by
  simp [command]

end Log

/-- The platform with a log of what it is asked to do beside its world. -/
def Platform.logged (P : Platform World Probe Drive Outlet) :
    Platform (World × Log Drive Outlet) Probe Drive Outlet where
  probeName := P.probeName
  temperature probe w := P.temperature probe w.1
  limits probe w := P.limits probe w.1
  driveName := P.driveName
  speed drive w := P.speed drive w.1
  setSpeed drive speed w :=
    let (result, drive', w') := P.setSpeed drive speed w.1
    (result, drive', (w', w.2.command [(drive, speed)]))
  deliver destination zone rows w :=
    let (result, w') := P.deliver destination zone rows w.1
    (result, (w', w.2.deliver ⟨destination, zone, rows⟩))

variable (P : Platform World Probe Drive Outlet)

/-! ## Commands -/

theorem Fan.command_logged (w : World) (l : Log Drive Outlet) (now : Timestamp) (speed : Single)
    (f : Fan Drive) :
    f.command P.logged (w, l) now speed =
      let (written, f', w') := f.command P w now speed
      (written, f', (w', l.command [(f.drive, speed)])) := by
  rcases hset : P.setSpeed f.drive speed w with ⟨result, drive, w'⟩
  unfold command Platform.logged
  simp only [hset]
  cases result <;> rfl

namespace Zone

/-- Each fan is asked once, in order, for the one speed. -/
theorem commandAll_logged (now : Timestamp) (speed : Single) (fs : List (Fan Drive)) (w : World)
    (l : Log Drive Outlet) :
    commandAll P.logged now speed fs (w, l) =
      let (failed, fs', w') := commandAll P now speed fs w
      (failed, fs', (w', l.command (fs.map fun f => (f.drive, speed)))) := by
  -- Each command may change the world and the log, so both vary in the induction.
  induction fs generalizing w l with
  | nil => simp [commandAll]
  | cons f fs ih =>
    unfold commandAll
    rw [Fan.command_logged]
    simp only
    rw [ih, Log.command_command]
    rfl

end Zone

/-! ## Deliveries -/

namespace Controller

/-- What a controller hands out after a tick, except in simulation or without a destination. -/
def deliveries (c : Controller Probe Drive Outlet) : List (Delivery Outlet) :=
  if c.config.simulation then []
  else c.destination.toList.map fun d => ⟨d, c.zone.name, c.zone.exportRows⟩

/-- Rows are handed out one delivery after the other. -/
theorem exportRows_eq_foldl (c : Controller Probe Drive Outlet) (w : World) :
    c.exportRows P w =
      c.deliveries.foldl (fun w d => (P.deliver d.destination d.zone d.rows w).2) w := by
  unfold exportRows deliveries
  split
  · rfl
  · cases c.destination <;> rfl

theorem exportRows_logged (c : Controller Probe Drive Outlet) (w : World) (l : Log Drive Outlet) :
    c.exportRows P.logged (w, l) =
      (c.exportRows P w, { l with deliveries := l.deliveries ++ c.deliveries }) := by
  unfold exportRows deliveries
  split
  · simp
  · cases c.destination with
    | none => simp
    | some d => rfl

end Controller

end ChassisCooling
