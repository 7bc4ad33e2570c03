import ChassisCooling.Machine.Basic
import ChassisCooling.Proofs.Control.Hardware

/-!
# The bench apart from the files

Simulated devices live on the bench, and files beside it. A simulated device looks at the bench only,
and rows that are handed out leave it as it is, wherever they go.

* `Machine.sameHardware_bench`: simulated devices on two machines with the same bench.
* `Machine.bench_deliver`: handing out rows.
-/

namespace ChassisCooling

theorem Drive.drive_setSpeed_simulated (i : Nat) (name : String) (speed : Single) (m : Machine) :
    ((Drive.simulated i name).setSpeed speed m).2.1 = .simulated i name := by
  simp only [Drive.setSpeed]
  split
  · rfl
  · split <;> rfl

namespace Machine

/-- Two machines with the same devices on the bench, whatever their files. -/
def SameBench (m m' : Machine) : Prop := m.bench = m'.bench

/-- All simulated devices, and sensors of some names. -/
def benchScope (names : String → Prop) : Scope Probe Drive where
  probes p := ∃ i name, p = .simulated i name
  drives d := ∃ i name, d = .simulated i name
  names := names

theorem setSpeed_simulated_alike {m m' : Machine} (h : m.SameBench m') (i : Nat)
    (name : String) (speed : Single) :
    ((Drive.simulated i name).setSpeed speed m).1 = ((Drive.simulated i name).setSpeed speed m').1 ∧
      ((Drive.simulated i name).setSpeed speed m).2.2.bench =
        ((Drive.simulated i name).setSpeed speed m').2.2.bench := by
  unfold SameBench at h
  simp only [Drive.setSpeed, h]
  split
  · exact ⟨rfl, h⟩
  · split
    · exact ⟨rfl, rfl⟩
    · exact ⟨rfl, h⟩

/-- Simulated devices cannot tell machines with the same bench apart. -/
theorem sameHardware_bench (names : String → Prop) :
    platform.SameHardware platform (benchScope names) SameBench := by
  constructor
  · rintro p m m' ⟨i, name, rfl⟩ h
    unfold SameBench at h
    unfold Sensor.read? platform Probe.temperature
    simp only [h]
  · rintro p m m' ⟨i, name, rfl⟩ h
    unfold SameBench at h
    show (m.bench.sensors[i]?.map _).getD _ = (m'.bench.sensors[i]?.map _).getD _
    rw [h]
  · rintro d m m' ⟨i, name, rfl⟩ h
    unfold SameBench at h
    unfold Fan.read? platform Drive.speed
    simp only [h]
  · rintro d m m' speed ⟨i, name, rfl⟩ h
    exact congrArg Except.isOk (setSpeed_simulated_alike h i name speed).1
  · rintro d m m' speed ⟨i, name, rfl⟩ -
    exact (Drive.drive_setSpeed_simulated ..).trans (Drive.drive_setSpeed_simulated ..).symm
  · rintro d m m' speed ⟨i, name, rfl⟩ -
    exact ⟨i, name, Drive.drive_setSpeed_simulated ..⟩
  · rintro d m m' speed ⟨i, name, rfl⟩ h
    exact (setSpeed_simulated_alike h i name speed).2

/-- Wherever rows go, they leave the bench as it is. -/
theorem bench_deliver (d : Destination Recorder) (zone : String) (rows : List Export.Row)
    (m : Machine) : (m.deliver d zone rows).2.bench = m.bench := by
  cases d <;> rfl

end Machine

end ChassisCooling
