import ChassisCooling.Proofs.Control.ExportIndependence
import ChassisCooling.Proofs.Files.Alike
import ChassisCooling.Proofs.Hwmon.DutyCycle
import ChassisCooling.Proofs.Machine.Footprint
import Mathlib.Data.Nat.Digits.Defs
import Mathlib.Data.String.Basic

/-!
# Channels apart from exported rows

What a channel shows and does depends on where the paths of its files lead, and on nothing else of
a tree. Rows that are exported to a directory leave these files alone, unless a directory on the way
to the rows is made in the place of one of them: the file of rows itself has a name with a dot in
it, and the files of a channel have none.

* `FanChannel.setSpeed_alike`: a channel in two trees that are the same at its files.
* `Machine.SameChannels`, `Machine.channelScope`: machines on which channels cannot be told apart,
  `Machine.sameHardware_channels`.
* `Machine.harmlessAt_directory`: exported rows do no harm to the channels that discovery found.
* `Daemon.ticks_alike`: two daemons for the same chips that export rows in different ways.
-/

namespace ChassisCooling

open Files (Location Tree)
open Files.Path (Above place)
open Hwmon (FanChannel Inventory ThermalChannel)

variable {start : Location} {paths : String → Prop}

/-! ## One channel -/

theorem Hwmon.ThermalChannel.temperature_eq_of_sameAt {c : ThermalChannel} {t t' : Tree}
    (h : t.SameAt t' c.inputPath) : c.temperature t = c.temperature t' := by
  unfold temperature readMillidegrees readNumber
  rw [h.readText_eq]

namespace Hwmon.FanChannel

variable {c : FanChannel} {t t' : Tree}

theorem speed_eq_of_sameAt (h : t.SameAt t' c.dutyPath) : c.speed t = c.speed t' := by
  unfold speed readDutyCycle readNumber
  rw [h.readText_eq]

theorem takeControl_alike (h : t.SameOn start paths t') (hpath : paths c.enablePath) :
    (c.takeControl t).1 = (c.takeControl t').1 ∧ (c.takeControl t).2.1 = (c.takeControl t').2.1 ∧
      (c.takeControl t).2.2.SameOn start paths (c.takeControl t').2.2 := by
  have hwrite := h.writeText hpath manualMode
  unfold takeControl
  rw [(h.sameAt _ hpath).holds_eq]
  split
  · exact ⟨rfl, rfl, h⟩
  split
  · generalize t.writeText c.enablePath manualMode = x at hwrite ⊢
    generalize t'.writeText c.enablePath manualMode = x' at hwrite ⊢
    cases hwrite with
    | ok hleft => exact ⟨rfl, rfl, hleft⟩
    | error failure => exact ⟨rfl, rfl, h⟩
  · exact ⟨rfl, rfl, h⟩

theorem setSpeed_alike (h : t.SameOn start paths t') (hduty : paths c.dutyPath)
    (henable : paths c.enablePath) (speed : Single) :
    (c.setSpeed speed t).1 = (c.setSpeed speed t').1 ∧
      (c.setSpeed speed t).2.1 = (c.setSpeed speed t').2.1 ∧
      (c.setSpeed speed t).2.2.SameOn start paths (c.setSpeed speed t').2.2 := by
  have htaken := takeControl_alike h henable
  have hpath := (sameFiles_takeControl c t).dutyPath
  unfold setSpeed
  rcases htake : c.takeControl t with ⟨result, c₁, t₁⟩
  rcases htake' : c.takeControl t' with ⟨result', c₁', t₁'⟩
  rw [htake, htake'] at htaken
  rw [htake] at hpath
  obtain ⟨rfl, rfl, hleft⟩ := htaken
  cases result with
  | error e => exact ⟨rfl, rfl, hleft⟩
  | ok u =>
    dsimp only at hpath hleft ⊢
    rw [hpath]
    have hwrite := hleft.writeText hduty (toString (DutyCycle.ofPercent speed).toNat)
    generalize t₁.writeText c.dutyPath _ = x at hwrite ⊢
    generalize t₁'.writeText c.dutyPath _ = x' at hwrite ⊢
    cases hwrite with
    | ok hlast => exact ⟨rfl, rfl, hlast⟩
    | error failure => exact ⟨rfl, rfl, hleft⟩

end Hwmon.FanChannel

/-! ## Two machines -/

theorem Drive.files_setSpeed_simulated (i : Nat) (name : String) (speed : Single) (m : Machine) :
    ((Drive.simulated i name).setSpeed speed m).2.2.files = m.files := by
  simp only [Drive.setSpeed]
  split
  · rfl
  · split <;> rfl

namespace Machine

variable {m m' : Machine}

/-- Machines with the same bench, whose trees are the same at some paths. -/
structure SameChannels (start : Location) (paths : String → Prop) (m m' : Machine) : Prop where
  bench : m.SameBench m'
  files : m.files.SameOn start paths m'.files

theorem SameChannels.symm (h : SameChannels start paths m m') : SameChannels start paths m' m :=
  ⟨h.bench.symm, h.files.symm⟩

/-- All simulated devices, the channels whose files are at some paths, and sensors of some names. -/
def channelScope (paths names : String → Prop) : Scope Probe Drive where
  probes p := (benchScope names).probes p ∨ ∃ c, p = .channel c ∧ paths c.inputPath
  drives d :=
    (benchScope names).drives d ∨ ∃ c, d = .channel c ∧ paths c.dutyPath ∧ paths c.enablePath
  names := names

theorem setSpeed_channel_alike (h : SameChannels start paths m m') {c : FanChannel}
    (hduty : paths c.dutyPath) (henable : paths c.enablePath) (speed : Single) :
    ((Drive.channel c).setSpeed speed m).1 = ((Drive.channel c).setSpeed speed m').1 ∧
      ((Drive.channel c).setSpeed speed m).2.1 = ((Drive.channel c).setSpeed speed m').2.1 ∧
      SameChannels start paths ((Drive.channel c).setSpeed speed m).2.2
        ((Drive.channel c).setSpeed speed m').2.2 := by
  obtain ⟨hresult, hchannel, hleft⟩ := FanChannel.setSpeed_alike h.files hduty henable speed
  exact ⟨hresult, congrArg Drive.channel hchannel, h.bench, hleft⟩

/-- Channels cannot tell machines apart whose trees are the same at their files. -/
theorem sameHardware_channels (start : Location) (paths names : String → Prop) :
    platform.SameHardware platform (channelScope paths names) (SameChannels start paths) := by
  have hbench := sameHardware_bench names
  constructor
  · rintro p m m' (hp | ⟨c, rfl, hinput⟩) h
    · exact hbench.temperature hp h.bench
    · have htemperature : platform.temperature (.channel c) m =
          platform.temperature (.channel c) m' :=
        ThermalChannel.temperature_eq_of_sameAt (h.files.sameAt _ hinput)
      unfold Sensor.read?
      rw [htemperature]
  · rintro p m m' (hp | ⟨c, rfl, -⟩) h
    · exact hbench.limits hp h.bench
    · rfl
  · rintro d m m' (hd | ⟨c, rfl, hduty, -⟩) h
    · exact hbench.speed hd h.bench
    · have hspeed : platform.speed (.channel c) m = platform.speed (.channel c) m' :=
        FanChannel.speed_eq_of_sameAt (h.files.sameAt _ hduty)
      unfold Fan.read?
      rw [hspeed]
  · rintro d m m' speed (hd | ⟨c, rfl, hduty, henable⟩) h
    · exact hbench.written speed hd h.bench
    · exact congrArg Except.isOk (setSpeed_channel_alike h hduty henable speed).1
  · rintro d m m' speed (hd | ⟨c, rfl, hduty, henable⟩) h
    · exact hbench.drive speed hd h.bench
    · exact (setSpeed_channel_alike h hduty henable speed).2.1
  · rintro d m m' speed (hd | ⟨c, rfl, hduty, henable⟩) h
    · exact .inl (hbench.drive_mem speed hd h.bench)
    · have hfiles := FanChannel.sameFiles_setSpeed c speed m.files
      exact .inr ⟨_, rfl, hfiles.dutyPath.symm ▸ hduty, hfiles.enablePath.symm ▸ henable⟩
  · rintro d m m' speed (hd | ⟨c, rfl, hduty, henable⟩) h
    · refine ⟨hbench.world speed hd h.bench, ?_⟩
      obtain ⟨i, name, rfl⟩ := hd
      show ((Drive.simulated i name).setSpeed speed m).2.2.files.SameOn start paths
        ((Drive.simulated i name).setSpeed speed m').2.2.files
      rw [Drive.files_setSpeed_simulated, Drive.files_setSpeed_simulated]
      exact h.files
    · exact (setSpeed_channel_alike h hduty henable speed).2.2

/-! ## Exported rows -/

theorem harmlessAt_supplied (outlet : Recorder) :
    platform.HarmlessAt (SameChannels start paths) (.supplied outlet) :=
  fun _ _ _ _ h => ⟨h.bench, h.files⟩

/-- Rows that go to a directory do no harm where they leave the paths' places alone. -/
theorem harmlessAt_of_leavesAlone {directory : String}
    (halone : ∀ zone path, paths path →
      (Export.footprint start directory zone).LeavesAlone (place start path)) :
    platform.HarmlessAt (SameChannels start paths) (.directory directory) := by
  intro zone rows m m' h
  refine ⟨h.bench, h.files.of_covers ?_ (halone zone)⟩
  have hcovers := Export.appendRows_covers h.files.linkFree directory zone rows
  rw [h.files.start_eq] at hcovers
  exact hcovers

end Machine

/-! ## Discovered channels -/

namespace Hwmon

variable {t : Tree} {root path : String} {inventory : Inventory}

/-- A channel of an inventory reads or writes at a path. -/
def Inventory.usesPath (inventory : Inventory) (path : String) : Prop :=
  (∃ c ∈ inventory.thermals, path = c.inputPath) ∨
    ∃ c ∈ inventory.fans, path = c.dutyPath ∨ path = c.enablePath

def Inventory.namesSensor (inventory : Inventory) (name : String) : Prop :=
  ∃ c ∈ inventory.thermals, name = c.name

theorem plain_temperatureName (index : Nat) :
    Files.Path.Plain ("temp" ++ toString index ++ "_input") :=
  .of_head (FanChannel.not_mem_numberedName (by decide) (by decide) (by decide) index) (c := 't')
    (by simp) (by decide)

/-- The files of channels have no dots in their names. -/
theorem not_lastHas_of_discover (h : discover t root = .ok inventory)
    (hpath : inventory.usesPath path) (start : Location) :
    ¬FanChannel.LastHas '.' (place start path) := by
  rcases hpath with ⟨c, hc, rfl⟩ | ⟨c, hc, hpath⟩
  · obtain ⟨e, -, index, -, rfl⟩ := (mem_thermals_iff h).1 hc
    have hplace := Files.Path.place_join start (Files.Path.join root e.chip)
      (plain_temperatureName index)
    unfold ThermalChannel.describedAt
    dsimp only
    rw [hplace, FanChannel.lastHas_concat_iff]
    exact FanChannel.not_mem_numberedName (by decide) (by decide) (by decide) index
  · obtain ⟨chip, directory, index, rfl⟩ := indexed_of_discover h c hc
    rcases hpath with rfl | rfl
    · rw [FanChannel.place_dutyPath, FanChannel.lastHas_concat_iff]
      exact FanChannel.not_mem_dutyName (by decide) (by decide) index
    · rw [FanChannel.place_enablePath, FanChannel.lastHas_concat_iff]
      exact FanChannel.not_mem_numberedName (by decide) (by decide) (by decide) index

theorem utf8Len_of_digits {cs : List Char} (h : ∀ c ∈ cs, c.isDigit) :
    String.utf8Len cs = cs.length := by
  induction cs with
  | nil => rfl
  | cons c cs ih =>
    obtain ⟨hc, hcs⟩ := List.forall_mem_cons.1 h
    have hsize : c.utf8Size = 1 :=
      if_pos (Nat.le_trans (isDigit_iff.1 hc).2 (by decide) : c.val ≤ 127)
    rw [String.utf8Len_cons, hsize, ih hcs, List.length_cons]

/-- The decimal digits of a 32-bit number are ten at most. -/
theorem utf8ByteSize_toString_le {n : Nat} (h : n < UInt32.size) :
    (toString n).utf8ByteSize ≤ 10 := by
  have hlength : (toString n).length ≤ 10 :=
    Nat.repr_length n 10 (by decide) (Nat.lt_trans h (by decide))
  rw [← String.ofList_toList (s := toString n), String.utf8ByteSize_ofList,
    utf8Len_of_digits fun c => Text.isDigit_of_mem_toString, String.length_toList]
  exact hlength

/-- The file of a channel's name in a directory, where the path is not too long. -/
theorem sameAt_numbered (hfree : t.LinkFree) {directory before after : String}
    (hdirectory : t.isDirectory directory) {index : Nat} (hindex : index < UInt32.size)
    (hplain : Files.Path.Plain (before ++ toString index ++ after))
    (hnul : '\x00' ∉ before.toList ∧ '\x00' ∉ after.toList)
    (hshort : before.utf8ByteSize + after.utf8ByteSize ≤ 11)
    (hlong : (Files.Path.join directory (before ++ toString index ++ after)).utf8ByteSize ≤
      Tree.maxPath) :
    t.SameAt t (Files.Path.join directory (before ++ toString index ++ after)) := by
  have hdigits := utf8ByteSize_toString_le hindex
  refine .join hfree hdirectory hplain ?_ ?_ hlong
  · exact FanChannel.not_mem_numberedName hnul.1 hnul.2 (by decide) index
  · rw [String.utf8ByteSize_append, String.utf8ByteSize_append]
    unfold Tree.maxName
    omega

/-- In a tree without links the paths of discovered channels lead somewhere, if they are not too
long. -/
theorem sameAt_of_discover (hfree : t.LinkFree) (h : discover t root = .ok inventory)
    (hpath : inventory.usesPath path) (hlong : path.utf8ByteSize ≤ Tree.maxPath) :
    t.SameAt t path := by
  rcases hpath with ⟨c, hc, rfl⟩ | ⟨c, hc, hpath⟩
  · obtain ⟨e, ⟨-, files, hfiles, -⟩, index, hname, rfl⟩ := (mem_thermals_iff h).1 hc
    obtain ⟨_, -, -, -, hindex, -⟩ := hname
    have hdirectory := Tree.isDirectory_of_names hfiles
    refine sameAt_numbered hfree hdirectory hindex ?_ (by decide) (by decide) hlong
    exact plain_temperatureName index
  · obtain ⟨e, ⟨-, files, hfiles, -⟩, index, hname, rfl⟩ := (mem_fans_iff h).1 hc
    obtain ⟨_, -, -, -, hindex, -⟩ := hname
    have hdirectory := Tree.isDirectory_of_names hfiles
    rcases hpath with rfl | rfl
    · have hplain := FanChannel.plain_dutyName index
      -- Behind the number stands the empty text.
      rw [FanChannel.dutyPath_ofIndex] at hlong ⊢
      rw [← String.append_empty (s := "pwm" ++ toString index)] at hplain hlong ⊢
      exact sameAt_numbered hfree hdirectory hindex hplain (by decide) (by decide) hlong
    · exact sameAt_numbered hfree hdirectory hindex (FanChannel.plain_enableName index)
        (by decide) (by decide) hlong

/-- No directory on the way to exported rows is in the place of a channel's file. -/
def Inventory.ApartFrom (inventory : Inventory) (start : Location) (directory : String) : Prop :=
  ∀ p, Above directory p → ∀ path, inventory.usesPath path → place start p ≠ place start path

example : Inventory.ApartFrom ⟨[.ofIndex "hwmon0" "/hw/hwmon0" 1], []⟩ [] "/out/csv" := by
  intro p habove path hpath
  have hp : p ∈ ["/out/csv", "/out", "/"] := by
    induction habove with
    | self => decide
    | @parent p q _ hq ih =>
      have hparents : ∀ p ∈ ["/out/csv", "/out", "/"], ∀ q ∈ Files.Path.parent? p,
          q ∈ ["/out/csv", "/out", "/"] := by
        decide +kernel
      exact hparents p ih q hq
  have hpaths : path ∈ ["/hw/hwmon0/pwm1", "/hw/hwmon0/pwm1_enable"] := by
    rcases hpath with ⟨c, hc, -⟩ | ⟨c, hc, hpath⟩
    · cases hc
    · obtain rfl := List.mem_singleton.1 hc
      rcases hpath with rfl | rfl <;> decide
  have hplaces : ∀ p ∈ ["/out/csv", "/out", "/"],
      ∀ path ∈ ["/hw/hwmon0/pwm1", "/hw/hwmon0/pwm1_enable"], place [] p ≠ place [] path := by
    decide +kernel
  exact hplaces p hp path hpaths

end Hwmon

/-- Rows that go to a directory do no harm to the channels that discovery found. -/
theorem Machine.harmlessAt_directory {t : Tree} {root : String} {inventory : Inventory}
    (hdiscover : Hwmon.discover t root = .ok inventory) {directory : String}
    (hapart : inventory.ApartFrom start directory) :
    platform.HarmlessAt (SameChannels start inventory.usesPath) (.directory directory) := by
  refine harmlessAt_of_leavesAlone fun zone path hpath => ⟨fun hwritten => ?_, id, ?_⟩
  · -- The file of rows has a dot in its name, whatever the zone's name is.
    obtain ⟨above, before, hplace⟩ := Export.exists_place_zonePath start directory zone
    refine Hwmon.not_lastHas_of_discover hdiscover hpath start ?_
    rw [show place start path = _ from hwritten, hplace, FanChannel.lastHas_concat_iff,
      String.toList_append, List.mem_append]
    exact .inr (by decide)
  · rintro ⟨p, habove, hmade⟩
    exact hapart p habove path hpath hmade.symm

/-! ## Two daemons -/

namespace Daemon

variable {m : Machine} {root : String} {inventory : Inventory} {config config' : Config}
  {c c' : Controller Probe Drive Recorder}

/-- Everything that discovery finds. -/
def scope (inventory : Inventory) : Scope Probe Drive :=
  Machine.channelScope inventory.usesPath inventory.namesSensor

theorem within_toMembers {capacity : Nat} {members : Members Probe Drive}
    (h : inventory.toMembers capacity = .ok members) : members.Within (scope inventory) := by
  obtain ⟨hfans, hsensors⟩ := Members.wrap_eq_ok Machine.platform h
  rw [List.map_map] at hfans hsensors
  constructor
  · intro f hf
    rw [hfans] at hf
    obtain ⟨channel, hmem, rfl⟩ := List.mem_map.1 hf
    refine ⟨.inr ⟨channel, rfl, ?_, ?_⟩⟩
    · exact .inr ⟨channel, hmem, .inl rfl⟩
    · exact .inr ⟨channel, hmem, .inr rfl⟩
  · intro s hs
    rw [hsensors] at hs
    obtain ⟨channel, hmem, rfl⟩ := List.mem_map.1 hs
    exact ⟨.inr ⟨channel, rfl, .inl ⟨channel, hmem, rfl⟩⟩, channel, hmem, rfl⟩

/-- Daemons that were built of the same chips, with configurations that differ at most in where rows
go and in targets of other sensors. -/
theorem parallel_of_build (hdiscover : Hwmon.discover m.files root = .ok inventory)
    (hfree : m.files.LinkFree)
    (hlong : ∀ path, inventory.usesPath path → path.utf8ByteSize ≤ Tree.maxPath)
    (hcontrol : config.SameControl inventory.namesSensor config')
    (hbuild : build config root m.files = .ok c) (hbuild' : build config' root m.files = .ok c') :
    System.Parallel (scope inventory) (Machine.SameChannels m.files.start inventory.usesPath)
      ⟨config, none⟩ ⟨config', none⟩ (System.mk c m) (System.mk c' m) := by
  obtain ⟨created, members, hcreate, hmembers, rfl⟩ := (build_eq_ok_iff hdiscover).1 hbuild
  obtain ⟨created', members', hcreate', hmembers', rfl⟩ := (build_eq_ok_iff hdiscover).1 hbuild'
  rw [← hcontrol.historyCapacity_eq, hmembers] at hmembers'
  obtain rfl := Except.ok.inj hmembers'
  have hsame : Machine.SameChannels m.files.start inventory.usesPath m m :=
    ⟨rfl, hfree, hfree, rfl, rfl, fun path hpath =>
      Hwmon.sameAt_of_discover hfree hdiscover hpath (hlong path hpath)⟩
  exact (System.parallel_of_create hcreate hcreate' hcontrol hsame).load systemZone
    (within_toMembers hmembers)

/-- Rows do no harm wherever they go, if a directory for them is apart from the channels' files. -/
theorem harmlessAt_route (hdiscover : Hwmon.discover m.files root = .ok inventory)
    {x : Routing Recorder} (hapart : ∀ directory, x.config.exportPath = some directory →
      inventory.ApartFrom m.files.start directory) :
    ∀ d ∈ x.route,
      Machine.platform.HarmlessAt (Machine.SameChannels m.files.start inventory.usesPath) d := by
  intro d hd
  cases d with
  | supplied outlet => exact Machine.harmlessAt_supplied outlet
  | directory directory =>
    have hpath := (Config.route_eq_directory (Option.mem_def.1 hd)).2.1
    exact Machine.harmlessAt_directory hdiscover (hapart directory hpath)

/-- Two daemons, each built of the chips of one machine without links and run for the same ticks.
Their configurations differ at most in where rows go and in targets of other sensors. What can be
seen of control is the same after every tick: rows that go to a directory do not show, whatever
becomes of them, unless some directory on the way to them is in the place of a channel's file. -/
theorem ticks_alike (hfree : m.files.LinkFree)
    (hdiscover : Hwmon.discover m.files root = .ok inventory)
    (hlong : ∀ path, inventory.usesPath path → path.utf8ByteSize ≤ Tree.maxPath)
    (hcontrol : config.SameControl inventory.namesSensor config')
    (hbuild : build config root m.files = .ok c) (hbuild' : build config' root m.files = .ok c')
    (hapart : ∀ directory, config.exportPath = some directory →
      inventory.ApartFrom m.files.start directory)
    (hapart' : ∀ directory, config'.exportPath = some directory →
      inventory.ApartFrom m.files.start directory)
    (ticks : List (Timestamp × TickOptions Probe Drive)) :
    ∃ events events', (System.mk c m).perform Machine.platform (ticks.map Access.ofTick) =
        .ok events ∧
      (System.mk c' m).perform Machine.platform (ticks.map Access.ofTick) = .ok events' ∧
      events.filterMap AccessEvent.view? = events'.filterMap AccessEvent.view? := by
  have hparallel := parallel_of_build hdiscover hfree hlong hcontrol hbuild hbuild'
  have hharmless := harmlessAt_route (x := ⟨config, none⟩) hdiscover hapart
  have hharmless' := harmlessAt_route (x := ⟨config', none⟩) hdiscover hapart'
  refine System.perform_paired (.ticks hharmless (fun d hd => ?_) ticks)
    (Machine.sameHardware_channels ..) hparallel fun hnone => ?_
  · exact (hharmless' d hd).flip fun _ _ h => h.symm
  · -- Members are bound, so none are bound by a tick.
    obtain ⟨created, members, hcreate, -, rfl⟩ := (build_eq_ok_iff hdiscover).1 hbuild
    obtain ⟨-, -, elapsed, -, rfl⟩ := Controller.create_eq_ok_iff.1 hcreate
    cases hnone

end Daemon

end ChassisCooling
