import ChassisCooling.Daemon.Program
import ChassisCooling.Proofs.Control.Routing
import ChassisCooling.Proofs.Control.Writes
import ChassisCooling.Proofs.Export.Directory
import ChassisCooling.Proofs.Hwmon.FanFiles

/-!
# The control loop keeps to its files

In a tree without links, a controller that is bound to the channels of the tree changes the files of
its fans, whatever fails, and the file of exported rows if there is one; nothing else. A fan whose
write succeeds is left with the speed that the tick reports.

* `Machine.footprint`: where the control loop may change something.
* `Zone.commandAll_setsSpeed`: one speed for all fans; what succeeded earlier is still there when
  the last fan is done.
* `Controller.OnChannels.tick`: what one tick preserves, changes and leaves.
* `System.run_keeps_to_files`: all of it, for every run of ticks.
-/

namespace ChassisCooling

open Files (Footprint Location Tree)
open Files.Path (place)
open Hwmon (ChipFile FanChannel Inventory Numbered)

/-- Where exported rows may change something. -/
def Config.exportFootprint (start : Location) (c : Config) : Footprint :=
  match (c.destination : Option (Destination Recorder)) with
  | some (.directory directory) => Export.footprint start directory systemZone
  | _ => .nothing

/-- Where the control loop may change something. -/
def Machine.footprint (start : Location) (config : Config) (fans : List FanChannel) :
    Footprint :=
  (FanChannel.footprint start fans).union (config.exportFootprint start)

/-- The controller is a new one, bound to the channels of an inventory. -/
def Controller.BoundTo (config : Config) (inventory : Inventory)
    (c : Controller Probe Drive Recorder) : Prop :=
  ∃ created capacity members, Controller.create config = .ok created ∧
    inventory.toMembers capacity = .ok members ∧ c = (created.load systemZone members).2

/-! ## Fans that drive channels -/

/-- The drive is a channel of the same files. -/
def Drive.IsChannel (d : Drive) (c : FanChannel) : Prop := ∃ c', d = .channel c' ∧ c.SameFiles c'

/-- The fans drive channels of the same files, in order. -/
def FansOf (channels : List FanChannel) (fs : List (Fan Drive)) : Prop :=
  List.Forall₂ (fun c f => Drive.IsChannel (Fan.drive f) c) channels fs

theorem fansOf_congr {channels : List FanChannel} {fs fs' : List (Fan Drive)}
    (h : fs.map Fan.drive = fs'.map Fan.drive) (hfs : FansOf channels fs) :
    FansOf channels fs' := by
  unfold FansOf at hfs ⊢
  rw [← List.forall₂_map_right_iff (f := Fan.drive) (R := fun c d => Drive.IsChannel d c)] at hfs ⊢
  exact h ▸ hfs

/-- The fans of new members drive the channels that the members were made of. -/
theorem fansOf_toMembers {inventory : Inventory} {capacity : Nat} {members : Members Probe Drive}
    (h : inventory.toMembers capacity = .ok members) : FansOf inventory.fans members.fans := by
  unfold FansOf
  rw [(Members.wrap_eq_ok Machine.platform h).1, List.map_map, List.forall₂_map_right_iff]
  exact List.forall₂_same.2 fun c _ => ⟨c, rfl, rfl, rfl⟩

section Commands

variable {c : FanChannel} {channels all : List FanChannel} {m m' : Machine} {speed : Single}

/-- A fan that drives a channel sets the channel's speed. -/
theorem Fan.exists_command_eq {f : Fan Drive} {c₁ c₂ : FanChannel} {result : Except Error Unit}
    {t' : Tree} (hdrive : f.drive = .channel c₁)
    (hset : c₁.setSpeed speed m.files = (result, c₂, t')) (now : Timestamp) :
    ∃ history, f.command Machine.platform m now speed =
      (result.isOk, ⟨.channel c₂, history⟩, { m with files := t' }) := by
  have hplatform : Machine.platform.setSpeed f.drive speed m =
      (result, .channel c₂, { m with files := t' }) := by
    unfold Machine.platform Drive.setSpeed
    simp only [hdrive, hset]
  unfold Fan.command
  rw [hplatform]
  cases result with
  | ok u => exact ⟨_, rfl⟩
  | error e => exact ⟨_, rfl⟩

theorem Fan.command_setsSpeed {f f' : Fan Drive} (hf : f.drive.IsChannel c) (hmem : c ∈ all)
    (ht : m.files.LinkFree) {now : Timestamp} {written : Bool}
    (h : f.command Machine.platform m now speed = (written, f', m')) :
    f'.drive.IsChannel c ∧ FanChannel.SetsSpeed speed all m.files m'.files ∧
      (written → m'.files.HasText c.dutyPath (FanChannel.dutyText speed)) := by
  obtain ⟨c₁, hdrive, hfiles⟩ := hf
  rcases hset : c₁.setSpeed speed m.files with ⟨result, c₂, t'⟩
  obtain ⟨hfiles', hsets, htext⟩ := FanChannel.setSpeed_setsSpeed ht hmem hfiles hset
  obtain ⟨history, hcommand⟩ := Fan.exists_command_eq hdrive hset now
  cases hcommand.symm.trans h
  refine ⟨⟨c₂, rfl, hfiles'⟩, hsets, fun hwritten => htext ?_⟩
  obtain ⟨u, hok⟩ := exists_eq_ok_of_isOk hwritten
  exact hok

/-- By induction on the fans. Those that come later may have the files of one that was done, but
they put the same text into them. -/
theorem Zone.commandAll_setsSpeed {fs : List (Fan Drive)} (hfs : FansOf channels fs)
    (hchannels : ∀ c ∈ channels, c ∈ all) (hall : FanChannel.Indexed all)
    (ht : m.files.LinkFree) (now : Timestamp) (speed : Single) :
    FansOf channels (commandAll Machine.platform now speed fs m).2.1 ∧
      FanChannel.SetsSpeed speed all m.files
        (commandAll Machine.platform now speed fs m).2.2.files ∧
      List.Forall₂
        (fun c (write : Write Drive) => write.succeeded →
          (commandAll Machine.platform now speed fs m).2.2.files.HasText c.dutyPath
            (FanChannel.dutyText speed))
        channels (writesTo Machine.platform now speed fs m) := by
  induction hfs generalizing m with
  | nil => exact ⟨.nil, .refl speed all m.files, .nil⟩
  | @cons c f channels fs hf _ ih =>
    obtain ⟨hmem, hrest⟩ := List.forall_mem_cons.1 hchannels
    rw [commandAll_cons, writesTo]
    rcases hcommand : f.command Machine.platform m now speed with ⟨written, f', m'⟩
    obtain ⟨hdrive, hsets, htext⟩ := Fan.command_setsSpeed hf hmem ht hcommand
    have ht' := hsets.covers.linkFree ht
    obtain ⟨hlater, hsetsLater, htexts⟩ := ih hrest ht'
    refine ⟨.cons hdrive hlater, hsets.trans hsetsLater, .cons (fun hwritten => ?_) htexts⟩
    exact hsetsLater.hasText ht' (htext hwritten) (hall.not_rewritten_dutyPath hmem)

/-- Whatever is offered, the fans of a decision are those that are bound. -/
theorem Zone.fansOf_prepared {z : Zone Probe Drive} {bound : Members Probe Drive}
    (hbound : z.members = some bound) (hfans : FansOf channels bound.fans) (m : Machine)
    (now : Timestamp) (offered : Option (Members Probe Drive)) (refresh : Bool) :
    FansOf channels (z.prepared Machine.platform m now offered refresh).fans := by
  have hload : (z.load (offered.getD .empty)).fans = bound.fans := by
    unfold load fans
    rw [hbound]
    rfl
  refine fansOf_congr (drives_prepared ..).symm ?_
  rwa [hload]

/-- A tick of a zone writes to the fans that are bound to it, and to no others. -/
theorem Zone.run_setsSpeed {z z' : Zone Probe Drive} {bound : Members Probe Drive}
    (hbound : z.members = some bound) (hfans : FansOf channels bound.fans)
    (hchannels : FanChannel.Indexed channels) (ht : m.files.LinkFree) {tick : Tick}
    {offered : Option (Members Probe Drive)} {refresh : Bool} {report : ZoneReport}
    (h : z.run Machine.platform m tick offered refresh = .ok (report, z', m')) :
    (∃ bound', z'.members = some bound' ∧ FansOf channels bound'.fans) ∧
      FanChannel.SetsSpeed report.speed channels m.files m'.files ∧
      List.Forall₂
        (fun c (write : Write Drive) => write.succeeded →
          m'.files.HasText c.dutyPath (FanChannel.dutyText report.speed))
        channels (z.writesOf Machine.platform m tick.now offered refresh report.speed) := by
  have hprepared := fansOf_prepared hbound hfans m tick.now offered refresh
  obtain ⟨last, hconclude, -, -⟩ := of_run_eq_ok Machine.platform h
  rw [conclude_eq] at hconclude
  obtain ⟨rfl, hrest⟩ := Prod.mk.inj hconclude
  obtain ⟨rfl, rfl⟩ := Prod.mk.inj hrest
  obtain ⟨hfans', hsets, htexts⟩ :=
    commandAll_setsSpeed hprepared (fun c hc => hc) hchannels ht tick.now _
  exact ⟨⟨_, rfl, hfans'⟩, hsets, htexts⟩

end Commands

/-! ## Exported rows -/

section Exports

variable {config : Config} {start l : Location} {m : Machine}

theorem exists_place_zonePath (start : Location) (directory : String) :
    ∃ above, place start (Export.zonePath directory systemZone) =
      above ++ ["System.cooling.csv"] := by
  have hname : Files.Path.Plain "System.cooling.csv" :=
    .of_head (by decide) (c := 'S') (by decide) (by decide)
  exact ⟨_, Files.Path.place_join start directory hname⟩

theorem written_exportFootprint (h : (config.exportFootprint start).written l) :
    ∃ above, l = above ++ ["System.cooling.csv"] := by
  unfold Config.exportFootprint at h
  split at h
  · next directory _ =>
    obtain ⟨above, hplace⟩ := exists_place_zonePath start directory
    exact ⟨above, h.trans hplace⟩
  · exact h.elim

theorem not_rewritten_exportFootprint : ¬(config.exportFootprint start).rewritten l := by
  unfold Config.exportFootprint
  split <;> exact id

theorem Controller.exportRows_covers {c : Controller Probe Drive Recorder}
    (hdestination : c.destination = c.config.destination) (hname : c.zone.name = systemZone)
    (ht : m.files.LinkFree) :
    (c.config.exportFootprint m.files.start).Covers m.files
      (c.exportRows Machine.platform m).files := by
  unfold Controller.exportRows
  split
  · exact .refl _ m.files
  · rw [hdestination]
    unfold Config.exportFootprint
    cases (c.config.destination : Option (Destination Recorder)) with
    | none => exact .refl _ m.files
    | some destination =>
      cases destination with
      | supplied outlet => exact .refl _ m.files
      | directory directory =>
        rw [hname]
        exact Export.appendRows_covers ht directory systemZone c.zone.exportRows

end Exports

/-! ## Ticks -/

/-- Rows go where the configuration has them go, and the fans of the zone are those of the
channels. -/
structure Controller.OnChannels (config : Config) (channels : List FanChannel)
    (c : Controller Probe Drive Recorder) : Prop where
  config_eq : c.config = config
  destination_eq : c.destination = config.destination
  name_eq : c.zone.name = systemZone
  bound : ∃ members, c.zone.members = some members ∧ FansOf channels members.fans

/-- Every fan whose write succeeded is left with the speed as the text of its duty cycle. -/
def ShowsSpeed (t : Tree) (speed : Single) (channels : List FanChannel)
    (writes : List (Write Drive)) : Prop :=
  List.Forall₂
    (fun c (write : Write Drive) => write.succeeded →
      t.readText c.dutyPath = .ok (FanChannel.dutyText speed)) channels writes

namespace Controller

variable {config : Config} {channels : List FanChannel} {c c' : Controller Probe Drive Recorder}
  {m m' : Machine}

theorem BoundTo.onChannels {inventory : Inventory} (h : c.BoundTo config inventory) :
    c.OnChannels config inventory.fans := by
  obtain ⟨created, capacity, members, hcreate, hmembers, rfl⟩ := h
  obtain ⟨-, -, elapsed, -, rfl⟩ := create_eq_ok_iff.1 hcreate
  exact ⟨rfl, rfl, rfl, members, rfl, fansOf_toMembers hmembers⟩

/-- Fans are written to first; the export that follows leaves their files alone. -/
theorem OnChannels.tick (hc : c.OnChannels config channels)
    (hchannels : FanChannel.Indexed channels) (ht : m.files.LinkFree) {now : Timestamp}
    {options : TickOptions Probe Drive} {report : TickReport}
    (h : c.tick Machine.platform m now options = .ok (report, c', m')) :
    c'.OnChannels config channels ∧
      (Machine.footprint m.files.start config channels).Covers m.files m'.files ∧
      ShowsSpeed m'.files report.zone.speed channels
        (c.zone.writesOf Machine.platform m now (options.members.lookup c.zone.name)
          options.refresh report.zone.speed) := by
  obtain ⟨bound, hbound, hfans⟩ := hc.bound
  rw [tick_eq] at h
  obtain ⟨⟨zoneReport, z, m₁⟩, hrun, hconclude⟩ := map_eq_ok_iff.1 h
  obtain ⟨-, -, hname, -⟩ := Zone.of_run_eq_ok Machine.platform hrun
  obtain ⟨hbound', hsets, htexts⟩ := Zone.run_setsSpeed hbound hfans hchannels ht hrun
  obtain ⟨rfl, hrest⟩ := Prod.mk.inj hconclude
  obtain ⟨hc', rfl⟩ := Prod.mk.inj hrest
  have hkept : c'.OnChannels config channels := by
    rw [← hc']
    exact ⟨hc.config_eq, hc.destination_eq, hname.trans hc.name_eq, hbound'⟩
  have ht₁ := hsets.covers.linkFree ht
  have hexport := exportRows_covers (hkept.destination_eq.trans (by rw [hkept.config_eq]))
    hkept.name_eq ht₁
  rw [hkept.config_eq, ← hc'] at hexport
  refine ⟨hkept, (hsets.covers.union_left _).trans ?_, ?_⟩
  · rw [← hsets.covers.start]
    exact hexport.union_right _
  · have hmem : ∀ fan ∈ channels, fan ∈ channels := fun _ h => h
    refine ((List.forall₂_and_left _ _).2 ⟨hmem, htexts⟩).imp fun fan write hfan hsucceeded => ?_
    refine ((hfan.2 hsucceeded).of_not_written ht₁ hexport (fun hwritten => ?_)
      not_rewritten_exportFootprint).readText_eq
    obtain ⟨above, heq⟩ := written_exportFootprint hwritten
    refine hchannels.not_lastHas_dutyPath hfan.1 m₁.files.start (x := '.') (by decide)
      (by decide) ?_
    rw [heq]
    exact FanChannel.lastHas_concat_iff.2 (by decide)

end Controller

/-! ## Runs -/

namespace System

variable {config : Config} {channels : List FanChannel} {t : Tree}
  {s : System Machine Probe Drive Recorder}
  {ops : List (Operation Machine Probe Drive Recorder)}
  {events : List (Event Machine Probe Drive Recorder)}

/-- By induction on the ticks: what was changed up to each of them lies in the footprint. -/
theorem run_covers (hs : s.controller.OnChannels config channels)
    (hchannels : FanChannel.Indexed channels) (ht : t.LinkFree)
    (hcovers : (Machine.footprint t.start config channels).Covers t s.world.files)
    (hops : ∀ op ∈ ops, op.isTick) (h : s.run Machine.platform ops = .ok events) :
    ∀ e ∈ events, (Machine.footprint t.start config channels).Covers t e.after.world.files ∧
      ∀ now options report, e.operation = .tick now options → e.outcome = .ticked report →
        ShowsSpeed e.after.world.files report.zone.speed channels
          (e.before.controller.zone.writesOf Machine.platform e.before.world now
            (options.members.lookup e.before.controller.zone.name) options.refresh
            report.zone.speed) := by
  induction ops generalizing s events with
  | nil =>
    cases h
    exact List.forall_mem_nil _
  | cons op ops ih =>
    obtain ⟨htick, hlater⟩ := List.forall_mem_cons.1 hops
    obtain ⟨outcome, s', log, later, hstep, hrun, rfl⟩ := run_cons_eq_ok_iff.1 h
    cases op with
    | tick now options =>
      obtain ⟨report, rfl, hreport⟩ := exists_tick_of_step hstep
      obtain ⟨hkept, hchanged, hshows⟩ := hs.tick hchannels (hcovers.linkFree ht) hreport
      rw [hcovers.start] at hchanged
      have hall := hcovers.trans hchanged
      refine List.forall_mem_cons.2 ⟨⟨hall, ?_⟩, ih hkept hall hlater hrun⟩
      intro now' options' report' hop houtcome
      cases hop
      cases houtcome
      exact hshows
    | _ => cases htick

end System

/-! ## Names and starts -/

/-- A file that says who controls a fan was there before. -/
theorem Machine.file_of_numbered {config : Config} {fans : List FanChannel}
    (hfans : FanChannel.Indexed fans) {t t' : Tree}
    (h : (Machine.footprint t.start config fans).Covers t t') {above : Location} {name : String}
    {index : Nat} (hname : Numbered "pwm" "_enable" index name) {content : ByteArray}
    (hafter : t'.node? (above ++ [name]) = some (.file content)) :
    ∃ before, t.node? (above ++ [name]) = some (.file before) := by
  have hlast : FanChannel.LastHas '_' (above ++ [name]) := by
    obtain ⟨digits, -, -, -, -, rfl⟩ := hname
    rw [FanChannel.lastHas_concat_iff, String.toList_append, List.mem_append]
    exact .inr (by decide)
  by_cases hsame : t'.node? (above ++ [name]) = t.node? (above ++ [name])
  · exact ⟨content, hsame ▸ hafter⟩
  cases h.change _ hsame with
  | rewritten _ before _ => exact before
  | made _ _ after => cases after.symm.trans hafter
  | written hl _ _ =>
    rcases hl with ⟨fan, hfan, heq⟩ | hrows
    · rw [heq] at hlast
      exact absurd hlast (hfans.not_lastHas_dutyPath hfan t.start (by decide) (by decide))
    · obtain ⟨above', heq⟩ := written_exportFootprint hrows
      rw [heq, FanChannel.lastHas_concat_iff] at hlast
      exact absurd hlast (by decide)

namespace Daemon

/-- A daemon is a new controller to which the members of the inventory were bound. -/
theorem build_eq_ok_iff {config : Config} {root : String} {t : Tree} {inventory : Inventory}
    (hdiscover : Hwmon.discover t root = .ok inventory) {c : Controller Probe Drive Recorder} :
    build config root t = .ok c ↔
      ∃ created members, Controller.create config = .ok created ∧
        inventory.toMembers config.historyCapacity = .ok members ∧
        c = (created.load systemZone members).2 := by
  unfold build findMembers
  rw [hdiscover, bind_eq_ok_iff]
  simp only [bind_eq_ok_iff, mapError_eq_ok_iff]
  constructor
  · rintro ⟨members, hmembers, created, hcreate, h⟩
    exact ⟨created, members, hcreate, hmembers, (Except.ok.inj h).symm⟩
  · rintro ⟨created, members, hcreate, hmembers, rfl⟩
    exact ⟨members, hmembers, created, hcreate, rfl⟩

theorem boundTo_of_build {config : Config} {root : String} {t : Tree} {inventory : Inventory}
    (hdiscover : Hwmon.discover t root = .ok inventory) {c : Controller Probe Drive Recorder}
    (h : build config root t = .ok c) : c.BoundTo config inventory := by
  obtain ⟨created, members, hcreate, hmembers, hc⟩ := (build_eq_ok_iff hdiscover).1 h
  exact ⟨created, config.historyCapacity, members, hcreate, hmembers, hc⟩

theorem machine_of_startWith {options : Options} {m : Machine} {loop : Loop Service}
    (h : startWith options m = .running loop) : loop.state.machine = m := by
  unfold startWith at h
  split at h
  · cases h
  split at h
  · cases h
  split at h
  · cases h
  · cases h
  · cases h
    rfl

end Daemon

/-- In a tree without links, a controller bound to what discovery has found changes the duty cycles
of its fans, who controls them if there is a file for it, and, where rows are exported to a
directory, the zone's file of rows and the directories that lead to it; nothing else, over any
number of ticks and whatever fails. No file that says who controls a fan is ever made. After a tick,
each fan whose write succeeded has the reported speed as the text of its duty cycle. Discovery and
starting change nothing at all. -/
theorem System.run_keeps_to_files {m : Machine} {root : String} {inventory : Inventory}
    {config : Config} {c : Controller Probe Drive Recorder} (hfree : m.files.LinkFree)
    (hdiscover : Hwmon.discover m.files root = .ok inventory)
    (hbound : c.BoundTo config inventory)
    (ops : List (Operation Machine Probe Drive Recorder)) (hops : ∀ op ∈ ops, op.isTick) :
    (∀ fan ∈ inventory.fans, ∃ e : ChipFile, e.IsFan m.files root fan) ∧
      (∀ options loop, Daemon.startWith options m = .running loop → loop.state.machine = m) ∧
      (∀ built, Daemon.build config root m.files = .ok built → built.BoundTo config inventory) ∧
      ∃ events, (System.mk c m).run Machine.platform ops = .ok events ∧
        events.map Event.operation = ops ∧
        ∀ e ∈ events,
          (Machine.footprint m.files.start config inventory.fans).Covers m.files
            e.after.world.files ∧
          (∀ above name index content, Numbered "pwm" "_enable" index name →
            e.after.world.files.node? (above ++ [name]) = some (.file content) →
              ∃ before, m.files.node? (above ++ [name]) = some (.file before)) ∧
          ∀ now options report, e.operation = .tick now options → e.outcome = .ticked report →
            ShowsSpeed e.after.world.files report.zone.speed inventory.fans
              (e.before.controller.zone.writesOf Machine.platform e.before.world now
                (options.members.lookup e.before.controller.zone.name) options.refresh
                report.zone.speed) := by
  have hchannels := Hwmon.indexed_of_discover hdiscover
  have hsettled : c.Settled := by
    obtain ⟨created, capacity, members, hcreate, -, rfl⟩ := hbound
    exact (Controller.settled_create hcreate).load systemZone members
  obtain ⟨events, hrun⟩ := exists_run_eq_ok (P := Machine.platform) (s := ⟨c, m⟩) hsettled ops
  refine ⟨fun fan hfan => (Hwmon.mem_fans_iff hdiscover).1 hfan,
    fun _ _ => Daemon.machine_of_startWith, fun _ => Daemon.boundTo_of_build hdiscover,
    events, hrun, map_operation_of_run hrun, fun e he => ?_⟩
  obtain ⟨hcovers, hshows⟩ :=
    run_covers hbound.onChannels hchannels hfree (.refl _ m.files) hops hrun e he
  refine ⟨hcovers, fun above name index content hname hafter => ?_, hshows⟩
  exact Machine.file_of_numbered hchannels hcovers hname hafter

/-- One chip with a sensor and two fans. The second fan's duty cycle is a directory, and no file
says who controls the fan. -/
def Machine.oneFanFails : Machine where
  files :=
    { entries := [
        (["hw"], .directory),
        (["hw", "hwmon0"], .directory),
        (["hw", "hwmon0", "pwm1"], .file "0".toUTF8),
        (["hw", "hwmon0", "pwm1_enable"], .file "2".toUTF8),
        (["hw", "hwmon0", "pwm2"], .directory),
        (["hw", "hwmon0", "temp1_input"], .file "60000".toUTF8)]
      start := [] }
  bench := .empty
  recorded := []

/-- Two ticks that export rows. The directories and the file of rows are made, and one write of each
tick fails. -/
theorem System.run_keeps_to_files_where_one_fan_fails :
    let m := Machine.oneFanFails
    let config : Config := { Config.default with exportPath := some "/out/csv" }
    let tick (now : Nat) : Operation Machine Probe Drive Recorder :=
      .tick (Binary.ofNat now) { refresh := true }
    let ops := [tick 0, tick 60]
    let paths := ["/hw/hwmon0/pwm1", "/hw/hwmon0/pwm1_enable", "/hw/hwmon0/pwm2_enable"]
    ∃ inventory c events, m.files.LinkFree ∧ Hwmon.discover m.files "/hw" = .ok inventory ∧
      Controller.BoundTo config inventory c ∧ (∀ op ∈ ops, op.isTick) ∧
      (System.mk c m).run Machine.platform ops = .ok events ∧
      (events.map fun e => e.outcome.report?.map fun r => r.zone.failedWrites) =
        [some 1, some 1] ∧
      (events.map fun e => paths.map fun p => (e.after.world.files.readText p).toOption) =
        [[some "255", some "1", none], [some "255", some "1", none]] ∧
      (events.map fun e => e.after.world.files.holds "/out/csv/System.cooling.csv") =
        [true, true] ∧
      ∀ e ∈ events, (Machine.footprint m.files.start config inventory.fans).Covers m.files
        e.after.world.files := by
  intro m config tick ops paths
  have hfree : m.files.LinkFree := Tree.linkFree_of_entries (by simp [m, Machine.oneFanFails])
  let fans := [FanChannel.ofIndex "hwmon0" "/hw/hwmon0" 1, .ofIndex "hwmon0" "/hw/hwmon0" 2]
  let thermals := [Hwmon.ThermalChannel.describedAt m.files "hwmon0" "/hw/hwmon0" 1]
  have hchips : m.files.names "/hw" = .ok ["hwmon0"] := by decide +kernel
  have hdiscover : Hwmon.discover m.files "/hw" = .ok ⟨fans, thermals⟩ :=
    Hwmon.discover_of_listed hchips (by decide +kernel) (by decide +kernel) (by decide +kernel)
  have hops : ∀ op ∈ ops, op.isTick := by decide
  have hvalid : config.Valid :=
    (Config.validate_eq_ok_iff.1 Config.validate_default).withExport (some "/out/csv") false
  have hinterval : config.interval = .ok ⟨60000000000, by decide⟩ :=
    Config.interval_withExport.trans Config.interval_default
  obtain ⟨c, hbound, hvalues⟩ : ∃ c, Controller.BoundTo config ⟨fans, thermals⟩ c ∧
      ((System.mk c m).run Machine.platform ops).toOption.map (fun events =>
        (events.map fun e => e.outcome.report?.map fun r => r.zone.failedWrites,
          events.map fun e => paths.map fun p => (e.after.world.files.readText p).toOption,
          events.map fun e => e.after.world.files.holds "/out/csv/System.cooling.csv")) =
        some ([some 1, some 1], [[some "255", some "1", none], [some "255", some "1", none]],
          [true, true]) :=
    ⟨_, ⟨_, 10, _, Controller.create_eq_ok_iff.2 ⟨hvalid, by decide, _, hinterval, rfl⟩, rfl, rfl⟩,
      by decide +kernel⟩
  obtain ⟨-, -, -, events, hrun, -, hevents⟩ :=
    run_keeps_to_files hfree hdiscover hbound ops hops
  rw [hrun] at hvalues
  obtain ⟨hfailed, hrest⟩ := Prod.mk.inj (Option.some.inj hvalues)
  obtain ⟨htexts, hrows⟩ := Prod.mk.inj hrest
  exact ⟨_, c, events, hfree, hdiscover, hbound, hops, hrun, hfailed, htexts, hrows,
    fun e he => (hevents e he).1⟩

end ChassisCooling
