import ChassisCooling.Proofs.Files.Overwritten
import ChassisCooling.Proofs.Hwmon.Calls
import ChassisCooling.Proofs.Machine.Footprint

/-!
# One speed for all fans, links allowed

A tick writes one text to the duty cycles of all fans; whatever else it writes goes to the files
that say who controls a fan and to the exported rows. In a tree with links any two of these paths
may lead to one file. The duty cycles end up as written if they are apart from the others in the
tree that the tick leaves, and in a tree without links they are.

* `Controller.WritesBeside`, `Controller.DutiesApart`: the other files, and that they are others.
* `Zone.commandAll_wrote`: one speed for several fans, by induction on them.
* `Controller.OnChannels.tick_wrote`: what one tick writes and spares.
* `Controller.OnChannels.dutiesApart`: the files are apart where there are no links.
-/

namespace ChassisCooling

open Files (Tree)
open Hwmon (FanChannel)

/-! ## One fan -/

namespace Hwmon.FanChannel

variable {c c₁ c₂ : FanChannel} {t t' ready : Tree} {speed : Single} {text : String}
  {others : String → Prop}

theorem TakesControl.spares (h : c.TakesControl t ready) (hothers : others c.enablePath) :
    t.Spares text others ready := by
  cases h with
  | absent => exact .refl text others t
  | switched _ hwrite => exact .of_write_other hothers hwrite

theorem spares_of_setsDuty (others : String → Prop) {x : Call} {path : String}
    (h : x.SetsDuty path ready) :
    ready.Spares (dutyText x.speed) others x.left ∧
      (x.result = .ok () → x.left.Wrote (dutyText x.speed) others path) := by
  cases h with
  | written hwrite _ => exact ⟨.of_writeText hwrite, fun _ => .of_writeText hwrite⟩
  | failed _ hresult hleft =>
    rw [hleft, hresult]
    exact ⟨.refl _ others ready, fun heq => by cases heq⟩

theorem setSpeed_wrote (hfiles : c.SameFiles c₁) (hothers : others c.enablePath)
    {result : Except Error Unit} (h : c₁.setSpeed speed t = (result, c₂, t')) :
    c.SameFiles c₂ ∧ t.Spares (dutyText speed) others t' ∧
      (result = .ok () → t'.Wrote (dutyText speed) others c.dutyPath) := by
  rw [← hfiles.dutyPath]
  rw [← hfiles.enablePath] at hothers
  cases hmanual : c₁.manual with
  | true =>
    obtain ⟨result', left, hset, hduty⟩ :=
      setSpeed_of_takeControl (takeControl_of_manual hmanual t) speed
    cases hset.symm.trans h
    obtain ⟨hspares, hwrote⟩ := spares_of_setsDuty others hduty
    exact ⟨hfiles, hspares, hwrote⟩
  | false =>
    rcases setSpeed_cases hmanual speed t with
      ⟨result', hset, hrefused⟩ | ⟨result', ready, left, hset, htaken, hduty⟩
    · cases hset.symm.trans h
      obtain ⟨failure, -, hresult⟩ := hrefused.error
      refine ⟨hfiles, .refl _ others t, fun heq => ?_⟩
      cases hresult.symm.trans heq
    · cases hset.symm.trans h
      obtain ⟨hspares, hwrote⟩ := spares_of_setsDuty others hduty
      exact ⟨⟨hfiles.dutyPath, hfiles.enablePath⟩, (htaken.spares hothers).trans hspares, hwrote⟩

end Hwmon.FanChannel

/-! ## All fans -/

section Commands

variable {c : FanChannel} {channels : List FanChannel} {m m' : Machine} {speed : Single}
  {others : String → Prop}

theorem Fan.command_wrote {f f' : Fan Drive} (hf : f.drive.IsChannel c)
    (hothers : others c.enablePath) {now : Timestamp} {written : Bool}
    (h : f.command Machine.platform m now speed = (written, f', m')) :
    f'.drive.IsChannel c ∧ m.files.Spares (FanChannel.dutyText speed) others m'.files ∧
      (written → m'.files.Wrote (FanChannel.dutyText speed) others c.dutyPath) := by
  obtain ⟨c₁, hdrive, hfiles⟩ := hf
  rcases hset : c₁.setSpeed speed m.files with ⟨result, c₂, t'⟩
  obtain ⟨hfiles', hspares, hwrote⟩ := FanChannel.setSpeed_wrote hfiles hothers hset
  obtain ⟨history, hcommand⟩ := Fan.exists_command_eq hdrive hset now
  cases hcommand.symm.trans h
  refine ⟨⟨c₂, rfl, hfiles'⟩, hspares, fun hwritten => hwrote ?_⟩
  obtain ⟨u, hok⟩ := exists_eq_ok_of_isOk hwritten
  exact hok

/-- By induction on the fans: what was written to one of them is spared by those that come later. -/
theorem Zone.commandAll_wrote {fs : List (Fan Drive)} (hfs : FansOf channels fs)
    (hothers : ∀ c ∈ channels, others c.enablePath) (now : Timestamp) (speed : Single) :
    FansOf channels (commandAll Machine.platform now speed fs m).2.1 ∧
      m.files.Spares (FanChannel.dutyText speed) others
        (commandAll Machine.platform now speed fs m).2.2.files ∧
      ((commandAll Machine.platform now speed fs m).1 = 0 → ∀ c ∈ channels,
        (commandAll Machine.platform now speed fs m).2.2.files.Wrote (FanChannel.dutyText speed)
          others c.dutyPath) := by
  induction hfs generalizing m with
  | nil => exact ⟨.nil, .refl _ others m.files, fun _ => List.forall_mem_nil _⟩
  | @cons c f channels fs hf _ ih =>
    rw [List.forall_mem_cons] at hothers
    rw [commandAll_cons]
    rcases hcommand : f.command Machine.platform m now speed with ⟨written, f', m'⟩
    obtain ⟨hdrive, hspares, hwrote⟩ := Fan.command_wrote hf hothers.1 hcommand
    obtain ⟨hdrives, hlater, hall⟩ := ih hothers.2
    refine ⟨.cons hdrive hdrives, hspares.trans hlater, fun hzero => ?_⟩
    cases written with
    | false => cases hzero
    | true => exact List.forall_mem_cons.2 ⟨(hwrote rfl).trans hlater, hall hzero⟩

/-- A tick of a zone writes to the fans that are bound to it. -/
theorem Zone.run_wrote {z z' : Zone Probe Drive} {bound : Members Probe Drive}
    (hbound : z.members = some bound) (hfans : FansOf channels bound.fans)
    (hothers : ∀ c ∈ channels, others c.enablePath) {tick : Tick}
    {offered : Option (Members Probe Drive)} {refresh : Bool} {report : ZoneReport}
    (h : z.run Machine.platform m tick offered refresh = .ok (report, z', m')) :
    (∃ bound', z'.members = some bound' ∧ FansOf channels bound'.fans) ∧
      m.files.Spares (FanChannel.dutyText report.speed) others m'.files ∧
      (report.failedWrites = 0 → ∀ c ∈ channels,
        m'.files.Wrote (FanChannel.dutyText report.speed) others c.dutyPath) := by
  have hprepared := fansOf_prepared hbound hfans m tick.now offered refresh
  obtain ⟨last, hconclude, -, -⟩ := of_run_eq_ok Machine.platform h
  rw [conclude_eq] at hconclude
  obtain ⟨rfl, hrest⟩ := Prod.mk.inj hconclude
  obtain ⟨rfl, rfl⟩ := Prod.mk.inj hrest
  obtain ⟨hfans', hspares, hwrote⟩ := commandAll_wrote hprepared hothers tick.now _
  exact ⟨⟨_, rfl, hfans'⟩, hspares, hwrote⟩

end Commands

/-! ## Exported rows -/

theorem Export.appendRows_spares {directory zone text : String} {others : String → Prop}
    (hothers : others (zonePath directory zone)) (rows : List Row) (t : Tree) :
    t.Spares text others (appendRows directory zone rows t).2 := by
  have hmade : t.Spares text others (t.createDirectories directory).2 :=
    .of_createDirectories text others t directory
  unfold appendRows
  split
  · exact .refl text others t
  dsimp only
  split
  · next failure t₁ hcreate =>
    rw [hcreate] at hmade
    exact hmade
  · next t₁ hcreate =>
    rw [hcreate] at hmade
    split
    · next t₂ happend => exact hmade.trans (.of_append_other hothers happend)
    · exact hmade

/-! ## Ticks -/

namespace Controller

variable {config : Config} {channels : List FanChannel} {c c' : Controller Probe Drive Recorder}
  {m m' : Machine} {path text : String} {others : String → Prop}

/-- What a tick of the controller may write besides duty cycles: who controls a fan, and the rows
that are exported to a directory. -/
inductive WritesBeside (channels : List FanChannel) (c : Controller Probe Drive Recorder) :
    String → Prop where
  | enable {channel : FanChannel} (h : channel ∈ channels) :
      WritesBeside channels c channel.enablePath
  | rows {directory : String} (h : c.destination = some (.directory directory)) :
      WritesBeside channels c (Export.zonePath directory c.zone.name)

/-- No duty cycle is in a file that something else may be written to. -/
def DutiesApart (channels : List FanChannel) (c : Controller Probe Drive Recorder) (t : Tree) :
    Prop :=
  ∀ channel ∈ channels, ∀ path, c.WritesBeside channels path → t.Apart channel.dutyPath path

/-- Directories are made and rows are added; files of other paths are spared. -/
theorem exportRows_spares (text : String)
    (hothers : ∀ directory, c.destination = some (.directory directory) →
      others (Export.zonePath directory c.zone.name)) :
    m.files.Spares text others (c.exportRows Machine.platform m).files := by
  unfold exportRows
  split
  · exact .refl text others m.files
  split
  · exact .refl text others m.files
  · next destination hdestination =>
    cases destination with
    | supplied outlet => exact .refl text others m.files
    | directory directory =>
      exact Export.appendRows_spares (hothers directory hdestination) c.zone.exportRows m.files

/-- Fans are written to first. What was written to one of them is spared by those that come later
and by the export that follows. -/
theorem OnChannels.tick_wrote (hc : c.OnChannels config channels) {now : Timestamp}
    {options : TickOptions Probe Drive} {report : TickReport}
    (h : c.tick Machine.platform m now options = .ok (report, c', m')) :
    c'.OnChannels config channels ∧
      m.files.Spares (FanChannel.dutyText report.zone.speed) (c'.WritesBeside channels) m'.files ∧
      (report.zone.failedWrites = 0 → ∀ channel ∈ channels,
        m'.files.Wrote (FanChannel.dutyText report.zone.speed) (c'.WritesBeside channels)
          channel.dutyPath) := by
  obtain ⟨bound, hbound, hfans⟩ := hc.bound
  rw [tick_eq] at h
  obtain ⟨⟨zoneReport, z, m₁⟩, hrun, hconclude⟩ := map_eq_ok_iff.1 h
  obtain ⟨-, -, hname, -⟩ := Zone.of_run_eq_ok Machine.platform hrun
  obtain ⟨rfl, hrest⟩ := Prod.mk.inj hconclude
  obtain ⟨hc', rfl⟩ := Prod.mk.inj hrest
  obtain ⟨hbound', hspares, hwrote⟩ := Zone.run_wrote hbound hfans
    (fun channel hmem => WritesBeside.enable (c := c') hmem) hrun
  have hkept : c'.OnChannels config channels := by
    rw [← hc']
    exact ⟨hc.config_eq, hc.destination_eq, hname.trans hc.name_eq, hbound'⟩
  have hexport : m₁.files.Spares (FanChannel.dutyText zoneReport.speed)
      (c'.WritesBeside channels) (c'.exportRows Machine.platform m₁).files :=
    exportRows_spares _ fun directory hdestination => .rows hdestination
  rw [hc']
  refine ⟨hkept, hspares.trans hexport, fun hzero channel hmem => ?_⟩
  exact (hwrote hzero channel hmem).trans hexport

/-- Where there are no links, duty cycles are apart from the rest by their names. -/
theorem OnChannels.dutiesApart (hc : c.OnChannels config channels)
    (hchannels : FanChannel.Indexed channels) {t : Tree} (ht : t.LinkFree) :
    c.DutiesApart channels t := by
  intro channel hmem path hpath
  refine ht.apart fun heq => ?_
  cases hpath with
  | enable h => exact hchannels.not_rewritten_dutyPath hmem ⟨_, h, heq⟩
  | rows h =>
    obtain ⟨above, hrows⟩ := exists_place_zonePath t.start _
    rw [hc.name_eq, hrows] at heq
    refine hchannels.not_lastHas_dutyPath hmem t.start (x := '.') (by decide) (by decide) ?_
    rw [heq]
    exact FanChannel.lastHas_concat_iff.2 (by decide)

end Controller

end ChassisCooling
