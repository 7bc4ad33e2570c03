import ChassisCooling.Proofs.Control.Step
import ChassisCooling.Proofs.Daemon.Protocol
import ChassisCooling.Proofs.Hwmon.Rediscovery
import ChassisCooling.Proofs.Machine.OneSpeed

/-!
# A daemon takes over the speed that it finds

A daemon that was just built starts from the first duty cycle that it can read. While its sensors
ask for no change, it writes that same duty cycle to all fans, tick after tick; so a daemon that is
built later finds it, and the speed does not drift over any number of restarts.

* `Zone.run_of_holds`: a tick that holds the speed that it starts from.
* `Controller.InBand`: the sensors ask for no change.
* `Daemon.Succession`: a daemon, its ticks, and the daemons built after it.
* `Daemon.Holding`: what is true at each point of a succession; `Daemon.Succession.holding`.
* `Daemon.Succession.tick_writes_duty`: the next tick writes the duty cycle that was found at first.
* `Daemon.drifts_with_links`: links may lead two paths to one file or bring up another fan, and then
  a later daemon may start from another duty cycle.
* `Daemon.PlainSuccession`: a succession in trees without links, where nothing else need be assumed;
  `Daemon.PlainSuccession.goes_on`.
-/

namespace ChassisCooling

open Files (Location Node Tree)
open Files.Path (Plain)
open Hwmon (FanChannel Inventory)

/-! ## Ticks that hold the speed -/

section Held

variable {World Probe Drive Outlet : Type} {P : Platform World Probe Drive Outlet}
  {z : Zone Probe Drive} {w : World} {x : Single}

theorem Config.nextSpeed_of_holds {c : Config} {a : Aggregate} (h : c.Holds a) (last : Single)
    (elapsed : Duration) : c.nextSpeed last a elapsed = last := by
  obtain ⟨hcool, s, hs, hband⟩ := h
  rw [nextSpeed_of_choose hcool hs, if_pos hband]

instance (c : Config) (a : Aggregate) : Decidable (c.Holds a) :=
  decidable_of_iff (a.overheat = false ∧ ∃ s ∈ a.choose, c.inDeadband s.deltap) Iff.rfl

/-- A starting point in the allowed range is where a zone starts. -/
theorem Zone.startingSpeed_of_mem (hpoint : z.startingPoint = some x)
    (hlow : z.config.minSpeed ≤ x) (hhigh : x ≤ maxSpeed) : z.startingSpeed = .ok x := by
  unfold startingPoint at hpoint
  unfold startingSpeed
  rw [hpoint]
  dsimp only
  rw [Binary.clamp_eq_ok (Binary.le_trans hlow hhigh), if_neg (Binary.not_lt_of_le hlow),
    if_neg (Binary.not_lt_of_le hhigh)]

theorem Zone.run_of_holds (tick : Tick) {offered : Option (Members Probe Drive)} {refresh : Bool}
    (hpoint : (z.prepared P w tick.now offered refresh).startingPoint = some x)
    (hlow : z.config.minSpeed ≤ x) (hhigh : x ≤ maxSpeed)
    (hholds : z.config.Holds ((z.prepared P w tick.now offered refresh).evaluate P w)) :
    ∃ report z' w', z.run P w tick offered refresh = .ok (report, z', w') ∧ report.speed = x ∧
      z'.lastSpeed = some x := by
  rw [← config_prepared P z w tick.now offered refresh] at hlow hholds
  rw [run_eq_ok P (startingSpeed_of_mem hpoint hlow hhigh)]
  have hspeed : ((z.prepared P w tick.now offered refresh).conclude P w tick x).1.speed = x :=
    Config.nextSpeed_of_holds hholds x tick.elapsed
  exact ⟨_, _, _, rfl, hspeed, (lastSpeed_conclude ..).trans (congrArg some hspeed)⟩

/-- The sensors ask for no change at a tick: none of them overheats, and the chosen one is in the
deadband. -/
def Controller.InBand (P : Platform World Probe Drive Outlet) (c : Controller Probe Drive Outlet)
    (w : World) (now : Timestamp) (options : TickOptions Probe Drive) : Prop :=
  c.zone.config.Holds ((c.zone.prepared P w now (options.members.lookup c.zone.name)
    options.refresh).evaluate P w)

instance (c : Controller Probe Drive Outlet) (w : World) (now : Timestamp)
    (options : TickOptions Probe Drive) : Decidable (c.InBand P w now options) :=
  inferInstanceAs (Decidable (Config.Holds ..))

theorem Controller.tick_of_inBand {c : Controller Probe Drive Outlet} {now : Timestamp}
    {options : TickOptions Probe Drive}
    (hpoint : (c.zone.prepared P w now (options.members.lookup c.zone.name)
      options.refresh).startingPoint = some x)
    (hlow : c.zone.config.minSpeed ≤ x) (hhigh : x ≤ maxSpeed) (hband : c.InBand P w now options) :
    ∃ report c' w', c.tick P w now options = .ok (report, c', w') ∧ report.zone.speed = x ∧
      c'.zone.lastSpeed = some x := by
  obtain ⟨report, z', w', hrun, hspeed, hlast⟩ :=
    Zone.run_of_holds ⟨now, options.elapsed.getD (c.elapsedAt now)⟩ hpoint hlow hhigh hband
  rw [tick_eq, hrun]
  exact ⟨_, _, _, rfl, hspeed, hlast⟩

theorem Fan.read?_eq_filter (d : Drive) (w : World) :
    Fan.read? P d w = (P.speed d w).toOption.filter fun speed => speed.isFinite := by
  unfold read?
  cases P.speed d w with
  | ok speed => rfl
  | error e => rfl

/-- Reading a fan for the first time decides what it shows. -/
theorem Fan.speed_refresh {f : Fan Drive} (h : f.history.measured = []) (now : Timestamp) :
    (f.refresh P w now).speed = Fan.read? P f.drive w := by
  rw [refresh_eq]
  cases Fan.read? P f.drive w with
  | some x => exact History.lastMeasured_recordMeasured f.history now x
  | none =>
    show (f.history.measured.getLast?).map Sample.value = none
    rw [h]
    rfl

theorem Zone.startingPoint_prepared {bound : Members Probe Drive} (hbound : z.members = some bound)
    (w : World) (now : Timestamp) (offered : Option (Members Probe Drive)) :
    (z.prepared P w now offered true).startingPoint =
      z.lastSpeed.or (bound.fans.findSome? fun f => (f.refresh P w now).speed) := by
  have hfans : (z.prepared P w now offered true).fans = bound.fans.map (Fan.refresh P w now) := by
    unfold prepared fans Zone.refresh load
    rw [hbound]
    rfl
  unfold startingPoint
  rw [hfans, List.findSome?_map]
  rfl

end Held

/-! ## The duty cycle to start from -/

section Found

variable {channels : List FanChannel} {fs : List (Fan Drive)} {m : Machine} {v : UInt8}

/-- A fan that drives a channel shows the channel's duty cycle as a speed. -/
theorem Fan.read?_channel {d : Drive} {c : FanChannel} (h : d.IsChannel c) :
    Fan.read? Machine.platform d m = (c.duty? m.files).map DutyCycle.toPercent := by
  obtain ⟨c', rfl, hfiles⟩ := h
  have hspeed : (Machine.platform.speed (.channel c') m).toOption =
      (c.duty? m.files).map DutyCycle.toPercent := by
    rw [← FanChannel.duty?_congr hfiles.dutyPath]
    exact FanChannel.toOption_speed c' m.files
  rw [read?_eq_filter, hspeed]
  cases c.duty? m.files with
  | some v => exact Option.filter_some_pos (DutyCycle.isFinite_toPercent v)
  | none => rfl

/-- By induction on the fans: the first speed that is read is that of the first duty cycle. -/
theorem FansOf.findSome?_speed (hfs : FansOf channels fs)
    (hnew : ∀ f ∈ fs, f.history.measured = []) (m : Machine) (now : Timestamp) :
    (fs.findSome? fun f => (f.refresh Machine.platform m now).speed) =
      (channels.findSome? fun c => c.duty? m.files).map DutyCycle.toPercent := by
  induction hfs with
  | nil => rfl
  | @cons c f channels fs hf _ ih =>
    rw [List.forall_mem_cons] at hnew
    rw [List.findSome?_cons, List.findSome?_cons, Fan.speed_refresh hnew.1, Fan.read?_channel hf]
    cases c.duty? m.files with
    | some v => rfl
    | none => exact ih hnew.2

/-- Nothing was read of new members. -/
theorem measured_toMembers {inventory : Inventory} {capacity : Nat} {members : Members Probe Drive}
    (h : inventory.toMembers capacity = .ok members) :
    ∀ f ∈ members.fans, f.history.measured = [] := by
  intro f hf
  rw [(Members.wrap_eq_ok Machine.platform h).1] at hf
  obtain ⟨drive, -, rfl⟩ := List.mem_map.1 hf
  rfl

/-- A zone's next tick starts from a duty cycle: it was commanded last, or nothing was commanded or
read so far and it is the first one that can be read. -/
inductive Zone.StartsFrom (v : UInt8) (channels : List FanChannel) (t : Tree)
    (z : Zone Probe Drive) : Prop where
  | commanded (h : z.lastSpeed = some (DutyCycle.toPercent v))
  | found (hspeed : z.lastSpeed = none)
      (hnew : ∀ bound, z.members = some bound → ∀ f ∈ bound.fans, f.history.measured = [])
      (hfirst : (channels.findSome? fun c => c.duty? t) = some v)

theorem Zone.StartsFrom.startingPoint_eq {z : Zone Probe Drive}
    (h : z.StartsFrom v channels m.files) {bound : Members Probe Drive}
    (hbound : z.members = some bound) (hfans : FansOf channels bound.fans) (now : Timestamp)
    (offered : Option (Members Probe Drive)) :
    (z.prepared Machine.platform m now offered true).startingPoint =
      some (DutyCycle.toPercent v) := by
  rw [startingPoint_prepared hbound]
  cases h with
  | commanded h => rw [h, Option.some_or]
  | found hspeed hnew hfirst =>
    rw [hspeed, Option.none_or, hfans.findSome?_speed (hnew bound hbound), hfirst]
    rfl

end Found

/-! ## Successions -/

namespace Daemon

variable {root : String} {v : UInt8} {ticked : Bool} {channels : List FanChannel}
  {c : Controller Probe Drive Recorder} {m m' : Machine} {now : Timestamp}
  {options : TickOptions Probe Drive}

/-- A daemon that finds a duty cycle, and the daemons built after it. Each of them ticks while its
sensors ask for no change; between ticks others may change anything but the duty cycles of its fans.
`ticked` says whether the last of them has ticked since it was built. -/
inductive Succession (root : String) (v : UInt8) :
    (ticked : Bool) → List FanChannel → Controller Probe Drive Recorder → Machine → Prop where
  | start {config : Config} {m : Machine} {inventory : Inventory} {first : FanChannel}
      {c : Controller Probe Drive Recorder}
      (hdiscover : Hwmon.discover m.files root = .ok inventory)
      (hbuild : build config root m.files = .ok c)
      (hfirst : FanChannel.firstReadable? m.files inventory.fans = some first)
      (hduty : first.duty? m.files = some v)
      (hmin : config.minSpeed ≤ DutyCycle.toPercent v) :
      Succession root v false inventory.fans c m
  | change {ticked : Bool} {channels : List FanChannel} {c : Controller Probe Drive Recorder}
      {m m' : Machine} (h : Succession root v ticked channels c m)
      (hsame : ∀ channel ∈ channels, channel.duty? m'.files = channel.duty? m.files) :
      Succession root v ticked channels c m'
  | tick {ticked : Bool} {channels : List FanChannel} {c c' : Controller Probe Drive Recorder}
      {m m' : Machine} {now : Timestamp} {options : TickOptions Probe Drive} {report : TickReport}
      (h : Succession root v ticked channels c m) (hrefresh : options.refresh = true)
      (hband : c.InBand Machine.platform m now options)
      (htick : c.tick Machine.platform m now options = .ok (report, c', m'))
      (hwritten : report.zone.failedWrites = 0) (hapart : c'.DutiesApart channels m'.files) :
      Succession root v true channels c' m'
  | restart {config : Config} {channels : List FanChannel} {m : Machine} {inventory : Inventory}
      {first : FanChannel} {c c' : Controller Probe Drive Recorder}
      (h : Succession root v true channels c m)
      (hdiscover : Hwmon.discover m.files root = .ok inventory)
      (hbuild : build config root m.files = .ok c')
      (hfirst : FanChannel.firstReadable? m.files inventory.fans = some first)
      (hsame : ∃ channel ∈ channels,
        m.files.resolve true channel.dutyPath = m.files.resolve true first.dutyPath)
      (hmin : config.minSpeed ≤ DutyCycle.toPercent v) :
      Succession root v false inventory.fans c' m

/-- A daemon for the fans of the channels that starts its next tick from a duty cycle. Once it has
ticked, all of them show it. -/
structure Holding (v : UInt8) (ticked : Bool) (channels : List FanChannel)
    (c : Controller Probe Drive Recorder) (m : Machine) : Prop where
  settled : c.Settled
  onChannels : c.OnChannels c.config channels
  indexed : FanChannel.Indexed channels
  nonempty : channels ≠ []
  minSpeed_le : c.config.minSpeed ≤ DutyCycle.toPercent v
  starts : c.zone.StartsFrom v channels m.files
  shown : ticked = true → ∀ channel ∈ channels, channel.duty? m.files = some v

theorem holding_of_build {config : Config} {inventory : Inventory} {first : FanChannel}
    (hdiscover : Hwmon.discover m.files root = .ok inventory)
    (hbuild : build config root m.files = .ok c)
    (hfirst : FanChannel.firstReadable? m.files inventory.fans = some first)
    (hduty : first.duty? m.files = some v) (hmin : config.minSpeed ≤ DutyCycle.toPercent v) :
    Holding v false inventory.fans c m := by
  have hbound := boundTo_of_build hdiscover hbuild
  obtain ⟨hsettled, hconfig⟩ := build_eq_ok hbuild
  obtain ⟨created, capacity, members, hcreate, hmembers, hc⟩ := id hbound
  obtain ⟨-, -, elapsed, -, rfl⟩ := Controller.create_eq_ok_iff.1 hcreate
  have hspeed : c.zone.lastSpeed = none := by rw [hc]; rfl
  have hzone : c.zone.members = some members := by rw [hc]; rfl
  refine ⟨hsettled, hconfig ▸ hbound.onChannels, Hwmon.indexed_of_discover hdiscover,
    List.ne_nil_of_mem (FanChannel.mem_of_firstReadable? hfirst).1, hconfig ▸ hmin,
    .found hspeed (fun bound h => ?_) ?_, fun h => by cases h⟩
  · obtain rfl := Option.some.inj (hzone.symm.trans h)
    exact measured_toMembers hmembers
  · rw [FanChannel.findSome?_duty? hfirst, hduty]

namespace Holding

/-- Changes of anything but the duty cycles. -/
theorem change (h : Holding v ticked channels c m)
    (hsame : ∀ channel ∈ channels, channel.duty? m'.files = channel.duty? m.files) :
    Holding v ticked channels c m' := by
  refine ⟨h.settled, h.onChannels, h.indexed, h.nonempty, h.minSpeed_le, ?_, fun ht channel hmem =>
    (hsame channel hmem).trans (h.shown ht channel hmem)⟩
  cases h.starts with
  | commanded hspeed => exact .commanded hspeed
  | found hspeed hnew hfirst =>
    refine .found hspeed hnew ?_
    rw [← hfirst, ← List.head?_filterMap, ← List.head?_filterMap, List.filterMap_congr hsame]

/-- The next tick holds the speed; once all fans were written to and nothing else was written to
their files, all of them show it. -/
theorem tick (h : Holding v ticked channels c m) (hrefresh : options.refresh = true)
    (hband : c.InBand Machine.platform m now options) :
    ∃ report c' m', c.tick Machine.platform m now options = .ok (report, c', m') ∧
      report.zone.speed = DutyCycle.toPercent v ∧
      (report.zone.failedWrites = 0 → c'.DutiesApart channels m'.files →
        (∀ channel ∈ channels, m'.files.readText channel.dutyPath = .ok (toString v.toNat)) ∧
          Holding v true channels c' m') := by
  obtain ⟨bound, hbound, hfans⟩ := h.onChannels.bound
  have hpoint := h.starts.startingPoint_eq hbound hfans now
    (options.members.lookup c.zone.name)
  rw [← hrefresh] at hpoint
  have hlow : c.zone.config.minSpeed ≤ DutyCycle.toPercent v := h.settled.config_eq ▸ h.minSpeed_le
  obtain ⟨report, c', m', htick, hspeed, hlast⟩ :=
    Controller.tick_of_inBand hpoint hlow (DutyCycle.toPercent_le_maxSpeed v) hband
  obtain ⟨honChannels, -, hwrote⟩ := h.onChannels.tick_wrote htick
  rw [hspeed, FanChannel.dutyText_toPercent] at hwrote
  refine ⟨report, c', m', htick, hspeed, fun hzero hapart => ?_⟩
  have htexts : ∀ channel ∈ channels,
      m'.files.readText channel.dutyPath = .ok (toString v.toNat) := fun channel hmem =>
    (hwrote hzero channel hmem).readText_eq (hapart channel hmem)
  have hconfig := honChannels.config_eq
  refine ⟨htexts, h.settled.tick htick, hconfig ▸ honChannels, h.indexed, h.nonempty,
    hconfig ▸ h.minSpeed_le, .commanded hlast,
    fun _ channel hmem => FanChannel.duty?_of_readText (htexts channel hmem)⟩

end Holding

theorem Succession.holding (h : Succession root v ticked channels c m) :
    Holding v ticked channels c m := by
  induction h with
  | start hdiscover hbuild hfirst hduty hmin =>
    exact holding_of_build hdiscover hbuild hfirst hduty hmin
  | change _ hsame ih => exact ih.change hsame
  | tick _ hrefresh hband htick hwritten hapart ih =>
    obtain ⟨report, c', m', htick', -, hleft⟩ := ih.tick hrefresh hband
    cases htick.symm.trans htick'
    exact (hleft hwritten hapart).2
  | restart _ hdiscover hbuild hfirst hsame hmin ih =>
    obtain ⟨channel, hmem, hpath⟩ := hsame
    refine holding_of_build hdiscover hbuild hfirst ?_ hmin
    exact (FanChannel.duty?_of_resolve_eq hpath).symm.trans (ih.shown rfl channel hmem)

/-- In a well-formed tree without links, a tick brings up no fan that was not known. -/
theorem Holding.fansBelow (h : Holding v ticked channels c m)
    (hbelow : Hwmon.FansBelow root channels m.files) {report : TickReport}
    {c' : Controller Probe Drive Recorder}
    (htick : c.tick Machine.platform m now options = .ok (report, c', m')) :
    Hwmon.FansBelow root channels m'.files := by
  obtain ⟨-, hcovers, -⟩ := h.onChannels.tick h.indexed hbelow.linkFree htick
  obtain ⟨-, hspares, -⟩ := h.onChannels.tick_wrote htick
  refine hbelow.of_covers hcovers (hspares.wellFormed hbelow.wellFormed) fun above index hl => ?_
  rcases hl with ⟨channel, hmem, heq⟩ | hrows
  · exact ⟨channel, hmem, heq.symm⟩
  · obtain ⟨above', heq⟩ := written_exportFootprint hrows
    have hname : '.' ∈ ("pwm" ++ toString index).toList := by
      rw [(List.append_inj' heq rfl).2 |> List.singleton_inj.1]
      decide
    exact absurd hname (FanChannel.not_mem_dutyName (by decide) (by decide) index)

/-- There nothing but the duty cycles is written to the duty cycles' files. -/
theorem Holding.dutiesApart (h : Holding v ticked channels c m)
    (hbelow : Hwmon.FansBelow root channels m.files) {report : TickReport}
    {c' : Controller Probe Drive Recorder}
    (htick : c.tick Machine.platform m now options = .ok (report, c', m')) :
    c'.DutiesApart channels m'.files := by
  obtain ⟨honChannels, -⟩ := h.onChannels.tick_wrote htick
  exact honChannels.dutiesApart h.indexed (h.fansBelow hbelow htick).linkFree

/-- Whenever the sensors ask for no change, a daemon of a succession writes the duty cycle that was
found at first. All fans show it if all of them could be written to and nothing else was written to
their files, and in a well-formed tree without links whose fans are known nothing else is. There a
daemon that is built next starts from a known fan. -/
theorem Succession.tick_writes_duty (h : Succession root v ticked channels c m) (now : Timestamp)
    (options : TickOptions Probe Drive) (hrefresh : options.refresh = true)
    (hband : c.InBand Machine.platform m now options) :
    ∃ report c' m', c.tick Machine.platform m now options = .ok (report, c', m') ∧
      report.zone.speed = DutyCycle.toPercent v ∧
      FanChannel.dutyText report.zone.speed = toString v.toNat ∧
      (report.zone.failedWrites = 0 → c'.DutiesApart channels m'.files →
        ∀ channel ∈ channels, m'.files.readText channel.dutyPath = .ok (toString v.toNat)) ∧
      (Hwmon.FansBelow root channels m.files →
        c'.DutiesApart channels m'.files ∧ Hwmon.FansBelow root channels m'.files ∧
          (report.zone.failedWrites = 0 →
            ∃ inventory first, Hwmon.discover m'.files root = .ok inventory ∧
              FanChannel.firstReadable? m'.files inventory.fans = some first ∧
              ∃ channel ∈ channels,
                m'.files.resolve true channel.dutyPath =
                  m'.files.resolve true first.dutyPath)) := by
  have hholding := h.holding
  obtain ⟨report, c', m', htick, hspeed, hleft⟩ := hholding.tick hrefresh hband
  refine ⟨report, c', m', htick, hspeed, ?_, fun hzero hapart => (hleft hzero hapart).1,
    fun hbelow => ?_⟩
  · rw [hspeed, FanChannel.dutyText_toPercent]
  · have hbelow' := hholding.fansBelow hbelow htick
    have hapart := hholding.dutiesApart hbelow htick
    refine ⟨hapart, hbelow', fun hzero => ?_⟩
    exact hbelow'.exists_firstReadable hholding.nonempty ((hleft hzero hapart).2.shown rfl)

/-! ## Two daemons -/

/-- Whatever else there is, and a chip with a warm sensor and two fans of different speeds. -/
def warmChip (others : List (Location × Node)) : Machine where
  files :=
    { entries := others ++ [
        (["hw"], .directory),
        (["hw", "hwmon0"], .directory),
        (["hw", "hwmon0", "pwm1"], .file "128".toUTF8),
        (["hw", "hwmon0", "pwm2"], .file "10".toUTF8),
        (["hw", "hwmon0", "temp1_crit"], .file "100000".toUTF8),
        (["hw", "hwmon0", "temp1_input"], .file "76000".toUTF8),
        (["hw", "hwmon0", "temp1_max"], .file "95000".toUTF8)]
      start := [] }
  bench := .empty
  recorded := []

def warmChannels : Inventory where
  fans := [.ofIndex "hwmon0" "/hw/hwmon0" 1, .ofIndex "hwmon0" "/hw/hwmon0" 2]
  thermals := [.describedAt (warmChip []).files "hwmon0" "/hw/hwmon0" 1]

theorem discover_warmChannels {t : Tree} {chips : List String} (hchips : t.names "/hw" = .ok chips)
    (hlisted : Inventory.listed t "/hw" chips = warmChannels) :
    Hwmon.discover t "/hw" = .ok warmChannels :=
  Hwmon.discover_of_listed hchips hlisted (by decide +kernel) (by decide +kernel)

theorem wellFormed_warmChip : (warmChip []).files.WellFormed := by
  have hin : ∀ above name, (warmChip []).files.node? above = some .directory → Plain name →
      (warmChip []).files.Housed (above ++ [name]) := fun above name habove hname =>
    ⟨above, name, rfl, habove, hname⟩
  have hchip := hin ["hw", "hwmon0"]
  refine Tree.wellFormed_of_entries rfl ?_
  simp only [warmChip, List.nil_append, List.forall_mem_cons, List.not_mem_nil, false_imp_iff,
    implies_true, and_true]
  exact ⟨hin [] "hw" rfl (by decide), hin ["hw"] "hwmon0" rfl (by decide),
    hchip "pwm1" rfl (by decide), hchip "pwm2" rfl (by decide),
    hchip "temp1_crit" rfl (by decide), hchip "temp1_input" rfl (by decide),
    hchip "temp1_max" rfl (by decide)⟩

/-- A daemon that finds the fans of the chip, and the one that is built after its first tick. -/
theorem Succession.tick_writes_duty_of_rebuilt :
    let m := warmChip []
    let options : TickOptions Probe Drive := { refresh := true }
    ∃ c report c' m' report' c'' m'',
      Hwmon.FansBelow "/hw" warmChannels.fans m.files ∧ build .default "/hw" m.files = .ok c ∧
      c.tick Machine.platform m (Binary.ofNat 0) options = .ok (report, c', m') ∧
      report.zone.failedWrites = 0 ∧ build .default "/hw" m'.files = .ok c ∧
      Succession "/hw" 128 false warmChannels.fans c m' ∧
      c.InBand Machine.platform m' (Binary.ofNat 60) options ∧
      c.tick Machine.platform m' (Binary.ofNat 60) options = .ok (report', c'', m'') ∧
      report'.zone.failedWrites = 0 ∧ FanChannel.dutyText report'.zone.speed = "128" ∧
      ∀ fan ∈ warmChannels.fans, m''.files.readText fan.dutyPath = .ok "128" := by
  intro m options
  have hchips : m.files.names "/hw" = .ok ["hwmon0"] := by decide +kernel
  have hdiscover := discover_warmChannels hchips (by decide +kernel)
  have hfirst : FanChannel.firstReadable? m.files warmChannels.fans =
      some (.ofIndex "hwmon0" "/hw/hwmon0" 1) := by decide +kernel
  have hfree : m.files.LinkFree := Tree.linkFree_of_entries (by simp [m, warmChip])
  have hbelow := Hwmon.fansBelow_of_discover hfree wellFormed_warmChip hdiscover
  -- The daemon that is built later finds the same channels, so it is the same one.
  obtain ⟨c, hbuild, hband, hticks⟩ : ∃ c : Controller Probe Drive Recorder,
      (∀ {t : Tree}, Hwmon.discover t "/hw" = .ok warmChannels →
        build .default "/hw" t = .ok c) ∧
      c.InBand Machine.platform m (Binary.ofNat 0) options ∧
      ∀ r ∈ (c.tick Machine.platform m (Binary.ofNat 0) options).toOption,
        r.1.zone.failedWrites = 0 ∧ r.2.2.files.names "/hw" = .ok ["hwmon0"] ∧
        Inventory.listed r.2.2.files "/hw" ["hwmon0"] = warmChannels ∧
        c.InBand Machine.platform r.2.2 (Binary.ofNat 60) options ∧
        ∀ r' ∈ (c.tick Machine.platform r.2.2 (Binary.ofNat 60) options).toOption,
          r'.1.zone.failedWrites = 0 :=
    ⟨_, fun h => (build_eq_ok_iff h).2 ⟨_, _, Controller.create_default, rfl, rfl⟩,
      by decide +kernel, by decide +kernel⟩
  have hstart : Succession "/hw" 128 false warmChannels.fans c m :=
    .start hdiscover (hbuild hdiscover) hfirst (by decide +kernel) (by decide +kernel)
  obtain ⟨report, c', m', htick, -, -, -, hleft⟩ :=
    hstart.tick_writes_duty (Binary.ofNat 0) options rfl hband
  obtain ⟨hzero, hchips', hlisted, hband', hticks'⟩ := hticks _ (toOption_eq_some_iff.2 htick)
  obtain ⟨hapart, hbelow', hnext⟩ := hleft hbelow
  have hdiscover' := discover_warmChannels hchips' hlisted
  obtain ⟨inventory, first, hfound, hfirst', hsame⟩ := hnext hzero
  cases hdiscover'.symm.trans hfound
  have hrebuilt : Succession "/hw" 128 false warmChannels.fans c m' :=
    .restart (.tick hstart rfl hband htick hzero hapart) hdiscover' (hbuild hdiscover') hfirst'
      hsame
      (by decide +kernel)
  obtain ⟨report', c'', m'', htick', -, htext, hall, hleft'⟩ :=
    hrebuilt.tick_writes_duty (Binary.ofNat 60) options rfl hband'
  have hzero' := hticks' _ (toOption_eq_some_iff.2 htick')
  exact ⟨c, report, c', m', report', c'', m'', hbelow, hbuild hdiscover, htick, hzero,
    hbuild hdiscover', hrebuilt, hband', htick', hzero', htext, hall hzero' (hleft' hbelow').1⟩

/-- Two daemons, each built and ticking once while its sensors ask for no change. The first one
starts from one duty cycle, and the second one writes another to all fans. -/
def Drifts (config : Config) (m : Machine) (v v' : UInt8) : Prop :=
  ∃ inventory first c report c' m' rebuilt report' c'' m'',
    Hwmon.discover m.files "/hw" = .ok inventory ∧ build config "/hw" m.files = .ok c ∧
    FanChannel.firstReadable? m.files inventory.fans = some first ∧
    first.duty? m.files = some v ∧ config.minSpeed ≤ DutyCycle.toPercent v ∧
    c.InBand Machine.platform m (Binary.ofNat 0) { refresh := true } ∧
    c.tick Machine.platform m (Binary.ofNat 0) { refresh := true } = .ok (report, c', m') ∧
    report.zone.failedWrites = 0 ∧ build config "/hw" m'.files = .ok rebuilt ∧
    rebuilt.InBand Machine.platform m' (Binary.ofNat 60) { refresh := true } ∧
    rebuilt.tick Machine.platform m' (Binary.ofNat 60) { refresh := true } =
      .ok (report', c'', m'') ∧
    report'.zone.failedWrites = 0 ∧ FanChannel.dutyText report'.zone.speed = toString v'.toNat ∧
    v' ≠ v

theorem drifts_of_ticks {config : Config} {m : Machine} {v v' : UInt8}
    {inventory inventory' : Inventory} {first : FanChannel}
    {c rebuilt : Controller Probe Drive Recorder} (chips : List String)
    (hdiscover : Hwmon.discover m.files "/hw" = .ok inventory)
    (hbuild : build config "/hw" m.files = .ok c)
    (hfirst : FanChannel.firstReadable? m.files inventory.fans = some first)
    (hduty : first.duty? m.files = some v) (hmin : config.minSpeed ≤ DutyCycle.toPercent v)
    (hband : c.InBand Machine.platform m (Binary.ofNat 0) { refresh := true })
    (hrebuilt : ∀ t, Hwmon.discover t "/hw" = .ok inventory' →
      build config "/hw" t = .ok rebuilt)
    (hfans : inventory'.fans.Pairwise fun a b => a.name ≤ b.name)
    (hthermals : inventory'.thermals.Pairwise fun a b => a.name ≤ b.name) (hne : v' ≠ v)
    (hticks : ∃ r ∈ (c.tick Machine.platform m (Binary.ofNat 0) { refresh := true }).toOption,
      r.1.zone.failedWrites = 0 ∧ r.2.2.files.names "/hw" = .ok chips ∧
      Inventory.listed r.2.2.files "/hw" chips = inventory' ∧
      rebuilt.InBand Machine.platform r.2.2 (Binary.ofNat 60) { refresh := true } ∧
      ∃ r' ∈ (rebuilt.tick Machine.platform r.2.2 (Binary.ofNat 60)
        { refresh := true }).toOption,
        r'.1.zone.failedWrites = 0 ∧
        FanChannel.dutyText r'.1.zone.speed = toString v'.toNat) :
    Drifts config m v v' := by
  obtain ⟨⟨report, c', m'⟩, htick, hzero, hchips, hlisted, hband', hnext⟩ := hticks
  obtain ⟨⟨report', c'', m''⟩, htick', hzero', htext⟩ := hnext
  have hdiscover' := Hwmon.discover_of_listed hchips hlisted hfans hthermals
  exact ⟨inventory, first, c, report, c', m', rebuilt, report', c'', m'', hdiscover, hbuild, hfirst,
    hduty, hmin, hband, toOption_eq_some_iff.1 htick, hzero, hrebuilt _ hdiscover', hband',
    toOption_eq_some_iff.1 htick', hzero', htext, hne⟩

/-- Saying who controls the second fan sets the duty cycle of the first one. -/
def sharedFile : Machine := warmChip [(["hw", "hwmon0", "pwm2_enable"], .link "pwm1")]

theorem drifts_sharedFile : Drifts .default sharedFile 128 77 := by
  have hchips : sharedFile.files.names "/hw" = .ok ["hwmon0"] := by decide +kernel
  have hdiscover := discover_warmChannels hchips (by decide +kernel)
  have hfirst : FanChannel.firstReadable? sharedFile.files warmChannels.fans =
      some (.ofIndex "hwmon0" "/hw/hwmon0" 1) := by decide +kernel
  have hbuild : ∀ t, Hwmon.discover t "/hw" = .ok warmChannels → build .default "/hw" t = .ok _ :=
    fun t h => (build_eq_ok_iff h).2 ⟨_, _, Controller.create_default, rfl, rfl⟩
  exact drifts_of_ticks ["hwmon0"] hdiscover (hbuild _ hdiscover) hfirst (by decide +kernel)
    (by decide +kernel) (by decide +kernel) hbuild (by decide +kernel) (by decide +kernel)
    (by decide) (by decide +kernel)

/-- Making the directory `/out/new` brings up another fan. -/
def lateFan : Machine :=
  warmChip [
    (["hw", "chip"], .link "/out/new/../../spare"),
    (["out"], .directory),
    (["spare"], .directory),
    (["spare", "pwm1"], .file "200".toUTF8)]

def exporting : Config := { Config.default with exportPath := some "/out/new" }

theorem drifts_lateFan : Drifts exporting lateFan 128 200 := by
  have hvalid : exporting.Valid :=
    (Config.validate_eq_ok_iff.1 Config.validate_default).withExport (some "/out/new") false
  have hinterval : exporting.interval = .ok ⟨60000000000, by decide⟩ :=
    Config.interval_withExport.trans Config.interval_default
  have hchips : lateFan.files.names "/hw" = .ok ["chip", "hwmon0"] := by decide +kernel
  have hdiscover := discover_warmChannels hchips (by decide +kernel)
  have hfirst : FanChannel.firstReadable? lateFan.files warmChannels.fans =
      some (.ofIndex "hwmon0" "/hw/hwmon0" 1) := by decide +kernel
  let found : Inventory := { warmChannels with
    fans := .ofIndex "chip" "/hw/chip" 1 :: warmChannels.fans }
  have hbuild : ∀ t, Hwmon.discover t "/hw" = .ok warmChannels → build exporting "/hw" t = .ok _ :=
    fun t h => (build_eq_ok_iff h).2
      ⟨_, _, Controller.create_eq_ok_iff.2 ⟨hvalid, by decide, _, hinterval, rfl⟩, rfl, rfl⟩
  have hrebuilt : ∀ t, Hwmon.discover t "/hw" = .ok found → build exporting "/hw" t = .ok _ :=
    fun t h => (build_eq_ok_iff h).2
      ⟨_, _, Controller.create_eq_ok_iff.2 ⟨hvalid, by decide, _, hinterval, rfl⟩, rfl, rfl⟩
  exact drifts_of_ticks ["chip", "hwmon0"] hdiscover (hbuild _ hdiscover) hfirst (by decide +kernel)
    (by decide +kernel) (by decide +kernel) hrebuilt (by decide +kernel) (by decide +kernel)
    (by decide) (by decide +kernel)

/-- With links the speed may drift. -/
theorem drifts_with_links :
    Drifts .default sharedFile 128 77 ∧ Drifts exporting lateFan 128 200 :=
  ⟨drifts_sharedFile, drifts_lateFan⟩

/-! ## Without links -/

/-- A succession in well-formed trees without links, where between ticks others may do what keeps
them so and brings up no fan that was not known. Nothing is assumed of what a tick writes but that
no write to a fan fails, and nothing of the fan that a later daemon starts from. -/
inductive PlainSuccession (root : String) (v : UInt8) :
    (ticked : Bool) → List FanChannel → Controller Probe Drive Recorder → Machine → Prop where
  | start {config : Config} {m : Machine} {inventory : Inventory} {first : FanChannel}
      {c : Controller Probe Drive Recorder} (hfree : m.files.LinkFree)
      (hwell : m.files.WellFormed) (hdiscover : Hwmon.discover m.files root = .ok inventory)
      (hbuild : build config root m.files = .ok c)
      (hfirst : FanChannel.firstReadable? m.files inventory.fans = some first)
      (hduty : first.duty? m.files = some v)
      (hmin : config.minSpeed ≤ DutyCycle.toPercent v) :
      PlainSuccession root v false inventory.fans c m
  | change {ticked : Bool} {channels : List FanChannel} {c : Controller Probe Drive Recorder}
      {m m' : Machine} (h : PlainSuccession root v ticked channels c m)
      (hbelow : Hwmon.FansBelow root channels m'.files)
      (hsame : ∀ channel ∈ channels, channel.duty? m'.files = channel.duty? m.files) :
      PlainSuccession root v ticked channels c m'
  | tick {ticked : Bool} {channels : List FanChannel} {c c' : Controller Probe Drive Recorder}
      {m m' : Machine} {now : Timestamp} {options : TickOptions Probe Drive} {report : TickReport}
      (h : PlainSuccession root v ticked channels c m) (hrefresh : options.refresh = true)
      (hband : c.InBand Machine.platform m now options)
      (htick : c.tick Machine.platform m now options = .ok (report, c', m'))
      (hwritten : report.zone.failedWrites = 0) : PlainSuccession root v true channels c' m'
  | restart {config : Config} {channels : List FanChannel} {m : Machine} {inventory : Inventory}
      {c c' : Controller Probe Drive Recorder} (h : PlainSuccession root v true channels c m)
      (hdiscover : Hwmon.discover m.files root = .ok inventory)
      (hbuild : build config root m.files = .ok c')
      (hmin : config.minSpeed ≤ DutyCycle.toPercent v) :
      PlainSuccession root v false inventory.fans c' m

/-- By induction on the course of events: the fans stay known, so what a succession asks for beyond
is given at each tick and at each restart. -/
theorem PlainSuccession.kept (h : PlainSuccession root v ticked channels c m) :
    Succession root v ticked channels c m ∧ Hwmon.FansBelow root channels m.files := by
  induction h with
  | start hfree hwell hdiscover hbuild hfirst hduty hmin =>
    exact ⟨.start hdiscover hbuild hfirst hduty hmin,
      Hwmon.fansBelow_of_discover hfree hwell hdiscover⟩
  | change _ hbelow hsame ih => exact ⟨ih.1.change hsame, hbelow⟩
  | tick _ hrefresh hband htick hwritten ih =>
    obtain ⟨hsuccession, hbelow⟩ := ih
    have hapart := hsuccession.holding.dutiesApart hbelow htick
    exact ⟨.tick hsuccession hrefresh hband htick hwritten hapart,
      hsuccession.holding.fansBelow hbelow htick⟩
  | restart _ hdiscover hbuild hmin ih =>
    obtain ⟨hsuccession, hbelow⟩ := ih
    have hholding := hsuccession.holding
    obtain ⟨inventory, first, hfound, hfirst, hsame⟩ :=
      hbelow.exists_firstReadable hholding.nonempty (hholding.shown rfl)
    cases hdiscover.symm.trans hfound
    exact ⟨.restart hsuccession hdiscover hbuild hfirst hsame hmin,
      Hwmon.fansBelow_of_discover hbelow.linkFree hbelow.wellFormed hdiscover⟩

/-- At any point of such a succession the next tick at which the sensors ask for no change writes
the duty cycle that was found at first. If no write fails, all fans show it and the succession goes
on, be it with this daemon or with one that is built next. -/
theorem PlainSuccession.goes_on (h : PlainSuccession root v ticked channels c m) (now : Timestamp)
    (options : TickOptions Probe Drive) (hrefresh : options.refresh = true)
    (hband : c.InBand Machine.platform m now options) :
    ∃ report c' m', c.tick Machine.platform m now options = .ok (report, c', m') ∧
      report.zone.speed = DutyCycle.toPercent v ∧
      FanChannel.dutyText report.zone.speed = toString v.toNat ∧
      (report.zone.failedWrites = 0 →
        (∀ channel ∈ channels, m'.files.readText channel.dutyPath = .ok (toString v.toNat)) ∧
        PlainSuccession root v true channels c' m' ∧
        ∃ inventory, Hwmon.discover m'.files root = .ok inventory ∧
          ∀ config rebuilt, build config root m'.files = .ok rebuilt →
            config.minSpeed ≤ DutyCycle.toPercent v →
              PlainSuccession root v false inventory.fans rebuilt m') := by
  obtain ⟨hsuccession, hbelow⟩ := h.kept
  have hholding := hsuccession.holding
  obtain ⟨report, c', m', htick, hspeed, hleft⟩ := hholding.tick hrefresh hband
  refine ⟨report, c', m', htick, hspeed, ?_, fun hzero => ?_⟩
  · rw [hspeed, FanChannel.dutyText_toPercent]
  · have hnext : PlainSuccession root v true channels c' m' :=
      .tick h hrefresh hband htick hzero
    obtain ⟨inventory, hdiscover, -, -⟩ := (hholding.fansBelow hbelow htick).known
    exact ⟨(hleft hzero (hholding.dutiesApart hbelow htick)).1, hnext, inventory, hdiscover,
      fun config rebuilt hbuild hmin => .restart hnext hdiscover hbuild hmin⟩

end Daemon

end ChassisCooling
