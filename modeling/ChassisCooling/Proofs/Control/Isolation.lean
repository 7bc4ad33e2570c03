import ChassisCooling.Machine.Basic
import ChassisCooling.Proofs.Control.Writes
import ChassisCooling.Proofs.History

/-!
# Failing writes over a run

From its creation on a zone records one command for each tick, whatever is done to it in between. A
fan records those commands whose write to it succeeded, and no failure of another fan's write
changes that.

* `ZoneOperation`, `Zone.operateAll`: what may be done to a zone, with a record of each tick.
* `Zone.boundFans`: the fans of a run, in the order in which they were bound.
* `Zone.operate_reachBy`, `Zone.operate_speed`, `Zone.operate_records`: one operation.
* `Zone.Isolated`: what a run keeps to; `Zone.operateAll_isolated`: the main result.
-/

namespace ChassisCooling

open Binary

section Runs

variable {World Probe Drive Outlet : Type} (P : Platform World Probe Drive Outlet)

/-- A fan comes of another one while nothing is commanded. -/
def Fan.KeepsCommands (f f' : Fan Drive) : Prop := f.history.Reaches [] f'.history

theorem Fan.keepsCommands_refl (f : Fan Drive) : f.KeepsCommands f := .refl

/-! ## Operations -/

/-- What may be done to a zone. An operation that looks at the world is given the one that it
meets. -/
inductive ZoneOperation (World Probe Drive : Type) where
  | load (members : Members Probe Drive)
  | refresh (world : World) (now : Timestamp)
  | run (world : World) (tick : Tick) (offered : Option (Members Probe Drive)) (refresh : Bool)
  | reconfigure (config : Config)
  /-- Anything is done to the first sensor of a name. -/
  | touchSensor (sensor : String) (change : Sensor Probe → Sensor Probe)
  /-- Anything but a command is done to the first fan of a name. -/
  | touchFan (fan : String) (change : Fan Drive → Fan Drive)
      (keeps : ∀ f : Fan Drive, f.KeepsCommands (change f))

namespace ZoneOperation

/-- The members that an operation binds, unless some are bound. -/
def members? : ZoneOperation World Probe Drive → Option (Members Probe Drive)
  | .load members => some members
  | .run _ _ offered _ => some (offered.getD .empty)
  | _ => none

/-- The time of a tick. -/
def time? : ZoneOperation World Probe Drive → Option Timestamp
  | .run _ tick _ _ => some tick.now
  | _ => none

end ZoneOperation

/-- A tick, with the fans that were bound and what was written. -/
structure TickRecord (Drive : Type) where
  now : Timestamp
  report : ZoneReport
  fans : List (Fan Drive)
  writes : List (Write Drive)

namespace TickRecord

/-- What a tick commands. -/
def sample (r : TickRecord Drive) : Sample := ⟨r.now, r.report.speed⟩

/-- Whether the write to the fan at a place succeeded. -/
def wrote (r : TickRecord Drive) (i : Nat) : Bool := r.writes[i]?.any Write.succeeded

end TickRecord

/-- The commands of the ticks at which the write to the fan at a place succeeded. -/
def commandsOf (records : List (TickRecord Drive)) (i : Nat) : List Sample :=
  (records.filter fun r => r.wrote i).map TickRecord.sample

theorem commandsOf_singleton (r : TickRecord Drive) (i : Nat) :
    commandsOf [r] i = if r.wrote i then [r.sample] else [] := by
  unfold commandsOf
  rw [List.filter_singleton]
  cases r.wrote i <;> rfl

theorem commandsOf_append (records rest : List (TickRecord Drive)) :
    commandsOf (records ++ rest) = fun i => commandsOf records i ++ commandsOf rest i := by
  funext i
  unfold commandsOf
  rw [List.filter_append, List.map_append]

namespace Zone

/-- What comes of one operation: the record of a tick, and the next zone. -/
def operate (z : Zone Probe Drive) :
    ZoneOperation World Probe Drive → Except Breach (List (TickRecord Drive) × Zone Probe Drive)
  | .load members => .ok ([], z.load members)
  | .refresh w now => .ok ([], z.refresh P w now)
  | .run w tick offered refresh => do
    let (report, z', _, writes) ← z.run P.witnessed (w, []) tick offered refresh
    return ([⟨tick.now, report, (z.load (offered.getD .empty)).fans, writes⟩], z')
  | .reconfigure config => .ok ([], z.reconfigure config)
  | .touchSensor sensor change => .ok ([], z.touchSensor sensor change)
  | .touchFan fan change _ => .ok ([], z.touchFan fan change)

/-- The records of the ticks among a list of operations, and the zone after them. -/
def operateAll (z : Zone Probe Drive) :
    List (ZoneOperation World Probe Drive) →
      Except Breach (List (TickRecord Drive) × Zone Probe Drive)
  | [] => .ok ([], z)
  | op :: ops => do
    let (records, z) ← z.operate P op
    let (rest, z) ← z.operateAll ops
    return (records ++ rest, z)

/-! ## What an operation changes -/

section Changes

variable {z z' : Zone Probe Drive}

theorem keepsCommands_refresh (z : Zone Probe Drive) (w : World) (now : Timestamp) :
    List.Forall₂ Fan.KeepsCommands z.fans (z.refresh P w now).fans := by
  rw [fans_refresh, List.forall₂_map_right_iff]
  refine List.forall₂_same.2 fun f _ => ?_
  rw [Fan.refresh_eq]
  split
  · exact .recordMeasured .refl now _
  · exact .refl

theorem keepsCommands_reconfigure (z : Zone Probe Drive) (config : Config) :
    List.Forall₂ Fan.KeepsCommands z.fans (z.reconfigure config).fans := by
  rw [fans_reconfigure]
  split
  · exact List.forall₂_same.2 fun f _ => f.keepsCommands_refl
  · rw [List.forall₂_map_right_iff]
    exact List.forall₂_same.2 fun f _ => .setCapacity .refl config.historyCapacity

/-! ## The fans of a run -/

/-- The fans of a zone as they are bound: those bound already, or else those that come with the
first operation that binds any. -/
def boundFans (z : Zone Probe Drive) (ops : List (ZoneOperation World Probe Drive)) :
    List (Fan Drive) :=
  ((z.members.or (ops.findSome? ZoneOperation.members?)).getD .empty).fans

theorem boundFans_nil (z : Zone Probe Drive) :
    z.boundFans ([] : List (ZoneOperation World Probe Drive)) = z.fans := by
  unfold boundFans fans
  cases z.members <;> rfl

theorem boundFans_of_initialized (hz : z.isInitialized = true)
    (ops : List (ZoneOperation World Probe Drive)) : z.boundFans ops = z.fans := by
  obtain ⟨m, hm⟩ := Option.isSome_iff_exists.1 hz
  unfold boundFans fans
  rw [hm]
  rfl

theorem boundFans_cons_of_some {op : ZoneOperation World Probe Drive} {m : Members Probe Drive}
    (hop : op.members? = some m) (z : Zone Probe Drive)
    (ops : List (ZoneOperation World Probe Drive)) :
    z.boundFans (op :: ops) = (z.load m).fans := by
  unfold boundFans load fans
  rw [List.findSome?_cons, hop]

theorem boundFans_cons_of_none {op : ZoneOperation World Probe Drive} (hop : op.members? = none)
    (z : Zone Probe Drive) (ops : List (ZoneOperation World Probe Drive)) :
    z.boundFans (op :: ops) = z.boundFans ops := by
  unfold boundFans
  rw [List.findSome?_cons, hop]

/-- An operation that neither binds fans nor commands them. -/
theorem reachBy_of_keepsCommands (hinit : z'.isInitialized = z.isInitialized)
    (hfans : List.Forall₂ Fan.KeepsCommands z.fans z'.fans)
    (ops : List (ZoneOperation World Probe Drive)) :
    History.ReachBy (fun _ => []) ((z.boundFans ops).map Fan.history)
      ((z'.boundFans ops).map Fan.history) := by
  cases hz : z.isInitialized with
  | true =>
    rw [hz] at hinit
    rw [boundFans_of_initialized hz, boundFans_of_initialized hinit]
    apply History.ReachBy.of_forall₂
    rwa [List.forall₂_map_left_iff, List.forall₂_map_right_iff]
  | false =>
    rw [hz] at hinit
    have hnone : z.members = none := Option.isNone_iff_eq_none.1 (by simpa [isInitialized] using hz)
    have hnone' : z'.members = none :=
      Option.isNone_iff_eq_none.1 (by simpa [isInitialized] using hinit)
    unfold boundFans
    rw [hnone, hnone']
    exact .refl _

/-! ## Steps -/

variable {w w' : World} {tick : Tick} {offered : Option (Members Probe Drive)} {refresh : Bool}
  {report : ZoneReport} {records : List (TickRecord Drive)} {op : ZoneOperation World Probe Drive}

/-- The record of a tick. -/
def recordOf (z : Zone Probe Drive) (w : World) (tick : Tick)
    (offered : Option (Members Probe Drive)) (refresh : Bool) (report : ZoneReport) :
    TickRecord Drive :=
  ⟨tick.now, report, (z.load (offered.getD .empty)).fans,
    z.writesOf P w tick.now offered refresh report.speed⟩

variable {P}

theorem operate_run_eq_ok
    (h : z.operate P (.run w tick offered refresh) = .ok (records, z')) :
    ∃ report w', z.run P w tick offered refresh = .ok (report, z', w') ∧
      records = [z.recordOf P w tick offered refresh report] := by
  obtain ⟨⟨report, z₁, w', writes⟩, hrun, h⟩ := bind_eq_ok_iff.1 h
  rw [run_witnessed] at hrun
  cases hplain : z.run P w tick offered refresh with
  | error b =>
    rw [hplain] at hrun
    cases hrun
  | ok r =>
    rw [hplain] at hrun
    cases hrun
    cases h
    exact ⟨_, _, rfl, rfl⟩

theorem reachBy_run (h : z.run P w tick offered refresh = .ok (report, z', w')) :
    History.ReachBy (commandsOf [z.recordOf P w tick offered refresh report])
      ((z.load (offered.getD .empty)).fans.map Fan.history) (z'.fans.map Fan.history) := by
  have hprepared : List.Forall₂ Fan.KeepsCommands (z.load (offered.getD .empty)).fans
      (z.prepared P w tick.now offered refresh).fans := by
    unfold prepared
    split
    · exact keepsCommands_refresh P _ w tick.now
    · exact List.forall₂_same.2 fun f _ => f.keepsCommands_refl
  have hreads : History.ReachBy (fun _ => [])
      ((z.load (offered.getD .empty)).fans.map Fan.history)
      ((z.prepared P w tick.now offered refresh).fans.map Fan.history) := by
    apply History.ReachBy.of_forall₂
    rwa [List.forall₂_map_left_iff, List.forall₂_map_right_iff]
  obtain ⟨-, -, -, hhistories⟩ := run_writes P h
  refine hreads.trans ⟨?_, ?_⟩
  · rw [hhistories, List.length_zipWith, List.length_map, writesOf, length_writesTo, Nat.min_self]
  · intro i g g' hg hg'
    rw [hhistories, List.getElem?_zipWith_eq_some] at hg'
    obtain ⟨g₁, write, hg₁, hwrite, rfl⟩ := hg'
    obtain rfl : g = g₁ := Option.some.inj (hg.symm.trans hg₁)
    have hwrote : (z.recordOf P w tick offered refresh report).wrote i = write.succeeded := by
      show Option.any Write.succeeded _ = _
      rw [show (z.recordOf P w tick offered refresh report).writes[i]? = some write from hwrite]
      rfl
    show g.Reaches (commandsOf [z.recordOf P w tick offered refresh report] i) _
    rw [commandsOf_singleton, hwrote]
    split
    · exact .recordCommanded .refl tick.now report.speed
    · exact .refl

/-- An operation adds to the record of every fan what its own writes add. -/
theorem operate_reachBy (h : z.operate P op = .ok (records, z'))
    (ops : List (ZoneOperation World Probe Drive)) :
    History.ReachBy (commandsOf records) ((z.boundFans (op :: ops)).map Fan.history)
      ((z'.boundFans ops).map Fan.history) := by
  cases op with
  | load m =>
    cases h
    rw [boundFans_cons_of_some rfl, boundFans_of_initialized (isInitialized_load z m)]
    exact .refl _
  | run w tick offered refresh =>
    obtain ⟨report, w', hrun, rfl⟩ := operate_run_eq_ok h
    rw [boundFans_cons_of_some rfl, boundFans_of_initialized (run_writes P hrun).1]
    exact reachBy_run hrun
  | refresh w now =>
    cases h
    rw [boundFans_cons_of_none rfl]
    exact reachBy_of_keepsCommands (isInitialized_refresh P z w now)
      (keepsCommands_refresh P z w now) ops
  | reconfigure config =>
    cases h
    rw [boundFans_cons_of_none rfl]
    exact reachBy_of_keepsCommands (isInitialized_reconfigure z config)
      (keepsCommands_reconfigure z config) ops
  | touchSensor sensor change =>
    cases h
    obtain ⟨sensors, heq⟩ := exists_touchSensor_eq z sensor change
    have hbound : (z.touchSensor sensor change).boundFans ops = z.boundFans ops := by
      rw [heq]
      unfold boundFans
      cases z.members <;> rfl
    rw [boundFans_cons_of_none rfl, hbound]
    exact .refl _
  | touchFan fan change keeps =>
    cases h
    obtain ⟨fans, heq⟩ := exists_touchFan_eq z fan change
    have hinit : (z.touchFan fan change).isInitialized = z.isInitialized := by
      rw [heq]
      exact Option.isSome_map
    rw [boundFans_cons_of_none rfl]
    exact reachBy_of_keepsCommands hinit (forall₂_touchFan Fan.keepsCommands_refl keeps z fan) ops

/-- The zone records the command of a tick, and nothing else. -/
theorem operate_speed (h : z.operate P op = .ok (records, z')) :
    z.speed.Reaches (records.map TickRecord.sample) z'.speed := by
  cases op with
  | load m | refresh w now =>
    cases h
    exact .refl
  | run w tick offered refresh =>
    obtain ⟨report, w', hrun, rfl⟩ := operate_run_eq_ok h
    rw [(run_writes P hrun).2.1]
    exact .recordCommanded .refl tick.now report.speed
  | reconfigure config =>
    cases h
    rw [speed_reconfigure]
    split
    · exact .refl
    · exact .setCapacity .refl config.historyCapacity
  | touchSensor sensor change =>
    cases h
    obtain ⟨sensors, heq⟩ := exists_touchSensor_eq z sensor change
    rw [heq]
    exact .refl
  | touchFan fan change keeps =>
    cases h
    obtain ⟨fans, heq⟩ := exists_touchFan_eq z fan change
    rw [heq]
    exact .refl

/-- Each tick gives one record, which holds the fans that are bound and what was asked of them. -/
theorem operate_records (h : z.operate P op = .ok (records, z')) :
    records.map TickRecord.now = op.time?.toList ∧
      ∀ r ∈ records,
        r.writes.map (fun write => (write.drive, write.speed)) =
            r.fans.map (fun f => (f.drive, r.report.speed)) ∧
          r.report.failedWrites = r.writes.countP (fun write => !write.succeeded) ∧
          ∀ ops, r.fans = z.boundFans (op :: ops) := by
  cases op with
  | run w tick offered refresh =>
    obtain ⟨report, w', hrun, rfl⟩ := operate_run_eq_ok h
    refine ⟨rfl, List.forall_mem_singleton.2 ⟨?_, (run_writes P hrun).2.2.1, ?_⟩⟩
    · have hdrives := congrArg (List.map fun d => (d, report.speed))
        (drives_prepared P z w tick.now offered refresh)
      rw [List.map_map, List.map_map] at hdrives
      exact (map_writesTo P tick.now report.speed _ w).trans hdrives
    · intro ops
      rw [boundFans_cons_of_some rfl]
      rfl
  | load | refresh | reconfigure | touchSensor | touchFan =>
    cases h
    exact ⟨rfl, List.forall_mem_nil _⟩

theorem exists_operate_eq_ok (hc : z.config.Valid) (op : ZoneOperation World Probe Drive) :
    ∃ r, z.operate P op = .ok r := by
  cases op with
  | run w tick offered refresh =>
    obtain ⟨r, hrun, -⟩ := exists_run_eq_ok P.witnessed hc (w, []) tick offered refresh
    exact ⟨_, bind_eq_ok_iff.2 ⟨r, hrun, rfl⟩⟩
  | load | refresh | reconfigure | touchSensor | touchFan => exact ⟨_, rfl⟩

/-- Operations change the configuration to valid ones only. -/
theorem valid_operate (hc : z.config.Valid) {ops : List (ZoneOperation World Probe Drive)}
    (hops : ∀ config, .reconfigure config ∈ op :: ops → config.Valid)
    (h : z.operate P op = .ok (records, z')) : z'.config.Valid := by
  cases op with
  | load | refresh =>
    cases h
    exact hc
  | run w tick offered refresh =>
    obtain ⟨report, w', hrun, -⟩ := operate_run_eq_ok h
    obtain ⟨-, -, -, hconfig⟩ := of_run_eq_ok P hrun
    rwa [hconfig]
  | reconfigure config =>
    cases h
    rw [config_reconfigure]
    exact hops config List.mem_cons_self
  | touchSensor sensor change =>
    cases h
    obtain ⟨sensors, heq⟩ := exists_touchSensor_eq z sensor change
    rwa [heq]
  | touchFan fan change keeps =>
    cases h
    obtain ⟨fans, heq⟩ := exists_touchFan_eq z fan change
    rwa [heq]

/-! ## Runs -/

theorem operateAll_cons_eq_ok {ops : List (ZoneOperation World Probe Drive)}
    (h : z.operateAll P (op :: ops) = .ok (records, z')) :
    ∃ first z₁ rest, z.operate P op = .ok (first, z₁) ∧ z₁.operateAll P ops = .ok (rest, z') ∧
      records = first ++ rest := by
  obtain ⟨⟨first, z₁⟩, hop, h⟩ := bind_eq_ok_iff.1 h
  obtain ⟨⟨rest, z₂⟩, hops, h⟩ := bind_eq_ok_iff.1 h
  cases h
  exact ⟨first, z₁, rest, hop, hops, rfl⟩

/-- What a run of a zone keeps to, from its start to what it leaves. -/
structure Isolated (start : Zone Probe Drive) (ops : List (ZoneOperation World Probe Drive))
    (records : List (TickRecord Drive)) (z : Zone Probe Drive) : Prop where
  /-- There is one record for each tick. -/
  times : records.map TickRecord.now = ops.filterMap ZoneOperation.time?
  /-- The zone's log has one command for each tick. -/
  speed : start.speed.Reaches (records.map TickRecord.sample) z.speed
  /-- Each tick asks every fan once, in order, for the speed that it reports. -/
  writes : ∀ r ∈ records, r.writes.map (fun write => (write.drive, write.speed)) =
    r.fans.map fun f => (f.drive, r.report.speed)
  /-- These are the fans that were bound. -/
  names : ∀ r ∈ records, r.fans.map Fan.name = (start.boundFans ops).map Fan.name
  /-- The count is that of the writes of the tick that failed. -/
  failedWrites : ∀ r ∈ records,
    r.report.failedWrites = r.writes.countP fun write => !write.succeeded
  /-- Each fan's log has the commands of the ticks at which its own write succeeded. -/
  fans : History.ReachBy (commandsOf records) ((start.boundFans ops).map Fan.history)
    (z.fans.map Fan.history)

theorem isolated_of_operateAll {ops : List (ZoneOperation World Probe Drive)}
    (h : z.operateAll P ops = .ok (records, z')) : z.Isolated ops records z' := by
  induction ops generalizing z records with
  | nil =>
    cases h
    refine ⟨rfl, .refl, List.forall_mem_nil _, List.forall_mem_nil _, List.forall_mem_nil _, ?_⟩
    rw [boundFans_nil]
    exact .refl _
  | cons op ops ih =>
    obtain ⟨first, z₁, rest, hop, hops, rfl⟩ := operateAll_cons_eq_ok h
    obtain ⟨htimes, hfirst⟩ := operate_records hop
    have hfans := operate_reachBy hop ops
    have hrest := ih hops
    have hnames : (z₁.boundFans ops).map Fan.name = (z.boundFans (op :: ops)).map Fan.name := by
      have h := hfans.map_name_eq
      rwa [List.map_map, List.map_map] at h
    refine
      { times := ?_
        speed := ?_
        writes := List.forall_mem_append.2 ⟨fun r hr => (hfirst r hr).1, hrest.writes⟩
        names := List.forall_mem_append.2 ⟨?_, ?_⟩
        failedWrites := List.forall_mem_append.2
          ⟨fun r hr => (hfirst r hr).2.1, hrest.failedWrites⟩
        fans := ?_ }
    · rw [List.map_append, htimes, hrest.times, List.filterMap_cons]
      cases op.time? <;> rfl
    · rw [List.map_append]
      exact (operate_speed hop).trans hrest.speed
    · intro r hr
      rw [(hfirst r hr).2.2 ops]
    · intro r hr
      rw [hrest.names r hr, hnames]
    · rw [commandsOf_append]
      exact hfans.trans hrest.fans

theorem exists_operateAll_eq_ok (hc : z.config.Valid)
    {ops : List (ZoneOperation World Probe Drive)}
    (hops : ∀ config, .reconfigure config ∈ ops → config.Valid) :
    ∃ r, z.operateAll P ops = .ok r := by
  induction ops generalizing z with
  | nil => exact ⟨_, rfl⟩
  | cons op ops ih =>
    obtain ⟨⟨records, z₁⟩, hop⟩ := exists_operate_eq_ok (P := P) hc op
    obtain ⟨rest, hrest⟩ :=
      ih (valid_operate hc hops hop) fun config hmem => hops config (.tail _ hmem)
    exact ⟨_, bind_eq_ok_iff.2 ⟨_, hop, bind_eq_ok_iff.2 ⟨rest, hrest, rfl⟩⟩⟩

theorem valid_operateAll (hc : z.config.Valid) {ops : List (ZoneOperation World Probe Drive)}
    (hops : ∀ config, .reconfigure config ∈ ops → config.Valid)
    (h : z.operateAll P ops = .ok (records, z')) : z'.config.Valid := by
  induction ops generalizing z records with
  | nil =>
    cases h
    exact hc
  | cons op ops ih =>
    obtain ⟨first, z₁, rest, hop, hrest, -⟩ := operateAll_cons_eq_ok h
    exact ih (valid_operate hc hops hop) (fun config hmem => hops config (.tail _ hmem)) hrest

theorem create_eq_ok {name : String} {config : Config} (h : Zone.create name config = .ok z) :
    z.config = config ∧ z.speed.commanded = [] := by
  obtain ⟨speed, hspeed, h⟩ := bind_eq_ok_iff.1 h
  cases h
  rw [History.create_eq_ok hspeed]
  exact ⟨rfl, rfl⟩

/-- A new zone and any operations on it, whatever members come with them and whichever writes fail.
The zone's log has one command for each tick; each fan is asked once in each tick, and its log has
those commands whose write to it succeeded; what is stored is the newest part of each log. Under
valid configurations every tick comes to an end. -/
theorem operateAll_isolated {name : String} {config : Config}
    (hcreate : Zone.create name config = .ok z) (ops : List (ZoneOperation World Probe Drive)) :
    (config.validate = .ok () →
      (∀ later, .reconfigure later ∈ ops → later.validate = .ok ()) →
        ∃ records z', z.operateAll P ops = .ok (records, z')) ∧
    ∀ records z', z.operateAll P ops = .ok (records, z') →
      z.Isolated ops records z' ∧
      Holds (records.map TickRecord.sample) z'.speed.commanded ∧
      ∀ i f f', (z.boundFans ops)[i]? = some f → z'.fans[i]? = some f' →
        Holds (f.history.commanded ++ commandsOf records i) f'.history.commanded := by
  obtain ⟨hconfig, hempty⟩ := create_eq_ok hcreate
  refine ⟨?_, ?_⟩
  · intro hvalid hops
    rw [Config.validate_eq_ok_iff, ← hconfig] at hvalid
    obtain ⟨⟨records, z'⟩, h⟩ := exists_operateAll_eq_ok (P := P) hvalid
      fun later hlater => Config.validate_eq_ok_iff.1 (hops later hlater)
    exact ⟨records, z', h⟩
  · intro records z' h
    have hisolated := isolated_of_operateAll h
    have hspeed := hisolated.speed.holds
    rw [hempty, List.nil_append] at hspeed
    refine ⟨hisolated, hspeed, ?_⟩
    intro i f f' hf hf'
    have hreaches := hisolated.fans.reaches i f.history f'.history
      (by rw [List.getElem?_map, hf]; rfl) (by rw [List.getElem?_map, hf']; rfl)
    exact hreaches.holds

end Changes

end Zone

end Runs

/-- Three ticks of two fans, where the write to the second fan fails at the second tick. -/
theorem Zone.operateAll_isolated_of_flaky_fan :
    let limits : Limits := ⟨some (ofNat 95), some (ofNat 100), some (ofNat 70)⟩
    let world (failing : Bool) : Machine :=
      { Machine.blank with
        bench :=
          ⟨[⟨"cpu", some (ofNat 80), limits⟩],
            [⟨"fan1", some (ofNat 50), [], false⟩, ⟨"fan2", some (ofNat 40), [], failing⟩]⟩ }
    let members : Members Probe Drive :=
      ⟨[⟨.simulated 0 "fan1", .empty "fan1" 10⟩, ⟨.simulated 1 "fan2", .empty "fan2" 3⟩],
        [⟨.simulated 0 "cpu", .empty "cpu" 10, false⟩]⟩
    let minute : Duration := ⟨60000000000, by decide⟩
    let tick (seconds : Nat) (failing : Bool) : ZoneOperation Machine Probe Drive :=
      .run (world failing) ⟨ofNat seconds, minute⟩ none true
    let ops := [.load members, tick 0 false, tick 60 true, tick 120 false]
    ∃ (z z' : Zone Probe Drive) (records : List (TickRecord Drive)),
      Zone.create "System" .default = .ok z ∧
      z.operateAll Machine.platform ops = .ok (records, z') ∧
      records.map (fun r => r.report.failedWrites) = [0, 1, 0] ∧
      (commandsOf records 0).map Sample.timestamp = [ofNat 0, ofNat 60, ofNat 120] ∧
      (commandsOf records 1).map Sample.timestamp = [ofNat 0, ofNat 120] ∧
      z.Isolated ops records z' ∧
      Holds (records.map TickRecord.sample) z'.speed.commanded ∧
      ∀ i f f', (z.boundFans ops)[i]? = some f → z'.fans[i]? = some f' →
        Holds (f.history.commanded ++ commandsOf records i) f'.history.commanded := by
  intro limits world members minute tick ops
  obtain ⟨z, hcreate, hrecords⟩ : ∃ z : Zone Probe Drive,
      Zone.create "System" .default = .ok z ∧
        ((z.operateAll Machine.platform ops).toOption.map fun r =>
          (r.1.map fun record => record.report.failedWrites,
            (commandsOf r.1 0).map Sample.timestamp, (commandsOf r.1 1).map Sample.timestamp)) =
          some ([0, 1, 0], [ofNat 0, ofNat 60, ofNat 120], [ofNat 0, ofNat 120]) :=
    ⟨_, rfl, by decide +kernel⟩
  obtain ⟨hends, hkeeps⟩ := operateAll_isolated (P := Machine.platform) hcreate ops
  have hconfigs : ∀ later, .reconfigure later ∈ ops → later.validate = .ok () := by
    intro later hlater
    simp [ops, tick] at hlater
  obtain ⟨records, z', h⟩ := hends Config.validate_default hconfigs
  rw [h] at hrecords
  obtain ⟨hfailed, hlogs⟩ := Prod.mk.inj (Option.some.inj hrecords)
  obtain ⟨hfirst, hsecond⟩ := Prod.mk.inj hlogs
  exact ⟨z, z', records, hcreate, h, hfailed, hfirst, hsecond, hkeeps records z' h⟩

end ChassisCooling
