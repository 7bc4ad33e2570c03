import ChassisCooling.Proofs.Control.Reachable
import ChassisCooling.Proofs.Control.Writes
import ChassisCooling.Proofs.Pointwise

/-!
# Books that forget nothing

Histories drop their oldest samples. A ledger is kept beside them in which every sample stays: what
the members held when they were bound, what each tick records, and what is recorded from elsewhere.
The entries of a tick follow from what its probes and drives show and from which of its writes
succeed, not from what the histories do with them.

* `Account`, `Ledger`: all samples of one object, and of all members of a zone.
* `Zone.entries`: what a tick records.
* `Event.booked`, `books`: the ledger after an event, and after a run.
* `System.step_booked`: the histories hold the newest part of the ledger.
-/

namespace ChassisCooling

variable {World Probe Drive Outlet : Type} {P : Platform World Probe Drive Outlet}

/-! ## Accounts -/

/-- All samples of one object, oldest first. -/
structure Account where
  name : String
  measured : List Sample
  commanded : List Sample

namespace Account

/-- An account that begins with what a history holds. -/
def ofHistory (h : History) : Account := ⟨h.name, h.measured, h.commanded⟩

/-- The account with the samples of another one after its own. -/
def enter (a entries : Account) : Account where
  name := a.name
  measured := a.measured ++ entries.measured
  commanded := a.commanded ++ entries.commanded

/-- The newest sample of each stream, as rows. -/
def newestRows (a : Account) : List Export.Row :=
  (a.measured.getLast?.map (Export.Row.ofSample a.name .measured)).toList ++
    (a.commanded.getLast?.map (Export.Row.ofSample a.name .commanded)).toList

/-- The history is that of the object and holds the newest part of the account. -/
structure Covers (a : Account) (h : History) : Prop where
  name : a.name = h.name
  measured : Holds a.measured h.measured
  commanded : Holds a.commanded h.commanded

namespace Covers

variable {a : Account} {h : History}

theorem ofHistory (h : History) : (Account.ofHistory h).Covers h := ⟨rfl, .refl _, .refl _⟩

theorem setCapacity (ha : a.Covers h) (capacity : Nat) : a.Covers (h.setCapacity capacity) :=
  have hmin : minHistoryCapacity ≤ History.allowedCapacity capacity := Nat.le_max_right ..
  ⟨ha.name, ha.measured.keepNewest hmin, ha.commanded.keepNewest hmin⟩

theorem recordMeasured (ha : a.Covers h) (now : Timestamp) (value : Single) :
    Covers { a with measured := a.measured ++ [⟨now, value⟩] } (h.recordMeasured now value) :=
  ⟨ha.name, ha.measured.concat h.min_le_capacity _, ha.commanded⟩

theorem recordCommanded (ha : a.Covers h) (now : Timestamp) (value : Single) :
    Covers { a with commanded := a.commanded ++ [⟨now, value⟩] } (h.recordCommanded now value) :=
  ⟨ha.name, ha.measured, ha.commanded.concat h.min_le_capacity _⟩

/-- The newest samples are not forgotten. -/
theorem newestRows_eq (ha : a.Covers h) : Export.newestRows h = a.newestRows := by
  unfold Export.newestRows newestRows History.lastMeasuredSample History.lastCommandedSample
  rw [ha.name, ha.measured.getLast?_eq, ha.commanded.getLast?_eq]

end Covers

end Account

/-- The accounts of the fans and of the sensors of a zone, in the order in which they are bound. -/
structure Ledger where
  fans : List Account
  sensors : List Account

namespace Ledger

def ofMembers (m : Members Probe Drive) : Ledger :=
  ⟨m.fans.map fun f => .ofHistory f.history, m.sensors.map fun s => .ofHistory s.history⟩

def enter (l entries : Ledger) : Ledger :=
  ⟨List.zipWith Account.enter l.fans entries.fans,
    List.zipWith Account.enter l.sensors entries.sensors⟩

/-- One more temperature for the first sensor of a name. -/
def recordTemperature (l : Ledger) (sensor : String) (s : Sample) : Ledger :=
  { l with
    sensors := Zone.touchFirst (fun a => a.name == sensor)
      (fun a => { a with measured := a.measured ++ [s] }) l.sensors }

/-- One more speed for the first fan of a name. -/
def recordSpeed (l : Ledger) (fan : String) (s : Sample) : Ledger :=
  { l with
    fans := Zone.touchFirst (fun a => a.name == fan)
      (fun a => { a with measured := a.measured ++ [s] }) l.fans }

/-- All accounts, the fans first. -/
def accounts (l : Ledger) : List Account := l.fans ++ l.sensors

/-- The newest samples of every fan, then of every sensor. -/
def newestRows (l : Ledger) : List Export.Row := l.accounts.flatMap Account.newestRows

/-- Every history holds the newest part of the account in its place. -/
structure Covers (l : Ledger) (m : Members Probe Drive) : Prop where
  fans : List.Forall₂ (fun a f => Account.Covers a (Fan.history f)) l.fans m.fans
  sensors : List.Forall₂ (fun a s => Account.Covers a (Sensor.history s)) l.sensors m.sensors

namespace Covers

variable {l : Ledger} {m : Members Probe Drive}

theorem ofMembers (m : Members Probe Drive) : (Ledger.ofMembers m).Covers m :=
  ⟨List.forall₂_map_left_iff.2 (List.forall₂_same.2 fun f _ => .ofHistory f.history),
    List.forall₂_map_left_iff.2 (List.forall₂_same.2 fun s _ => .ofHistory s.history)⟩

theorem setCapacity (h : l.Covers m) (capacity : Nat) : l.Covers (m.setCapacity capacity) :=
  ⟨List.forall₂_map_right_iff.2 (h.fans.imp fun _ _ ha => ha.setCapacity capacity),
    List.forall₂_map_right_iff.2 (h.sensors.imp fun _ _ ha => ha.setCapacity capacity)⟩

theorem histories (h : l.Covers m) : List.Forall₂ Account.Covers l.accounts m.histories :=
  List.rel_append (List.forall₂_map_right_iff.2 h.fans) (List.forall₂_map_right_iff.2 h.sensors)

end Covers

end Ledger

/-! ## The entries of a tick -/

/-- The sample that a reading leaves, if there is one. -/
def samplesAt (now : Timestamp) (reading : Option Single) : List Sample :=
  reading.toList.map (Sample.mk now)

variable (P) in
/-- What a tick that reports a speed records: the readings, if it reads, and the commands whose
writes succeeded. -/
def Zone.entries (z : Zone Probe Drive) (w : World) (now : Timestamp)
    (offered : Option (Members Probe Drive)) (refresh : Bool) (speed : Single) : Ledger :=
  let bound := z.load (offered.getD .empty)
  let writes := z.writesOf P w now offered refresh speed
  { fans := List.zipWith (fun f write =>
      { name := f.name
        measured := if refresh then samplesAt now (Fan.read? P f.drive w) else []
        commanded := if write.succeeded then [⟨now, speed⟩] else [] }) bound.fans writes
    sensors := bound.sensors.map fun s =>
      { name := s.name
        measured := if refresh then samplesAt now (Sensor.read? P s.probe w) else []
        commanded := [] } }

namespace Account.Covers

variable {a : Account}

/-- A reading is entered and recorded, or neither. -/
theorem refreshFan {f : Fan Drive} (ha : a.Covers f.history) (w : World) (now : Timestamp)
    (refresh : Bool) :
    Covers
      { a with
        measured := a.measured ++ if refresh then samplesAt now (Fan.read? P f.drive w) else [] }
      (if refresh then f.refresh P w now else f).history := by
  cases refresh with
  | false => simpa using ha
  | true =>
    rw [if_pos rfl, Fan.refresh_eq]
    cases Fan.read? P f.drive w with
    | none => simpa [samplesAt] using ha
    | some speed => exact ha.recordMeasured now speed

theorem refreshSensor {s : Sensor Probe} (ha : a.Covers s.history) (w : World) (now : Timestamp)
    (refresh : Bool) :
    Covers
      { a with
        measured := a.measured ++ if refresh then samplesAt now (Sensor.read? P s.probe w) else [] }
      (if refresh then s.refresh P w now else s).history := by
  cases refresh with
  | false => simpa using ha
  | true =>
    rw [if_pos rfl, Sensor.refresh_eq]
    cases Sensor.read? P s.probe w with
    | none => simpa [samplesAt] using ha
    | some value => exact ha.recordMeasured now value

/-- A command is entered and recorded, or neither. -/
theorem command {h : History} (ha : a.Covers h) (now : Timestamp) (speed : Single)
    (succeeded : Bool) :
    Covers
      { a with commanded := a.commanded ++ if succeeded then [⟨now, speed⟩] else [] }
      (if succeeded then h.recordCommanded now speed else h) := by
  cases succeeded with
  | false => simpa using ha
  | true => exact ha.recordCommanded now speed

end Account.Covers

namespace Zone

theorem fans_prepared (z : Zone Probe Drive) (w : World) (now : Timestamp)
    (offered : Option (Members Probe Drive)) (refresh : Bool) :
    (z.prepared P w now offered refresh).fans =
      (z.load (offered.getD .empty)).fans.map fun f =>
        if refresh then f.refresh P w now else f := by
  unfold prepared
  cases refresh with
  | false => simp
  | true => exact fans_refresh P _ w now

theorem sensors_prepared (z : Zone Probe Drive) (w : World) (now : Timestamp)
    (offered : Option (Members Probe Drive)) (refresh : Bool) :
    (z.prepared P w now offered refresh).sensors =
      (z.load (offered.getD .empty)).sensors.map fun s =>
        if refresh then s.refresh P w now else s := by
  unfold prepared
  cases refresh with
  | false => simp
  | true => exact sensors_refresh P _ w now

variable {z z' : Zone Probe Drive} {w w' : World} {tick : Tick}
  {offered : Option (Members Probe Drive)} {refresh : Bool} {report : ZoneReport}

/-- A tick leaves members behind, and its sensors as they were at the decision. -/
theorem members_of_run (h : z.run P w tick offered refresh = .ok (report, z', w')) :
    z'.members = some ⟨z'.fans, (z.prepared P w tick.now offered refresh).sensors⟩ := by
  obtain ⟨last, hconclude, -, -⟩ := of_run_eq_ok P h
  obtain ⟨-, hrest⟩ := Prod.mk.inj hconclude
  obtain ⟨rfl, -⟩ := Prod.mk.inj hrest
  rfl

theorem forall₂_covers_fans {accounts : List Account} {fans : List (Fan Drive)}
    (h : List.Forall₂ (fun a f => Account.Covers a (Fan.history f)) accounts fans) (w : World)
    (now : Timestamp) (refresh : Bool) (speed : Single) {writes : List (Write Drive)}
    (hlength : writes.length = fans.length) :
    List.Forall₂ Account.Covers
      (List.zipWith Account.enter accounts
        (List.zipWith (fun f write =>
          { name := f.name
            measured := if refresh then samplesAt now (Fan.read? P f.drive w) else []
            commanded := if write.succeeded then [⟨now, speed⟩] else [] }) fans writes))
      (List.zipWith (fun h write => if write.succeeded then h.recordCommanded now speed else h)
        ((fans.map fun f => if refresh then f.refresh P w now else f).map Fan.history)
        writes) := by
  induction h generalizing writes with
  | nil => exact .nil
  | cons ha _ ih =>
    obtain ⟨write, writes, rfl⟩ := List.exists_cons_of_length_eq_add_one hlength
    refine .cons ?_ (ih (Nat.succ.inj hlength))
    exact (ha.refreshFan w now refresh).command now speed write.succeeded

theorem forall₂_covers_sensors {accounts : List Account} {sensors : List (Sensor Probe)}
    (h : List.Forall₂ (fun a s => Account.Covers a (Sensor.history s)) accounts sensors) (w : World)
    (now : Timestamp) (refresh : Bool) :
    List.Forall₂ (fun a s => Account.Covers a (Sensor.history s))
      (List.zipWith Account.enter accounts (sensors.map fun s =>
        { name := s.name
          measured := if refresh then samplesAt now (Sensor.read? P s.probe w) else []
          commanded := [] }))
      (sensors.map fun s => if refresh then s.refresh P w now else s) := by
  induction h with
  | nil => exact .nil
  | @cons a s _ _ ha _ ih =>
    refine .cons ?_ ih
    show Account.Covers ⟨a.name, _, a.commanded ++ []⟩ _
    rw [List.append_nil]
    exact ha.refreshSensor w now refresh

variable (P) in
theorem length_writesOf (z : Zone Probe Drive) (w : World) (now : Timestamp)
    (offered : Option (Members Probe Drive)) (refresh : Bool) (speed : Single) :
    (z.writesOf P w now offered refresh speed).length =
      (z.load (offered.getD .empty)).fans.length := by
  unfold writesOf
  rw [length_writesTo, fans_prepared, List.length_map]

/-- What a tick records is what is entered for it. -/
theorem covers_of_run {l : Ledger} {bound : Members Probe Drive}
    (hbound : (z.load (offered.getD .empty)).members = some bound) (hl : l.Covers bound)
    (h : z.run P w tick offered refresh = .ok (report, z', w')) :
    ∃ m, z'.members = some m ∧
      (l.enter (z.entries P w tick.now offered refresh report.speed)).Covers m := by
  obtain ⟨-, -, -, hhistories⟩ := run_writes P h
  obtain rfl : (z.load (offered.getD .empty)).members.getD .empty = bound := by
    rw [hbound]
    rfl
  refine ⟨_, members_of_run h, ?_, ?_⟩
  · rw [← List.forall₂_map_right_iff, hhistories, fans_prepared]
    exact forall₂_covers_fans hl.fans w tick.now refresh report.speed (length_writesOf ..)
  · rw [sensors_prepared]
    exact forall₂_covers_sensors hl.sensors w tick.now refresh

end Zone

/-! ## Events and runs -/

variable (P) in
/-- What an event records at a tick. -/
def Event.entries (e : Event World Probe Drive Outlet) : Ledger :=
  match e.operation, e.outcome with
  | .tick now options, .ticked report =>
    let zone := e.before.controller.zone
    zone.entries P e.before.world now (options.members.lookup zone.name) options.refresh
      report.zone.speed
  | _, _ => ⟨[], []⟩

variable (P) in
/-- The ledger after an event; there is none until members are bound. -/
def Event.booked (e : Event World Probe Drive Outlet) (l : Option Ledger) : Option Ledger :=
  let zone := e.before.controller.zone
  match e.operation with
  | .tick _ options =>
    let offered := (options.members.lookup zone.name).getD .empty
    some ((l.getD (.ofMembers offered)).enter (e.entries P))
  | .load name members => if name = zone.name then l.or (some (.ofMembers members)) else l
  | .recordTemperature sensor now value => l.map fun l => l.recordTemperature sensor ⟨now, value⟩
  | .recordSpeed fan now value => l.map fun l => l.recordSpeed fan ⟨now, value⟩
  | .change _ | .reconfigure _ | .withOutlet _ => l

variable (P) in
/-- The ledger after the events of a run. -/
def books (events : List (Event World Probe Drive Outlet)) : Option Ledger :=
  events.foldl (fun l e => e.booked P l) none

namespace Zone

theorem touchFirst_cons {α : Type} (p : α → Bool) (change : α → α) (x : α) (xs : List α) :
    touchFirst p change (x :: xs) =
      if p x then change x :: xs else x :: touchFirst p change xs := by
  unfold touchFirst
  rw [changeFirst]
  cases p x with
  | true => rfl
  | false => cases changeFirst p (fun x => ((), change x)) xs <;> rfl

/-- The first account of a name is that of the first member of the name. -/
theorem forall₂_covers_touchFirst {α : Type} {history : α → History} {accounts : List Account}
    {xs : List α} (h : List.Forall₂ (fun a x => Account.Covers a (history x)) accounts xs)
    (name : String) {change : Account → Account} {change' : α → α}
    (hchange : ∀ a x, Account.Covers a (history x) → (change a).Covers (history (change' x))) :
    List.Forall₂ (fun a x => Account.Covers a (history x))
      (touchFirst (fun a => a.name == name) change accounts)
      (touchFirst (fun x => (history x).name == name) change' xs) := by
  induction h with
  | nil => exact .nil
  | @cons a x _ _ ha hrest ih =>
    rw [touchFirst_cons, touchFirst_cons, ha.name]
    split
    · exact .cons (hchange a x ha) hrest
    · exact .cons ha ih

end Zone

namespace System

variable {s s' : System World Probe Drive Outlet} {op : Operation World Probe Drive Outlet}
  {outcome : Outcome} {log : Log Drive Outlet} {l : Option Ledger}

/-- There is a ledger if members are bound, and it covers them. -/
def Booked (l : Option Ledger) (s : System World Probe Drive Outlet) : Prop :=
  Option.Rel Ledger.Covers l s.controller.zone.members

theorem Booked.exists_members {l : Ledger} (h : s.Booked (some l)) :
    ∃ m, s.controller.zone.members = some m ∧ l.Covers m := by
  unfold Booked at h
  generalize s.controller.zone.members = members at h
  cases h with
  | some hl => exact ⟨_, rfl, hl⟩

/-- Binding opens a ledger, unless there is one. -/
theorem covers_load {z : Zone Probe Drive} (h : Option.Rel Ledger.Covers l z.members)
    (m : Members Probe Drive) :
    ∃ bound, (z.load m).members = some bound ∧ (l.getD (.ofMembers m)).Covers bound := by
  unfold Zone.load
  generalize z.members = members at h
  cases h with
  | none => exact ⟨m, rfl, .ofMembers m⟩
  | some hl => exact ⟨_, rfl, hl⟩

theorem step_tick_booked {now : Timestamp} {options : TickOptions Probe Drive}
    (hs : s.Booked l) (h : s.step P (.tick now options) = .ok (outcome, s', log)) :
    s'.Booked (Event.booked P ⟨.tick now options, s, outcome, log, s'⟩ l) := by
  obtain ⟨report, rfl, htick⟩ := exists_tick_of_step h
  rw [Controller.tick_eq] at htick
  obtain ⟨⟨zoneReport, z', w''⟩, hrun, hconclude⟩ := map_eq_ok_iff.1 htick
  obtain ⟨rfl, hrest⟩ := Prod.mk.inj hconclude
  obtain ⟨hcontroller, -⟩ := Prod.mk.inj hrest
  obtain ⟨bound, hbound, hl⟩ :=
    covers_load hs ((options.members.lookup s.controller.zone.name).getD .empty)
  obtain ⟨m, hm, hcovers⟩ := Zone.covers_of_run hbound hl hrun
  unfold Booked
  rw [← hcontroller, hm]
  exact .some hcovers

/-- By cases on the operation: what it records is what is entered for it. -/
theorem step_booked (hs : s.Booked l) (h : s.step P op = .ok (outcome, s', log)) :
    s'.Booked (Event.booked P ⟨op, s, outcome, log, s'⟩ l) := by
  cases op with
  | tick now options => exact step_tick_booked hs h
  | change world =>
    cases h
    exact hs
  | load name members =>
    rw [step_load] at h
    cases h
    show Option.Rel Ledger.Covers (if name = s.controller.zone.name then _ else l)
      (s.controller.load name members).2.zone.members
    unfold Controller.load
    split
    · obtain ⟨bound, hbound, hl⟩ := covers_load hs members
      show Option.Rel Ledger.Covers _ (s.controller.zone.load members).members
      rw [hbound, Option.or_some]
      exact .some hl
    · exact hs
  | reconfigure config =>
    rw [step_reconfigure] at h
    cases hvalid : config.validate with
    | error e =>
      rw [hvalid] at h
      cases h
      exact hs
    | ok u =>
      rw [hvalid] at h
      cases h
      show Option.Rel Ledger.Covers l (s.controller.zone.reconfigure config).members
      unfold Zone.reconfigure
      split
      · exact hs
      · have hcapacity := rel_map_of_rel (f := id) hs
          fun _ _ (hl : Ledger.Covers _ _) => hl.setCapacity config.historyCapacity
        rwa [Option.map_id] at hcapacity
  | withOutlet outlet =>
    cases h
    exact hs
  | recordTemperature sensor now value =>
    cases h
    show Option.Rel Ledger.Covers _ (s.controller.recordTemperature sensor now value).2.zone.members
    rw [Controller.recordTemperature_eq, Zone.touchSensor_eq]
    refine rel_map_of_rel hs fun l m hl => ⟨hl.fans, ?_⟩
    exact Zone.forall₂_covers_touchFirst hl.sensors sensor
      fun _ _ ha => ha.recordMeasured now value
  | recordSpeed fan now value =>
    cases h
    show Option.Rel Ledger.Covers _ (s.controller.recordSpeed fan now value).2.zone.members
    rw [Controller.recordSpeed_eq, Zone.touchFan_eq]
    refine rel_map_of_rel hs fun l m hl => ⟨?_, hl.sensors⟩
    exact Zone.forall₂_covers_touchFirst hl.fans fan fun _ _ ha => ha.recordMeasured now value

end System

end ChassisCooling
