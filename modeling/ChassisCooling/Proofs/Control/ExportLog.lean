import ChassisCooling.Machine.Basic
import ChassisCooling.Proofs.Control.Ledger
import ChassisCooling.Proofs.Control.Routing
import ChassisCooling.Proofs.Lookup

/-!
# Exports lose no sample

A tick records one sample for each stream of an object at most, and hands out the newest ones right
after that. So a sample has been handed out before any later one can push it out of its history, and
what was handed out over time is all that was ever recorded, however little the histories hold.

* `Zone.exportRows_eq`: the rows of a zone are those of its ledger.
* `Event.Exports`: a tick hands out a sample of its own time.
* `System.exports_lose_nothing`: the main result.
-/

namespace ChassisCooling

open Binary

section Exports

variable {World Probe Drive Outlet : Type} {P : Platform World Probe Drive Outlet}

/-! ## Rows -/

namespace Account

/-- The samples of one stream. -/
def samples (a : Account) : Stream → List Sample
  | .measured => a.measured
  | .commanded => a.commanded

theorem samples_enter (a entries : Account) (stream : Stream) :
    (a.enter entries).samples stream = a.samples stream ++ entries.samples stream := by
  cases stream <;> rfl

theorem mem_newestRows_iff {a : Account} {r : Export.Row} :
    r ∈ a.newestRows ↔
      ∃ stream x, (a.samples stream).getLast? = some x ∧ r = .ofSample a.name stream x := by
  unfold newestRows
  simp only [List.mem_append, Option.mem_toList, Option.map_eq_some_iff]
  constructor
  · rintro (⟨x, hx, rfl⟩ | ⟨x, hx, rfl⟩)
    · exact ⟨.measured, x, hx, rfl⟩
    · exact ⟨.commanded, x, hx, rfl⟩
  · rintro ⟨stream, x, hx, rfl⟩
    cases stream with
    | measured => exact .inl ⟨x, hx, rfl⟩
    | commanded => exact .inr ⟨x, hx, rfl⟩

/-- At most one row for each stream. -/
theorem pairwise_newestRows (a : Account) :
    a.newestRows.Pairwise fun r r' => (r.object, r.stream) ≠ (r'.object, r'.stream) := by
  unfold newestRows
  cases a.measured.getLast? <;> cases a.commanded.getLast? <;>
    simp [Export.Row.ofSample]

end Account

namespace Ledger

/-- At most one row for each object and stream, if no two objects have one name. -/
theorem nodup_newestRows {l : Ledger} (h : (l.accounts.map Account.name).Nodup) :
    (l.newestRows.map fun r => (r.object, r.stream)).Nodup := by
  unfold newestRows List.Nodup at *
  rw [List.pairwise_map] at h ⊢
  rw [List.pairwise_flatMap]
  refine ⟨fun a _ => a.pairwise_newestRows, h.imp fun {a b} hne r hr r' hr' heq => hne ?_⟩
  obtain ⟨stream, x, -, rfl⟩ := Account.mem_newestRows_iff.1 hr
  obtain ⟨stream', x', -, rfl⟩ := Account.mem_newestRows_iff.1 hr'
  exact (Prod.mk.inj heq).1

end Ledger

/-- The rows of a zone are those of its ledger. -/
theorem Zone.exportRows_eq {z : Zone Probe Drive} {l : Ledger} {m : Members Probe Drive}
    (hm : z.members = some m) (h : l.Covers m) : z.exportRows = l.newestRows := by
  have hrows := map_eq_map_of_forall₂ h.histories fun _ _ ha => ha.newestRows_eq.symm
  unfold Zone.exportRows Ledger.newestRows
  rw [hm, List.flatMap_def, List.flatMap_def, hrows]
  rfl

/-! ## What a tick records -/

/-- The samples of an account were all recorded at one time, and no stream has two of them. -/
def Account.RecordedAt (now : Timestamp) (a : Account) : Prop :=
  ∀ stream, a.samples stream = [] ∨ ∃ value, a.samples stream = [⟨now, value⟩]

/-- The entries of two ledgers are for the same objects in the same order. -/
structure Ledger.Aligned (l entries : Ledger) : Prop where
  fans : List.Forall₂ (fun a b => Account.name a = Account.name b) l.fans entries.fans
  sensors : List.Forall₂ (fun a b => Account.name a = Account.name b) l.sensors entries.sensors

namespace Ledger.Aligned

variable {l entries : Ledger}

theorem accounts (h : l.Aligned entries) :
    List.Forall₂ (fun a b => Account.name a = Account.name b) l.accounts entries.accounts :=
  List.rel_append h.fans h.sensors

theorem accounts_enter (h : l.Aligned entries) :
    (l.enter entries).accounts = List.zipWith Account.enter l.accounts entries.accounts :=
  (List.zipWith_append h.fans.length_eq).symm

/-- Every entry is found at the end of an account of its name. -/
theorem exists_enter (h : l.Aligned entries) {b : Account} (hb : b ∈ entries.accounts) :
    ∃ a ∈ l.accounts, a.name = b.name ∧ a.enter b ∈ (l.enter entries).accounts := by
  rw [h.accounts_enter]
  exact exists_mem_zipWith h.accounts hb

/-- Every account is an earlier one with an entry of its name at the end. -/
theorem of_mem_enter (h : l.Aligned entries) {a : Account}
    (ha : a ∈ (l.enter entries).accounts) :
    ∃ b ∈ l.accounts, ∃ c ∈ entries.accounts, b.name = c.name ∧ a = b.enter c := by
  rw [h.accounts_enter] at ha
  exact of_mem_zipWith h.accounts ha

end Ledger.Aligned

namespace Zone

variable {z : Zone Probe Drive} {w : World} {now : Timestamp}
  {offered : Option (Members Probe Drive)} {refresh : Bool} {speed : Single}

/-- A reading leaves one sample at most. -/
theorem samplesAt_eq (now : Timestamp) (refresh : Bool) (reading : Option Single) :
    (if refresh then samplesAt now reading else []) = [] ∨
      ∃ value, (if refresh then samplesAt now reading else []) = [⟨now, value⟩] := by
  cases refresh with
  | false => exact .inl rfl
  | true =>
    cases reading with
    | none => exact .inl rfl
    | some value => exact .inr ⟨value, rfl⟩

/-- A tick records at most one sample for each stream of an object. -/
theorem recordedAt_entries {a : Account}
    (ha : a ∈ (z.entries P w now offered refresh speed).accounts) : a.RecordedAt now := by
  rcases List.mem_append.1 ha with ha | ha
  · obtain ⟨i, hi⟩ := List.mem_iff_getElem?.1 ha
    obtain ⟨f, write, -, -, rfl⟩ := List.getElem?_zipWith_eq_some.1 hi
    intro stream
    cases stream with
    | measured => exact samplesAt_eq now refresh _
    | commanded =>
      show (if write.succeeded then _ else _) = _ ∨ ∃ value, (if write.succeeded then _ else _) = _
      cases write.succeeded with
      | false => exact .inl rfl
      | true => exact .inr ⟨speed, rfl⟩
  · obtain ⟨s, -, rfl⟩ := List.mem_map.1 ha
    intro stream
    cases stream with
    | measured => exact samplesAt_eq now refresh _
    | commanded => exact .inl rfl

theorem aligned_entries {l : Ledger} {bound : Members Probe Drive}
    (hbound : (z.load (offered.getD .empty)).members = some bound) (hl : l.Covers bound) :
    l.Aligned (z.entries P w now offered refresh speed) := by
  obtain rfl : (z.load (offered.getD .empty)).members.getD .empty = bound := by
    rw [hbound]
    rfl
  exact ⟨forall₂_zipWith_right hl.fans (length_writesOf ..) fun _ _ _ ha => ha.name,
    List.forall₂_map_right_iff.2 (hl.sensors.imp fun _ _ ha => ha.name)⟩

end Zone

namespace Ledger.Aligned

variable {l entries : Ledger} {now : Timestamp}

/-- What was just recorded is the newest of its stream. -/
theorem ofSample_mem_newestRows (h : l.Aligned entries) {a : Account} (ha : a ∈ entries.accounts)
    (hnow : a.RecordedAt now) {stream : Stream} {x : Sample} (hx : x ∈ a.samples stream) :
    x.timestamp = now ∧
      Export.Row.ofSample a.name stream x ∈ (l.enter entries).newestRows := by
  obtain ⟨b, -, hname, hmem⟩ := h.exists_enter ha
  rcases hnow stream with hnone | ⟨value, hone⟩
  · rw [hnone] at hx
    cases hx
  · rw [hone, List.mem_singleton] at hx
    subst hx
    refine ⟨rfl, List.mem_flatMap.2 ⟨b.enter a, hmem, ?_⟩⟩
    have hlast : ((b.enter a).samples stream).getLast? = some ⟨now, value⟩ := by
      rw [Account.samples_enter, hone, List.getLast?_concat]
    exact Account.mem_newestRows_iff.2 ⟨stream, _, hlast, by rw [← hname]; rfl⟩

end Ledger.Aligned

/-! ## Events -/

/-- A tick that hands out a sample of its own time. -/
def Event.Exports (e : Event World Probe Drive Outlet) (name : String) (stream : Stream)
    (x : Sample) : Prop :=
  (∃ options, e.operation = .tick x.timestamp options) ∧
    ∃ d ∈ e.log.deliveries, Export.Row.ofSample name stream x ∈ d.rows

namespace System

variable {s s' : System World Probe Drive Outlet} {outcome : Outcome} {log : Log Drive Outlet}
  {l : Option Ledger}

/-- A tick enters what it records after what is in the ledger, or in the members that it binds. -/
theorem aligned_of_step_tick {now : Timestamp} {options : TickOptions Probe Drive}
    (hs : s.Booked l) (h : s.step P (.tick now options) = .ok (outcome, s', log)) :
    (l.getD (.ofMembers ((options.members.lookup s.controller.zone.name).getD .empty))).Aligned
        (Event.entries P ⟨.tick now options, s, outcome, log, s'⟩) ∧
      ∀ a ∈ (Event.entries P ⟨.tick now options, s, outcome, log, s'⟩).accounts,
        a.RecordedAt now := by
  obtain ⟨bound, hbound, hl⟩ :=
    covers_load hs ((options.members.lookup s.controller.zone.name).getD .empty)
  obtain ⟨⟨report, c', w', log'⟩, -, h⟩ := bind_eq_ok_iff.1 h
  cases h
  exact ⟨Zone.aligned_entries hbound hl, fun _ => Zone.recordedAt_entries⟩

/-- Every event of a run is a step from something that the ledger so far covers. -/
theorem run_booked {ops : List (Operation World Probe Drive Outlet)}
    {events : List (Event World Probe Drive Outlet)} (hs : s.Booked l)
    (h : s.run P ops = .ok events) {i : Nat} {e : Event World Probe Drive Outlet}
    (he : events[i]? = some e) :
    e.before.Booked ((events.take i).foldl (fun l e => e.booked P l) l) ∧
      e.before.step P e.operation = .ok (e.outcome, e.after, e.log) := by
  induction ops generalizing s l events i with
  | nil =>
    cases h
    cases he
  | cons op ops ih =>
    obtain ⟨outcome, s', log, later, hstep, hlater, rfl⟩ := run_cons_eq_ok_iff.1 h
    cases i with
    | zero =>
      cases he
      exact ⟨hs, hstep⟩
    | succ i => exact ih (step_booked hs hstep) hlater he

end System

theorem books_take_succ {events : List (Event World Probe Drive Outlet)} {i : Nat}
    {e : Event World Probe Drive Outlet} (he : events[i]? = some e) :
    books P (events.take (i + 1)) = e.booked P (books P (events.take i)) := by
  unfold books
  rw [List.take_add_one, he, List.foldl_append]
  rfl

namespace Event

variable {e : Event World Probe Drive Outlet} {l : Option Ledger} {now : Timestamp}
  {options : TickOptions Probe Drive}

/-- A tick that hands out the rows of its zone hands out the newest samples of the ledger, and what
it records is among them. -/
theorem exports_entries (hbooked : e.before.Booked l)
    (hstep : e.before.step P e.operation = .ok (e.outcome, e.after, e.log))
    (hop : e.operation = .tick now options) {d : Destination Outlet} {zone : String}
    (hdeliveries : e.log.deliveries = [⟨d, zone, e.after.controller.zone.exportRows⟩]) :
    ∃ l', e.booked P l = some l' ∧ e.log.deliveries = [⟨d, zone, l'.newestRows⟩] ∧
      ∀ a ∈ (e.entries P).accounts, ∀ stream, ∀ x ∈ a.samples stream,
        e.Exports a.name stream x := by
  obtain ⟨op, s, outcome, log, s'⟩ := e
  simp only at *
  subst hop
  obtain ⟨haligned, hrecorded⟩ := System.aligned_of_step_tick hbooked hstep
  obtain ⟨m, hm, hcovers⟩ := (System.step_booked hbooked hstep).exists_members
  refine ⟨_, rfl, ?_⟩
  rw [Zone.exportRows_eq hm hcovers] at hdeliveries
  refine ⟨hdeliveries, fun a ha stream x hx => ?_⟩
  obtain ⟨htime, hrow⟩ := haligned.ofSample_mem_newestRows ha (hrecorded a ha) hx
  refine ⟨⟨options, htime ▸ rfl⟩, _, hdeliveries ▸ List.mem_singleton_self _, hrow⟩

end Event

/-! ## Samples from elsewhere -/

/-- No member holds a sample yet. -/
def Members.Fresh (m : Members Probe Drive) : Prop :=
  ∀ h ∈ m.histories, h.measured = [] ∧ h.commanded = []

/-- An operation that adds no sample but those that a tick records. -/
def Operation.BringsNoSamples : Operation World Probe Drive Outlet → Prop
  | .tick _ options => ∀ entry ∈ options.members, entry.2.Fresh
  | .load _ members => members.Fresh
  | .recordTemperature .. | .recordSpeed .. => False
  | .change _ | .reconfigure _ | .withOutlet _ => True

theorem Members.Fresh.samples_eq_nil {m : Members Probe Drive} (h : m.Fresh) {a : Account}
    (ha : a ∈ (Ledger.ofMembers m).accounts) (stream : Stream) : a.samples stream = [] := by
  have hhistories : (Ledger.ofMembers m).accounts = m.histories.map Account.ofHistory := by
    unfold Ledger.ofMembers Ledger.accounts Members.histories
    rw [List.map_append, List.map_map, List.map_map]
    rfl
  rw [hhistories] at ha
  obtain ⟨history, hmem, rfl⟩ := List.mem_map.1 ha
  cases stream with
  | measured => exact (h history hmem).1
  | commanded => exact (h history hmem).2

theorem Operation.BringsNoSamples.fresh_offered {now : Timestamp}
    {options : TickOptions Probe Drive}
    (h : (tick now options : Operation World Probe Drive Outlet).BringsNoSamples) (zone : String) :
    ((options.members.lookup zone).getD .empty).Fresh := by
  cases hlookup : options.members.lookup zone with
  | none =>
    intro history hmem
    cases hmem
  | some members =>
    exact h (zone, members) (mem_of_lookup hlookup)

namespace System

/-- All samples of a ledger were handed out by ticks of their times. -/
def Exported (events : List (Event World Probe Drive Outlet)) (l : Ledger) : Prop :=
  ∀ a ∈ l.accounts, ∀ stream, ∀ x ∈ a.samples stream, ∃ e ∈ events, e.Exports a.name stream x

variable {events : List (Event World Probe Drive Outlet)}

theorem exported_ofMembers {m : Members Probe Drive} (h : m.Fresh) :
    Exported events (.ofMembers m) := by
  intro a ha stream x hx
  rw [h.samples_eq_nil ha stream] at hx
  cases hx

theorem Exported.concat {l : Ledger} (h : Exported events l)
    (e : Event World Probe Drive Outlet) : Exported (events ++ [e]) l := by
  intro a ha stream x hx
  obtain ⟨e', he', hexports⟩ := h a ha stream x hx
  exact ⟨e', List.mem_append_left [e] he', hexports⟩

/-- Entries that are handed out join samples that were. -/
theorem Exported.enter {l entries : Ledger} (h : Exported events l) (haligned : l.Aligned entries)
    {e : Event World Probe Drive Outlet}
    (he : ∀ a ∈ entries.accounts, ∀ stream, ∀ x ∈ a.samples stream, e.Exports a.name stream x) :
    Exported (events ++ [e]) (l.enter entries) := by
  intro a ha stream x hx
  obtain ⟨b, hb, c, hc, hname, rfl⟩ := haligned.of_mem_enter ha
  rw [Account.samples_enter, List.mem_append] at hx
  rcases hx with hx | hx
  · exact h.concat e b hb stream x hx
  · have hexports := he c hc stream x hx
    rw [← hname] at hexports
    exact ⟨e, List.mem_append_right events List.mem_cons_self, hexports⟩

end System

/-! ## Runs with an outlet -/

theorem Config.simulation_inForce {config : Config} (hlive : config.simulation = false)
    {ops : List (Operation World Probe Drive Outlet)}
    (hops : ∀ later, .reconfigure later ∈ ops → later.simulation = false) :
    (config.inForce ops).simulation = false := by
  unfold Config.inForce
  cases hlast : (ops.filterMap Operation.accepted?).getLast? with
  | none => exact hlive
  | some later =>
    obtain ⟨op, hop, haccepted⟩ := List.mem_filterMap.1 (List.mem_of_getLast? hlast)
    cases op with
    | reconfigure config' =>
      rw [Operation.accepted?, Option.ite_none_right_eq_some] at haccepted
      obtain rfl := Option.some.inj haccepted.2
      exact hops config' hop
    | change | tick | load | withOutlet | recordTemperature | recordSpeed => cases haccepted

/-- Out of simulation a tick hands out rows to the outlet that was supplied last. -/
theorem Event.HandsOut.deliveries_eq {e : Event World Probe Drive Outlet} {zone : String}
    {config : Config} {outlet : Option Outlet} {first : Outlet}
    (h : e.HandsOut zone config (outlet.or (some first))) (hlive : config.simulation = false)
    {now : Timestamp} {options : TickOptions Probe Drive} (hop : e.operation = .tick now options) :
    e.log.deliveries =
      [⟨.supplied (outlet.getD first), zone, e.after.controller.zone.exportRows⟩] := by
  unfold Event.HandsOut Config.route at h
  rw [h, hop, hlive, Option.or_some]
  rfl

namespace System

variable {events : List (Event World Probe Drive Outlet)}

/-- One event more: what it records it hands out, and it brings nothing else. -/
theorem Exported.booked {l : Option Ledger} (h : ∀ l', l = some l' → Exported events l')
    {e : Event World Probe Drive Outlet} (hbooked : e.before.Booked l)
    (hstep : e.before.step P e.operation = .ok (e.outcome, e.after, e.log))
    (hbrings : e.operation.BringsNoSamples)
    (hexports : ∀ a ∈ (e.entries P).accounts, ∀ stream, ∀ x ∈ a.samples stream,
      e.Exports a.name stream x) {l' : Ledger} (hl' : e.booked P l = some l') :
    Exported (events ++ [e]) l' := by
  have hopened : ∀ m : Members Probe Drive, m.Fresh → Exported events (l.getD (.ofMembers m)) := by
    intro m hm
    cases l with
    | none => exact exported_ofMembers hm
    | some l => exact h l rfl
  obtain ⟨op, s, outcome, log, s'⟩ := e
  cases op with
  | tick now options =>
    obtain rfl := Option.some.inj hl'
    exact (hopened _ (hbrings.fresh_offered _)).enter (aligned_of_step_tick hbooked hstep).1
      hexports
  | load name members =>
    have hl' : (if name = s.controller.zone.name then l.or (some (.ofMembers members)) else l) =
      some l' := hl'
    split at hl'
    · rw [Option.or_some] at hl'
      obtain rfl := Option.some.inj hl'
      exact (hopened members hbrings).concat _
    · exact (h l' hl').concat _
  | change | reconfigure | withOutlet => exact (h l' hl').concat _
  | recordTemperature | recordSpeed => exact hbrings.elim

/-- Every sample in the books was handed out by a tick of its time, if none came from elsewhere. -/
theorem exported_books (hsteps : ∀ (i : Nat) e, events[i]? = some e →
      e.before.Booked (books P (events.take i)) ∧
        e.before.step P e.operation = .ok (e.outcome, e.after, e.log))
    (hbrings : ∀ e ∈ events, e.operation.BringsNoSamples)
    (hexports : ∀ e ∈ events, ∀ a ∈ (e.entries P).accounts, ∀ stream, ∀ x ∈ a.samples stream,
      e.Exports a.name stream x) (i : Nat) {l : Ledger}
    (hl : books P (events.take i) = some l) : Exported (events.take i) l := by
  induction i generalizing l with
  | zero => cases hl
  | succ i ih =>
    cases he : events[i]? with
    | none =>
      rw [List.take_add_one, he, Option.toList_none, List.append_nil] at hl ⊢
      exact ih hl
    | some e =>
      have hmem := List.mem_of_getElem? he
      rw [books_take_succ he] at hl
      rw [List.take_add_one, he]
      exact Exported.booked (fun _ => ih) (hsteps i e he).1 (hsteps i e he).2 (hbrings e hmem)
        (hexports e hmem) hl

/-- Whatever happens to a new controller with an outlet and to its world, and however little its
histories hold: out of simulation each tick hands out, for each fan and then each sensor, the newest
sample ever measured and the newest one ever commanded, one row for each object and stream at most.
What the tick itself recorded is among them; so if no samples come from elsewhere, all that was ever
recorded has been handed out by a tick of its time, also what the histories have dropped since. -/
theorem exports_lose_nothing {config : Config} {c : Controller Probe Drive Outlet}
    (hcreate : Controller.create config = .ok c) (hlive : config.simulation = false)
    (outlet : Outlet) (w : World) (ops : List (Operation World Probe Drive Outlet))
    (hops : ∀ later, .reconfigure later ∈ ops → later.simulation = false) :
    ∃ events, (System.mk (c.withOutlet outlet) w).run P ops = .ok events ∧
      events.map Event.operation = ops ∧
      (∀ i e, events[i]? = some e → e.after.Booked (books P (events.take (i + 1))) ∧
        ∀ now options, e.operation = .tick now options →
          ∃ l, books P (events.take (i + 1)) = some l ∧
            e.log.deliveries =
              [⟨.supplied ((lastOutlet (ops.take i)).getD outlet), systemZone, l.newestRows⟩] ∧
            ((l.accounts.map Account.name).Nodup →
              (l.newestRows.map fun r => (r.object, r.stream)).Nodup) ∧
            ∀ a ∈ (e.entries P).accounts, ∀ stream, ∀ x ∈ a.samples stream,
              e.Exports a.name stream x) ∧
      ((∀ op ∈ ops, op.BringsNoSamples) → ∀ i l, books P (events.take i) = some l →
        Exported (events.take i) l) := by
  have hsettled := (Controller.settled_create hcreate).withOutlet outlet
  obtain ⟨events, hrun⟩ := exists_run_eq_ok (P := P) (s := ⟨c.withOutlet outlet, w⟩) hsettled ops
  have hnone : (System.mk (c.withOutlet outlet) w).Booked none := by
    show Option.Rel Ledger.Covers none c.zone.members
    rw [Controller.members_of_create hcreate]
    exact .none
  have hrouted : (c.withOutlet outlet).Routed config (some outlet) :=
    ⟨(Controller.routed_create hcreate).config_eq, rfl⟩
  have hsteps : ∀ (i : Nat) e, events[i]? = some e →
      e.before.Booked (books P (events.take i)) ∧
        e.before.step P e.operation = .ok (e.outcome, e.after, e.log) :=
    fun i e he => run_booked hnone hrun he
  have hticks : ∀ (i : Nat) e now options, events[i]? = some e → e.operation = .tick now options →
      e.log.deliveries = [⟨.supplied ((lastOutlet (ops.take i)).getD outlet), systemZone,
        e.after.controller.zone.exportRows⟩] := by
    intro i e now options he hop
    have hhands : e.HandsOut c.zone.name _ _ := run_routed hrouted hrun he
    rw [Controller.zoneName_of_create hcreate] at hhands
    refine hhands.deliveries_eq (Config.simulation_inForce hlive fun later hlater => ?_) hop
    exact hops later (List.mem_of_mem_take hlater)
  have hexports : ∀ (i : Nat) e, events[i]? = some e → ∀ a ∈ (e.entries P).accounts, ∀ stream,
      ∀ x ∈ a.samples stream, e.Exports a.name stream x := by
    intro i e he
    obtain ⟨hbooked, hstep⟩ := hsteps i e he
    cases hop : e.operation with
    | tick now options =>
      obtain ⟨-, -, -, h⟩ := Event.exports_entries hbooked hstep hop (hticks i e now options he hop)
      exact h
    | _ =>
      intro a ha
      unfold Event.entries at ha
      rw [hop] at ha
      cases ha
  refine ⟨events, hrun, map_operation_of_run hrun, ?_, ?_⟩
  · intro i e he
    obtain ⟨hbooked, hstep⟩ := hsteps i e he
    rw [books_take_succ he]
    refine ⟨step_booked hbooked hstep, fun now options hop => ?_⟩
    obtain ⟨l, hl, hdeliveries, h⟩ :=
      Event.exports_entries hbooked hstep hop (hticks i e now options he hop)
    exact ⟨l, hl, hdeliveries, Ledger.nodup_newestRows, h⟩
  · intro hbrings i l hl
    refine exported_books hsteps (fun e he => hbrings _ ?_) (fun e he => ?_) i hl
    · rw [← map_operation_of_run hrun]
      exact List.mem_map_of_mem he
    · obtain ⟨j, hj⟩ := List.mem_iff_getElem?.1 he
      exact hexports j e hj

end System

end Exports

/-- Four ticks with room for three samples: the history of the fan has dropped one that a tick
measured and one that it commanded, and both were handed out. -/
theorem System.exports_lose_nothing_of_short_history :
    let bench : Bench := ⟨[], [⟨"fan1", some (ofNat 50), [], false⟩]⟩
    let w : Machine := { Machine.blank with bench }
    let members : Members Probe Drive := ⟨[⟨.simulated 0 "fan1", .empty "fan1" 3⟩], []⟩
    let tick (now : Nat) : Operation Machine Probe Drive Recorder :=
      .tick (ofNat now) { members := [("System", members)], refresh := true }
    let ops := [tick 0, tick 60, tick 120, tick 180]
    ∃ (c : Controller Probe Drive Recorder) (events : List (Event Machine Probe Drive Recorder)),
      Controller.create Config.default = .ok c ∧ Config.default.simulation = false ∧
      (∀ later, .reconfigure later ∈ ops → later.simulation = false) ∧
      (System.mk (c.withOutlet ⟨false⟩) w).run Machine.platform ops = .ok events ∧
      (events.getLast?.map fun e => e.after.controller.zone.fans.map fun f =>
        (f.history.measured.length, f.history.commanded.length)) = some [(3, 3)] ∧
      ((books Machine.platform (events.take 4)).map fun l => l.accounts.map fun a =>
        (a.measured.length, a.commanded.length)) = some [(4, 4)] ∧
      ∀ l, books Machine.platform (events.take 4) = some l → Exported (events.take 4) l := by
  intro bench w members tick ops
  have hops : ∀ later, .reconfigure later ∈ ops → later.simulation = false := by
    intro later hlater
    simp [ops, tick] at hlater
  have hfresh : members.Fresh := by
    intro h hh
    obtain rfl := List.mem_singleton.1 hh
    exact ⟨rfl, rfl⟩
  obtain ⟨c, hcreate, hlengths⟩ : ∃ c : Controller Probe Drive Recorder,
      Controller.create Config.default = .ok c ∧
        ((System.mk (c.withOutlet ⟨false⟩) w).run Machine.platform ops).toOption.map (fun events =>
          ((events.getLast?.map fun e => e.after.controller.zone.fans.map fun f =>
            (f.history.measured.length, f.history.commanded.length)),
          (books Machine.platform (events.take 4)).map fun l => l.accounts.map fun a =>
            (a.measured.length, a.commanded.length))) = some (some [(3, 3)], some [(4, 4)]) :=
    ⟨_, Controller.create_default, by decide +kernel⟩
  obtain ⟨events, hrun, -, -, hexported⟩ :=
    exports_lose_nothing (P := Machine.platform) hcreate rfl ⟨false⟩ w ops hops
  rw [hrun] at hlengths
  obtain ⟨hheld, hbooked⟩ := Prod.mk.inj (Option.some.inj hlengths)
  refine ⟨c, events, hcreate, rfl, hops, hrun, hheld, hbooked, hexported ?_ 4⟩
  intro op hop
  simp only [ops, List.mem_cons, List.not_mem_nil, or_false] at hop
  rcases hop with rfl | rfl | rfl | rfl <;>
    exact List.forall_mem_singleton.2 hfresh

end ChassisCooling
