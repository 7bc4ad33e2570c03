import ChassisCooling.Proofs.Control.Isolation
import ChassisCooling.Proofs.Control.SpeedRange

/-!
# The speed to start from

A zone starts each decision from the speed it commanded last, and the first one from what was
measured at its fans, both brought into the allowed range. Bringing a value into a range does
nothing to one that is not a number, and such a value may have been recorded at a fan. So the
starting speed is legal or not a number; it is a number for good once a number has been commanded.

* `Config.isNaN_nextSpeed_iff`: a decision that is not a number comes from the deadband.
* `ZoneOperation.BringsNumbers`: operations that bring in nothing but numbers.
* `Zone.numbers_once_commanded`: a commanded number is followed by numbers.
* `Zone.operateAll_startingSpeed`: the starting speed after any operations on a new zone.
* `Zone.startingSpeed_not_number`: a value recorded at a fan that is neither in range nor a number.
-/

namespace ChassisCooling

open Binary

namespace Config

variable {c : Config} {last : Single} {a : Aggregate}

/-- Only in the deadband is a decision what it starts from; every move ends in the range. -/
theorem isNaN_nextSpeed_iff (hc : c.Valid) (elapsed : Duration) :
    (c.nextSpeed last a elapsed).isNaN = true ↔ last.isNaN = true ∧ c.Holds a := by
  rcases nextSpeed_cases hc last a elapsed with ⟨hhold, heq⟩ | ⟨hmoves, hmem⟩
  · rw [heq, and_iff_left hhold]
  · rw [isNaN_left_of_le hmem.2]
    exact ⟨fun h => Bool.noConfusion h, fun h => absurd h.2 hmoves⟩

/-- A decision that is a number is legal, whatever it starts from, if that is legal or not a
number. -/
theorem nextSpeed_mem_of_number (hc : c.Valid)
    (hlast : last.isNaN = false → c.minSpeed ≤ last ∧ last ≤ maxSpeed) {elapsed : Duration}
    (h : (c.nextSpeed last a elapsed).isNaN = false) :
    c.minSpeed ≤ c.nextSpeed last a elapsed ∧ c.nextSpeed last a elapsed ≤ maxSpeed := by
  rcases nextSpeed_cases hc last a elapsed with ⟨-, heq⟩ | ⟨-, hmem⟩
  · rw [heq] at h ⊢
    exact hlast h
  · exact hmem

end Config

section Runs

variable {World Probe Drive Outlet : Type} {P : Platform World Probe Drive Outlet}

/-- The operation brings in no speed that is not a number: neither measured before at a fan that is
offered, nor recorded at one that is bound. -/
def ZoneOperation.BringsNumbers : ZoneOperation World Probe Drive → Prop
  | .load members => members.Numbers
  | .run _ _ offered _ => (offered.getD .empty).Numbers
  | .touchFan _ change _ =>
    ∀ f : Fan Drive, AllNumbers f.history.measured → AllNumbers (change f).history.measured
  | _ => True

namespace Zone

variable {z z' : Zone Probe Drive} {w w' : World} {tick : Tick}
  {offered : Option (Members Probe Drive)} {refresh : Bool} {report : ZoneReport}
  {records : List (TickRecord Drive)} {op : ZoneOperation World Probe Drive}
  {ops : List (ZoneOperation World Probe Drive)} {last : Single}

/-! ## What an operation does to the last command -/

/-- The last command of a zone is that of the newest record, if there is one. -/
theorem lastSpeed_of_reaches (h : z.speed.Reaches (records.map TickRecord.sample) z'.speed) :
    z'.lastSpeed = (records.getLast?.map fun r => r.report.speed).or z.lastSpeed := by
  unfold lastSpeed History.lastCommanded History.lastCommandedSample
  rw [h.holds.getLast?_eq, List.getLast?_append, List.getLast?_map]
  cases records.getLast? <;> rfl

/-- A tick that starts from a number reports a number. -/
theorem number_of_run (hc : z.config.Valid)
    (h : z.run P w tick offered refresh = .ok (report, z', w')) {x : Single}
    (hx : z.lastSpeed = some x) (hn : x.isNaN = false) : report.speed.isNaN = false := by
  have hlast : (z.prepared P w tick.now offered refresh).lastSpeed = some x := by
    unfold prepared
    split <;> exact hx
  rw [← config_prepared P z w tick.now offered refresh] at hc
  obtain ⟨last, hstart⟩ := startingSpeed_ok hc
  have hnum : last.isNaN = false := by
    unfold startingSpeed at hstart
    rw [hlast, Option.some_or] at hstart
    rw [isNaN_of_clamp hc.minSpeed_le hstart, hn]
  obtain ⟨hlow, hhigh⟩ := (startingSpeed_mem_iff hc hstart).2 hnum
  have hmem := Config.nextSpeed_mem hc hlow hhigh
    ((z.prepared P w tick.now offered refresh).evaluate P w) tick.elapsed
  rw [run_eq_ok P hstart] at h
  rw [← (Prod.mk.inj (Except.ok.inj h)).1]
  exact isNaN_left_of_le hmem.2

theorem numbers_operate (hc : z.config.Valid) (hz : z.Numbers) (hop : op.BringsNumbers)
    (h : z.operate P op = .ok (records, z')) : z'.Numbers := by
  cases op with
  | load m =>
    cases h
    exact numbers_load hz hop
  | refresh w now =>
    cases h
    exact numbers_refresh hz w now
  | run w tick offered refresh =>
    obtain ⟨report, w', hrun, -⟩ := operate_run_eq_ok h
    obtain ⟨report', z₁, w₁, hrun', ⟨-, hnumbers⟩, -⟩ :=
      run_mem (P := P) hc hz hop w tick refresh
    rw [hrun] at hrun'
    cases hrun'
    exact hnumbers
  | reconfigure config =>
    cases h
    exact numbers_reconfigure hz config
  | touchSensor sensor change =>
    cases h
    obtain ⟨sensors, heq⟩ := exists_touchSensor_eq z sensor change
    rw [numbers_iff] at hz ⊢
    rw [heq]
    refine ⟨hz.1, ?_⟩
    cases hm : z.members with
    | none => exact Members.numbers_empty
    | some m =>
      rw [hm] at hz
      exact hz.2
  | touchFan fan change keeps =>
    cases h
    rw [numbers_iff] at hz ⊢
    rw [touchFan_eq]
    refine ⟨hz.1, ?_⟩
    cases hm : z.members with
    | none => exact Members.numbers_empty
    | some m =>
      rw [hm] at hz
      intro f hf
      rcases mem_touchFirst hf with hmem | ⟨g, hg, rfl⟩
      · exact hz.2 f hmem
      · exact hop g (hz.2 g hg)

/-! ## Runs -/

/-- Without a value that is not a number there is none to start from. -/
theorem numbers_operateAll (hc : z.config.Valid) (hz : z.Numbers)
    (hops : ∀ config, .reconfigure config ∈ ops → config.Valid)
    (hbrings : ∀ op ∈ ops, op.BringsNumbers)
    (h : z.operateAll P ops = .ok (records, z')) : z'.Numbers := by
  induction ops generalizing z records with
  | nil =>
    cases h
    exact hz
  | cons op ops ih =>
    obtain ⟨first, z₁, rest, hop, hrest, -⟩ := operateAll_cons_eq_ok h
    rw [List.forall_mem_cons] at hbrings
    exact ih (valid_operate hc hops hop) (numbers_operate hc hz hbrings.1 hop)
      (fun config hmem => hops config (.tail _ hmem)) hbrings.2 hrest

/-- An operation leaves one record or none, and that of a number if it starts from one. -/
theorem records_of_operate (hc : z.config.Valid) (h : z.operate P op = .ok (records, z')) :
    records = [] ∨ ∃ r, records = [r] ∧
      ((∃ x, z.lastSpeed = some x ∧ x.isNaN = false) → r.report.speed.isNaN = false) := by
  cases op with
  | run w tick offered refresh =>
    obtain ⟨report, w', hrun, rfl⟩ := operate_run_eq_ok h
    refine .inr ⟨_, rfl, ?_⟩
    rintro ⟨x, hx, hn⟩
    exact number_of_run hc hrun hx hn
  | load | refresh | reconfigure | touchSensor | touchFan =>
    cases h
    exact .inl rfl

/-- From a number on, a zone commands numbers only. -/
theorem numbers_once_commanded (hc : z.config.Valid)
    (hops : ∀ config, .reconfigure config ∈ ops → config.Valid)
    (h : z.operateAll P ops = .ok (records, z')) :
    ((∃ x, z.lastSpeed = some x ∧ x.isNaN = false) →
        ∀ r ∈ records, r.report.speed.isNaN = false) ∧
      records.Pairwise fun r r' =>
        r.report.speed.isNaN = false → r'.report.speed.isNaN = false := by
  induction ops generalizing z records with
  | nil =>
    cases h
    exact ⟨fun _ => List.forall_mem_nil _, .nil⟩
  | cons op ops ih =>
    obtain ⟨first, z₁, rest, hop, hrest, rfl⟩ := operateAll_cons_eq_ok h
    obtain ⟨hnumbers, hpairs⟩ :=
      ih (valid_operate hc hops hop) (fun config hmem => hops config (.tail _ hmem)) hrest
    have hlast := lastSpeed_of_reaches (operate_speed hop)
    rcases records_of_operate hc hop with rfl | ⟨r, rfl, hr⟩
    · rw [List.nil_append, ← hlast.trans (Option.none_or ..)]
      exact ⟨hnumbers, hpairs⟩
    · -- What follows the record starts from its command.
      have hlater : r.report.speed.isNaN = false → ∀ r' ∈ rest, r'.report.speed.isNaN = false :=
        fun hn => hnumbers ⟨_, hlast, hn⟩
      rw [List.singleton_append]
      refine ⟨fun hx => List.forall_mem_cons.2 ⟨hr hx, hlater (hr hx)⟩, .cons ?_ hpairs⟩
      exact fun r' hr' hn => hlater hn r' hr'

/-- A run whose newest command is not a number has commanded none. -/
theorem all_of_getLast? {records : List (TickRecord Drive)}
    (h : records.Pairwise fun r r' => r.report.speed.isNaN = false → r'.report.speed.isNaN = false)
    {r : TickRecord Drive} (hr : records.getLast? = some r) (hn : r.report.speed.isNaN = true) :
    ∀ r' ∈ records, r'.report.speed.isNaN = true := by
  obtain ⟨older, rfl⟩ := List.getLast?_eq_some_iff.1 hr
  rw [List.pairwise_append] at h
  intro r' hr'
  rcases List.mem_append.1 hr' with hmem | hmem
  · by_contra hnum
    rw [h.2.2 r' hmem r (List.mem_singleton_self r) (Bool.eq_false_iff.2 hnum)] at hn
    cases hn
  · rwa [List.mem_singleton.1 hmem]

/-- Where a zone that has commanded nothing before is left with no number to start from. -/
theorem isNaN_startingPoint_iff (hempty : z.speed.commanded = []) (hc : z.config.Valid)
    (hops : ∀ config, .reconfigure config ∈ ops → config.Valid)
    (h : z.operateAll P ops = .ok (records, z')) :
    (∃ x, z'.startingPoint = some x ∧ x.isNaN = true) ↔
      if records = [] then ∃ x, z'.fans.findSome? Fan.speed = some x ∧ x.isNaN = true
      else ∀ r ∈ records, r.report.speed.isNaN = true := by
  have hnone : z.lastSpeed = none := by
    unfold lastSpeed History.lastCommanded History.lastCommandedSample
    rw [hempty]
    rfl
  have hcommand := lastSpeed_of_reaches (isolated_of_operateAll h).speed
  rw [hnone, Option.or_none] at hcommand
  rw [startingPoint, hcommand]
  split
  · next hrecords => rw [hrecords]; rfl
  · next hrecords =>
    cases hr : records.getLast? with
    | none => exact absurd (List.getLast?_eq_none_iff.1 hr) hrecords
    | some r =>
      rw [Option.map_some, Option.some_or]
      constructor
      · rintro ⟨x, hx, hn⟩
        obtain rfl := Option.some.inj hx
        exact all_of_getLast? (numbers_once_commanded hc hops h).2 hr hn
      · exact fun hall => ⟨_, rfl, hall r (List.mem_of_getLast? hr)⟩

theorem members_create {name : String} {config : Config} (h : Zone.create name config = .ok z) :
    z.members = none := by
  obtain ⟨speed, -, h⟩ := bind_eq_ok_iff.1 h
  cases h
  rfl

theorem numbers_create {name : String} {config : Config} (h : Zone.create name config = .ok z) :
    z.Numbers := by
  rw [numbers_iff, (create_eq_ok h).2, members_create h]
  exact ⟨AllNumbers.nil, Members.numbers_empty⟩

/-- After any operations on a new zone under valid configurations there is a speed to start from. It
is legal unless it is not a number; and it is not a number only if no command so far was one or,
before the first command, the first speed measured at a fan is not one. Where nothing but numbers is
brought in, it is legal. A decision from it is legal too, unless it is not a number, which happens
in the deadband only. -/
theorem operateAll_startingSpeed {name : String} {config : Config}
    (hcreate : Zone.create name config = .ok z) (hc : config.validate = .ok ())
    (hops : ∀ later, .reconfigure later ∈ ops → later.validate = .ok ()) :
    ∃ records z', z.operateAll P ops = .ok (records, z') ∧
      ∃ last, z'.startingSpeed = .ok last ∧
        (z'.config.minSpeed ≤ last ∧ last ≤ maxSpeed ↔ last.isNaN = false) ∧
        (last.isNaN = true ↔
          if records = [] then ∃ x, z'.fans.findSome? Fan.speed = some x ∧ x.isNaN = true
          else ∀ r ∈ records, r.report.speed.isNaN = true) ∧
        ((∀ op ∈ ops, op.BringsNumbers) → z'.config.minSpeed ≤ last ∧ last ≤ maxSpeed) ∧
        ∀ a elapsed,
          ((z'.config.nextSpeed last a elapsed).isNaN = false →
            z'.config.minSpeed ≤ z'.config.nextSpeed last a elapsed ∧
              z'.config.nextSpeed last a elapsed ≤ maxSpeed) ∧
          ((z'.config.nextSpeed last a elapsed).isNaN = true ↔
            last.isNaN = true ∧ z'.config.Holds a) := by
  obtain ⟨hconfig, hempty⟩ := create_eq_ok hcreate
  rw [Config.validate_eq_ok_iff, ← hconfig] at hc
  simp only [Config.validate_eq_ok_iff] at hops
  obtain ⟨⟨records, z'⟩, h⟩ := exists_operateAll_eq_ok (P := P) hc hops
  have hc' := valid_operateAll hc hops h
  obtain ⟨last, hlast⟩ := startingSpeed_ok hc'
  have hmem := startingSpeed_mem_iff hc' hlast
  refine ⟨records, z', h, last, hlast, hmem, ?_, ?_, fun a elapsed => ⟨?_, ?_⟩⟩
  · rw [isNaN_startingSpeed_iff hc' hlast, isNaN_startingPoint_iff hempty hc hops h]
  · intro hbrings
    obtain ⟨last', hlast', hmem'⟩ :=
      startingSpeed_mem hc' (numbers_operateAll hc (numbers_create hcreate) hops hbrings h)
    rw [hlast] at hlast'
    rwa [Except.ok.inj hlast']
  · exact Config.nextSpeed_mem_of_number hc' hmem.2
  · exact Config.isNaN_nextSpeed_iff hc' elapsed

end Zone

end Runs

namespace Zone

/-- What was recorded at a fan is not a number; a tick with a warm sensor commands the lowest speed,
and the next one starts from that. -/
theorem operateAll_startingSpeed_of_warm :
    let limits : Limits := ⟨some (ofNat 95), some (ofNat 100), some (ofNat 70)⟩
    let bench : Bench :=
      ⟨[⟨"cpu", some (ofNat 90), limits⟩], [⟨"fan1", some (ofNat 50), [], false⟩]⟩
    let w : Machine := { Machine.blank with bench }
    let fan : Fan Drive := ⟨.simulated 0 "fan1", .empty "fan1" 10⟩
    let cpu : Sensor Probe := ⟨.simulated 0 "cpu", .empty "cpu" 10, true⟩
    let sense (s : Sensor Probe) : Sensor Probe := s.record (ofNat 1) (ofNat 90)
    let ops : List (ZoneOperation Machine Probe Drive) :=
      [.load ⟨[fan], [cpu]⟩,
        .touchFan "fan1" (fun f => f.record (ofNat 1) .nan) (fun _ => .recordMeasured .refl _ _),
        .touchSensor "cpu" sense, .run w ⟨ofNat 2, ⟨60000000000, by decide⟩⟩ none false]
    ∃ (z z' : Zone Probe Drive) (records : List (TickRecord Drive)),
      (Zone.create "System" .default = .ok z ∧ Config.default.validate = .ok () ∧
        ∀ later, .reconfigure later ∈ ops → later.validate = .ok ()) ∧
      z.operateAll Machine.platform ops = .ok (records, z') ∧
      records.map (fun r => r.report.speed) = [ofNat 30] ∧
      ∃ last, z'.startingSpeed = .ok last ∧ z'.config.minSpeed ≤ last ∧ last ≤ maxSpeed := by
  intro limits bench w fan cpu sense ops
  obtain ⟨z, hcreate, hspeeds⟩ : ∃ z : Zone Probe Drive, Zone.create "System" .default = .ok z ∧
      ((z.operateAll Machine.platform ops).toOption.map fun r =>
        r.1.map fun record => record.report.speed) = some [ofNat 30] :=
    ⟨_, rfl, by decide +kernel⟩
  have hops : ∀ later, .reconfigure later ∈ ops → later.validate = .ok () := by
    intro later hlater
    simp [ops] at hlater
  obtain ⟨records, z', h, last, hlast, hmem, hnumber, -⟩ :=
    operateAll_startingSpeed (P := Machine.platform) hcreate Config.validate_default hops
  rw [h] at hspeeds
  obtain ⟨r, rfl, hr⟩ := List.map_eq_singleton_iff.1 (Option.some.inj hspeeds)
  refine ⟨z, z', [r], ⟨hcreate, Config.validate_default, hops⟩, h, Option.some.inj hspeeds,
    last, hlast, hmem.2 ?_⟩
  rw [← Bool.not_eq_true, hnumber]
  simp [hr]

/-- A value that is not a number is recorded at a fan before the first tick: no legal speed to start
from, and a tick in the deadband that does not read the fan asks it for that value. -/
theorem startingSpeed_not_number :
    let limits : Limits := ⟨some (ofNat 95), some (ofNat 100), some (ofNat 70)⟩
    let bench : Bench :=
      ⟨[⟨"cpu", some (ofNat 70), limits⟩], [⟨"fan1", some (ofNat 50), [], false⟩]⟩
    let w : Machine := { Machine.blank with bench }
    let fan : Fan Drive := ⟨.simulated 0 "fan1", .empty "fan1" 10⟩
    let cpu : Sensor Probe := ⟨.simulated 0 "cpu", .empty "cpu" 10, true⟩
    let sense (s : Sensor Probe) : Sensor Probe := s.record (ofNat 1) (ofNat 70)
    let config := Config.default.withMinSpeed (ofNat 100)
    let ops : List (ZoneOperation Machine Probe Drive) :=
      [.load ⟨[fan], [cpu]⟩, .touchSensor "cpu" sense,
        .touchFan "fan1" (fun f => f.record (ofNat 1) .nan) (fun _ => .recordMeasured .refl _ _)]
    ∃ (z z' : Zone Probe Drive) (records : List (TickRecord Drive)),
      config.validate = .ok () ∧ Zone.create "System" config = .ok z ∧
      z.operateAll Machine.platform ops = .ok (records, z') ∧ z'.startingSpeed = .ok .nan ∧
      ¬(z'.config.minSpeed ≤ .nan ∧ .nan ≤ maxSpeed) ∧
      (z'.run Machine.platform w ⟨ofNat 2, ⟨60000000000, by decide⟩⟩ none false).toOption.map
        (fun (report, _, w') => (report.speed, w'.bench.fans.map (·.writes))) =
          some (.nan, [[.nan]]) := by
  intro limits bench w fan cpu sense config ops
  have hvalid : config.validate = .ok () := by
    rw [Config.validate_eq_ok_iff]
    constructor <;> decide +kernel
  refine ⟨_, _, _, hvalid, rfl, rfl, ?_, fun hmem => Bool.noConfusion hmem.1.2.1, ?_⟩
  · decide +kernel
  · decide +kernel

end Zone

end ChassisCooling
