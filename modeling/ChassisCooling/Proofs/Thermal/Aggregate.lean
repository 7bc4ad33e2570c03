import ChassisCooling.Proofs.Binary.Arithmetic
import ChassisCooling.Thermal.Aggregate

/-!
# What an aggregate collects

Each reading is judged by itself, under the offset, factor and targets that the aggregate started
with. So an aggregate is described by two functions of a reading: whether it raises the overheat
flag, and the snapshot that it leaves, if any.

* `Aggregate.place?`: the temperature, target and ceiling at which a reading is judged.
* `Aggregate.processAll_eq`: the flag and the snapshots that a list of readings yields.
* `Aggregate.choose_mem`, `Aggregate.not_lt_of_choose`: the chosen snapshot is one of them, and none
  has a higher `deltap`; `Aggregate.isNaN_of_choose`: its own is a number if that of the first is.
* `Snapshot.SignsAgree`: `deltap` does not have the opposite sign of `delta`.
-/

namespace ChassisCooling

open Binary

/-- A temperature with the target and the ceiling that it is judged by. -/
structure Placement where
  value : Single
  target : Single
  ceiling : Single
  deriving DecidableEq

namespace Aggregate

/-- Where a reading stands. A reading without a temperature or without both thresholds stands
nowhere, and so does one whose target or ceiling is not above zero. -/
def place? (a : Aggregate) (r : Reading) : Option Placement :=
  match r.temperature, r.limits.overheat, r.limits.critical with
  | some value, some overheat, some critical =>
    let ceiling := overheat.minNum critical
    let target := a.baseTarget r.name r.limits.target overheat + a.offset
    if target ≤ ofNat 0 ∨ ceiling ≤ ofNat 0 then none else some ⟨value, target, ceiling⟩
  | _, _, _ => none

/-- A reading raises the overheat flag. -/
def raisesFlag (a : Aggregate) (r : Reading) : Bool :=
  (a.place? r).any fun p => p.ceiling < p.value

/-- The snapshot that a reading leaves. -/
def snapshot? (a : Aggregate) (r : Reading) : Option Snapshot :=
  (a.place? r).bind fun p =>
    if p.ceiling ≤ p.target then none else some (.of r.name p.value p.target p.ceiling)

/-- An aggregate after more readings: another flag and more snapshots. -/
def collected (a : Aggregate) (overheat : Bool) (snapshots : List Snapshot) : Aggregate :=
  { a with overheat := a.overheat || overheat, snapshots := a.snapshots ++ snapshots }

theorem process_eq (a : Aggregate) (r : Reading) :
    a.process r = a.collected (a.raisesFlag r) (a.snapshot? r).toList := by
  obtain ⟨name, temperature, overheat, critical, own⟩ := r
  unfold raisesFlag snapshot? collected
  cases temperature with
  | none => simp [process, place?]
  | some value =>
    cases overheat with
    | none => simp [process, place?]
    | some overheat =>
      cases critical with
      | none => simp [process, place?]
      | some critical =>
        unfold process place?
        simp only
        split
        · simp
        · split <;> simp [flag, *]

/-- Readings are judged one by one, under the settings that the aggregate started with. -/
theorem processAll_eq (a : Aggregate) (rs : List Reading) :
    a.processAll rs = a.collected (rs.any a.raisesFlag) (rs.filterMap a.snapshot?) := by
  induction rs generalizing a with
  | nil => simp [processAll, collected]
  | cons r rs ih =>
    change (a.process r).processAll rs = _
    rw [ih, process_eq, List.any_cons, List.filterMap_cons]
    have hflag : (a.collected (a.raisesFlag r) (a.snapshot? r).toList).raisesFlag =
        a.raisesFlag := rfl
    have hsnap : (a.collected (a.raisesFlag r) (a.snapshot? r).toList).snapshot? =
        a.snapshot? := rfl
    rw [hflag, hsnap]
    unfold collected
    cases a.snapshot? r <;> simp [Bool.or_assoc]

theorem overheat_processAll_forConfig (c : Config) (rs : List Reading) :
    ((forConfig c).processAll rs).overheat = rs.any (forConfig c).raisesFlag := by
  rw [processAll_eq]
  exact Bool.false_or _

theorem snapshots_processAll_forConfig (c : Config) (rs : List Reading) :
    ((forConfig c).processAll rs).snapshots = rs.filterMap (forConfig c).snapshot? := by
  rw [processAll_eq]
  exact List.nil_append _

/-! ## The chosen snapshot -/

theorem choose_eq_none_iff {a : Aggregate} : a.choose = none ↔ a.snapshots = [] := by
  unfold choose
  split <;> simp [*]

theorem moreCritical_eq (s t : Snapshot) : moreCritical s t = s ∨ moreCritical s t = t := by
  unfold moreCritical
  split
  · exact .inr rfl
  · exact .inl rfl

theorem foldl_moreCritical_mem (s : Snapshot) (rest : List Snapshot) :
    rest.foldl moreCritical s ∈ s :: rest := by
  induction rest generalizing s with
  | nil => exact List.mem_cons_self
  | cons t rest ih =>
    rw [List.foldl_cons]
    have := ih (moreCritical s t)
    rw [List.mem_cons] at this
    rcases this with h | h
    · rw [h]
      rcases moreCritical_eq s t with h' | h' <;> rw [h'] <;> simp
    · exact List.mem_cons_of_mem _ (List.mem_cons_of_mem _ h)

theorem choose_mem {a : Aggregate} {s : Snapshot} (h : a.choose = some s) : s ∈ a.snapshots := by
  unfold choose at h
  split at h
  · cases h
  · next s₀ rest hs =>
    rw [hs, ← Option.some.inj h]
    exact foldl_moreCritical_mem s₀ rest

/-- Comparing takes a snapshot in the place of another one only if both have a number. -/
theorem isNaN_moreCritical (s t : Snapshot) :
    (moreCritical s t).deltap.isNaN = s.deltap.isNaN := by
  unfold moreCritical
  split
  · next h => rw [h.1, h.2.1]
  · rfl

theorem isNaN_foldl_moreCritical (s : Snapshot) (rest : List Snapshot) :
    (rest.foldl moreCritical s).deltap.isNaN = s.deltap.isNaN := by
  induction rest generalizing s with
  | nil => rfl
  | cons t rest ih => rw [List.foldl_cons, ih, isNaN_moreCritical]

theorem not_moreCritical_lt (s t : Snapshot) :
    ¬(moreCritical s t).deltap < s.deltap ∧ ¬(moreCritical s t).deltap < t.deltap := by
  unfold moreCritical
  split
  · next h =>
    exact ⟨not_lt_of_le (Binary.le_of_lt h), not_lt_of_le (Binary.le_refl h.2.1)⟩
  · next h => exact ⟨fun hs => not_lt_of_le (Binary.le_refl hs.1) hs, h⟩

/-- No snapshot is above the one that the comparisons leave, be they numbers or not. -/
theorem not_foldl_moreCritical_lt (s : Snapshot) (rest : List Snapshot) :
    ∀ t ∈ s :: rest, ¬(rest.foldl moreCritical s).deltap < t.deltap := by
  induction rest generalizing s with
  | nil =>
    intro t ht
    rw [List.mem_singleton] at ht
    subst ht
    exact fun h => not_lt_of_le (Binary.le_refl h.1) h
  | cons u rest ih =>
    have hhead := ih (moreCritical s u) _ List.mem_cons_self
    obtain ⟨hs, hu⟩ := not_moreCritical_lt s u
    -- What the step leaves is not above the result, and what it compares is not above that.
    have through : ∀ t : Snapshot, ¬(moreCritical s u).deltap < t.deltap →
        ¬(rest.foldl moreCritical (moreCritical s u)).deltap < t.deltap := by
      intro t ht hlt
      have hnum := isNaN_foldl_moreCritical (moreCritical s u) rest
      rw [hlt.1] at hnum
      have hle := le_of_not_lt hnum.symm hlt.1 hhead
      exact ht (Binary.lt_of_le_of_lt hle hlt)
    intro t ht
    rw [List.foldl_cons]
    rcases List.mem_cons.1 ht with rfl | ht
    · exact through t hs
    · rcases List.mem_cons.1 ht with rfl | ht
      · exact through t hu
      · exact ih (moreCritical s u) t (List.mem_cons_of_mem _ ht)

/-- No snapshot is above the chosen one, be they numbers or not. -/
theorem not_lt_of_choose {a : Aggregate} {s : Snapshot} (h : a.choose = some s) :
    ∀ t ∈ a.snapshots, ¬s.deltap < t.deltap := by
  unfold choose at h
  split at h
  · cases h
  · next s₀ rest hs =>
    rw [hs, ← Option.some.inj h]
    exact not_foldl_moreCritical_lt s₀ rest

/-- The chosen snapshot has a number for its `deltap` if the first one has. -/
theorem isNaN_of_choose {a : Aggregate} {s : Snapshot} (h : a.choose = some s) :
    ∃ first, a.snapshots.head? = some first ∧ s.deltap.isNaN = first.deltap.isNaN := by
  unfold choose at h
  split at h
  · cases h
  · next s₀ rest hs =>
    rw [hs, ← Option.some.inj h]
    exact ⟨s₀, rfl, isNaN_foldl_moreCritical s₀ rest⟩

/-- Among snapshots whose `deltap` is a number, none has a higher one than the chosen. -/
theorem deltap_le_of_choose {a : Aggregate} {s : Snapshot} (h : a.choose = some s)
    (hnum : ∀ t ∈ a.snapshots, t.deltap.isNaN = false) :
    ∀ t ∈ a.snapshots, t.deltap ≤ s.deltap := by
  intro t ht
  exact le_of_not_lt (hnum t ht) (hnum s (choose_mem h)) (not_lt_of_choose h t ht)

end Aggregate

namespace Snapshot

/-- `deltap` does not have the opposite sign of `delta`, where it is a number. -/
structure SignsAgree (s : Snapshot) : Prop where
  below : s.delta < ofNat 0 → s.deltap.isNaN = false → s.deltap ≤ ofNat 0
  above : ¬s.delta < ofNat 0 → s.deltap.isNaN = false → ofNat 0 ≤ s.deltap

theorem SignsAgree.delta_neg {s : Snapshot} (hs : s.SignsAgree) (h : s.deltap < ofNat 0) :
    s.delta < ofNat 0 := by
  by_cases hneg : s.delta < ofNat 0
  · exact hneg
  · exact absurd h (not_lt_of_le (hs.above hneg h.1))

theorem SignsAgree.not_delta_neg {s : Snapshot} (hs : s.SignsAgree) (h : ofNat 0 < s.deltap) :
    ¬s.delta < ofNat 0 := by
  intro hneg
  exact not_lt_of_le (hs.below hneg h.2.1) h

theorem signsAgree_of (sensor : String) {value target ceiling : Single}
    (h : ¬ceiling ≤ target) : (Snapshot.of sensor value target ceiling).SignsAgree := by
  -- The way from target to ceiling is positive, unless there is no way to go.
  have gap : (Snapshot.of sensor value target ceiling).deltap.isNaN = false →
      (value - target).isNaN = false ∧ ofNat 0 < ceiling - target := by
    intro hn
    obtain ⟨hdelta, hgap⟩ := numbers_of_div hn
    obtain ⟨hceiling, htarget⟩ := numbers_of_sub hgap
    exact ⟨hdelta, Binary.sub_pos (lt_of_not_le htarget hceiling h)⟩
  constructor
  · intro hlt hn
    exact div_nonpos (Binary.le_of_lt hlt) (gap hn).2 hn
  · intro hge hn
    exact Binary.div_nonneg (le_of_not_lt (isNaN_ofNat 0) (gap hn).1 hge) (gap hn).2 hn

end Snapshot

namespace Aggregate

/-- A snapshot that a reading leaves places the reading's temperature between a target and a
ceiling that is not below it. -/
theorem exists_of_snapshot? {a : Aggregate} {r : Reading} {s : Snapshot}
    (h : a.snapshot? r = some s) :
    ∃ p, a.place? r = some p ∧ ¬p.ceiling ≤ p.target ∧
      s = .of r.name p.value p.target p.ceiling := by
  unfold snapshot? at h
  obtain ⟨p, hp, h⟩ := Option.bind_eq_some_iff.1 h
  split at h
  · cases h
  · next hc => exact ⟨p, hp, hc, (Option.some.inj h).symm⟩

/-- A reading that is judged at all has a temperature and both thresholds. -/
theorem place?_eq_some {a : Aggregate} {r : Reading} {p : Placement} (h : a.place? r = some p) :
    r.temperature = some p.value ∧ ∃ overheat critical, r.limits.overheat = some overheat ∧
      r.limits.critical = some critical ∧ p.ceiling = overheat.minNum critical := by
  unfold place? at h
  split at h
  · next value overheat critical htemp hover hcrit =>
    simp only at h
    split at h
    · cases h
    · rw [← Option.some.inj h]
      exact ⟨htemp, overheat, critical, hover, hcrit, rfl⟩
  · cases h

theorem exists_of_raisesFlag {a : Aggregate} {r : Reading} (h : a.raisesFlag r = true) :
    ∃ p, a.place? r = some p ∧ p.ceiling < p.value := by
  unfold raisesFlag at h
  cases hp : a.place? r with
  | none => simp [hp] at h
  | some p =>
    rw [hp, Option.any_some, decide_eq_true_eq] at h
    exact ⟨p, rfl, h⟩

theorem signsAgree_of_processAll {a : Aggregate} (ha : a.snapshots = []) {rs : List Reading}
    {s : Snapshot} (h : s ∈ (a.processAll rs).snapshots) : s.SignsAgree := by
  rw [processAll_eq] at h
  simp only [collected, ha, List.nil_append, List.mem_filterMap] at h
  obtain ⟨r, -, hr⟩ := h
  obtain ⟨p, -, hc, rfl⟩ := exists_of_snapshot? hr
  exact Snapshot.signsAgree_of r.name hc

end Aggregate

end ChassisCooling
