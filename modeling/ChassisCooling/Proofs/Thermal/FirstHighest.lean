import ChassisCooling.Proofs.Thermal.Aggregate
import Mathlib.Data.List.Induction

/-!
# The first of the highest

The snapshots are compared from the first one on, and a later one takes the place of the one that
was kept only if its `deltap` is higher. So the one that is left is the first of the highest. What
is not a number is neither higher nor lower than anything, and this order has gaps: a first snapshot
without a number stays, and a later one without a number is passed over.

* `Aggregate.FirstHighest`: none is higher, and those before it are lower, where they have a number.
* `Aggregate.FirstHighest.concat`: what one comparison keeps.
* `Aggregate.exists_firstHighest_of_choose`, `Aggregate.le_deltap_of_append`: the chosen snapshot,
  and what more snapshots do to it.
* `Aggregate.choose_first_of_highest`: the main result.
-/

namespace ChassisCooling

open Binary

namespace Aggregate

variable {a b : Aggregate} {l more : List Snapshot} {i j : Nat} {s t : Snapshot}

/-- The snapshot at a place of a list: none has a higher `deltap`, and those before it have a lower
one, where it is a number. -/
structure FirstHighest (l : List Snapshot) (i : Nat) (s : Snapshot) : Prop where
  place : l[i]? = some s
  not_lt : ∀ t ∈ l, ¬s.deltap < t.deltap
  before : ∀ j < i, ∀ t, l[j]? = some t → t.deltap.isNaN = false → t.deltap < s.deltap

/-- The first place at which a list has its maximum. -/
structure FirstMaximum (l : List Snapshot) (i : Nat) (s : Snapshot) : Prop where
  place : l[i]? = some s
  le : ∀ t ∈ l, t.deltap ≤ s.deltap
  before : ∀ j < i, ∀ t, l[j]? = some t → t.deltap < s.deltap

/-! ## One comparison -/

theorem firstHighest_singleton (s : Snapshot) : FirstHighest [s] 0 s where
  place := rfl
  not_lt t ht := by
    rw [List.mem_singleton] at ht
    subst ht
    exact fun h => not_lt_of_le (Binary.le_refl h.1) h
  before j hj := absurd hj (Nat.not_lt_zero j)

namespace FirstHighest

theorem lt_length (h : FirstHighest l i s) : i < l.length :=
  (List.getElem?_eq_some_iff.1 h.place).1

/-- A snapshot that is higher than the highest so far is first of the highest at the end. What was
before it is lower: it was not above the highest so far, which has a number. -/
theorem concat_of_lt (h : FirstHighest l i s) (hlt : s.deltap < t.deltap) :
    FirstHighest (l ++ [t]) l.length t where
  place := List.getElem?_concat_length
  not_lt u hu := by
    rcases List.mem_append.1 hu with hu | hu
    · exact fun htu => h.not_lt u hu (Binary.lt_of_lt_of_le hlt (Binary.le_of_lt htu))
    · rw [List.mem_singleton] at hu
      subst hu
      exact not_lt_of_le (Binary.le_refl hlt.2.1)
  before j hj u hu hnum := by
    rw [List.getElem?_append_left hj] at hu
    have hle := le_of_not_lt hnum hlt.1 (h.not_lt u (List.mem_of_getElem? hu))
    exact Binary.lt_of_le_of_lt hle hlt

/-- One that is not higher changes nothing. -/
theorem concat_of_not_lt (h : FirstHighest l i s) (hlt : ¬s.deltap < t.deltap) :
    FirstHighest (l ++ [t]) i s where
  place := (List.getElem?_append_left h.lt_length).trans h.place
  not_lt u hu := by
    rcases List.mem_append.1 hu with hu | hu
    · exact h.not_lt u hu
    · rw [List.mem_singleton] at hu
      exact hu ▸ hlt
  before j hj u hu hnum := by
    rw [List.getElem?_append_left (Nat.lt_trans hj h.lt_length)] at hu
    exact h.before j hj u hu hnum

theorem concat (h : FirstHighest l i s) (t : Snapshot) :
    ∃ k, FirstHighest (l ++ [t]) k (moreCritical s t) := by
  unfold moreCritical
  split
  · next hlt => exact ⟨l.length, h.concat_of_lt hlt⟩
  · next hlt => exact ⟨i, h.concat_of_not_lt hlt⟩

/-- Where all have numbers, the first of the highest is the first maximum. -/
theorem firstMaximum (h : FirstHighest l i s) (hnum : ∀ t ∈ l, t.deltap.isNaN = false) :
    FirstMaximum l i s where
  place := h.place
  le t ht := le_of_not_lt (hnum t ht) (hnum s (List.mem_of_getElem? h.place)) (h.not_lt t ht)
  before j hj t ht := h.before j hj t ht (hnum t (List.mem_of_getElem? ht))

end FirstHighest

/-- There is one first maximum: of two, the later one would be above the earlier. -/
theorem FirstMaximum.unique (h : FirstMaximum l i s) (h' : FirstMaximum l j t) :
    i = j ∧ s = t := by
  have hle := h.le t (List.mem_of_getElem? h'.place)
  have hle' := h'.le s (List.mem_of_getElem? h.place)
  rcases Nat.lt_trichotomy i j with hij | rfl | hij
  · exact absurd (h'.before i hij s h.place) (not_lt_of_le hle)
  · exact ⟨rfl, Option.some.inj (h.place.symm.trans h'.place)⟩
  · exact absurd (h.before j hij t h'.place) (not_lt_of_le hle')

/-! ## All comparisons -/

/-- By induction on what is compared, from its end. -/
theorem exists_firstHighest_foldl (s : Snapshot) (rest : List Snapshot) :
    ∃ i, FirstHighest (s :: rest) i (rest.foldl moreCritical s) := by
  induction rest using List.reverseRecOn with
  | nil => exact ⟨0, firstHighest_singleton s⟩
  | append_singleton rest t ih =>
    obtain ⟨i, hi⟩ := ih
    rw [List.foldl_append, ← List.cons_append]
    exact hi.concat t

theorem exists_firstHighest_of_choose (h : a.choose = some s) :
    ∃ i, FirstHighest a.snapshots i s := by
  unfold choose at h
  split at h
  · cases h
  · next first rest hsnapshots =>
    rw [hsnapshots, ← Option.some.inj h]
    exact exists_firstHighest_foldl first rest

/-- The choice goes on from the one that was chosen. -/
theorem choose_of_append (hb : b.snapshots = a.snapshots ++ more) (h : a.choose = some s) :
    b.choose = some (more.foldl moreCritical s) := by
  unfold choose at h ⊢
  rw [hb]
  split at h
  · cases h
  · next first rest hsnapshots =>
    rw [hsnapshots, List.cons_append, ← Option.some.inj h, ← List.foldl_append]

/-- More snapshots, be they numbers or not, do not lower a `deltap` that is a number. -/
theorem le_deltap_of_append (hb : b.snapshots = a.snapshots ++ more) (h : a.choose = some s)
    (hnum : s.deltap.isNaN = false) : ∃ t, b.choose = some t ∧ s.deltap ≤ t.deltap := by
  refine ⟨_, choose_of_append hb h, le_of_not_lt hnum ?_ ?_⟩
  · rw [isNaN_foldl_moreCritical, hnum]
  · exact not_foldl_moreCritical_lt s more s List.mem_cons_self

theorem snapshots_processAll (a : Aggregate) (rs : List Reading) :
    (a.processAll rs).snapshots = a.snapshots ++ rs.filterMap a.snapshot? := by
  rw [processAll_eq]
  rfl

/-- There is no choice only if there is nothing to choose from. Otherwise no snapshot is above the
chosen one, and those before it are below it, where they have numbers. Where all have numbers, it is
the one at the first place of the maximum, of which there is one, and more snapshots do not lower
its `deltap`. -/
theorem choose_first_of_highest (a : Aggregate) :
    (a.choose = none ↔ a.snapshots = []) ∧
    (∀ s, a.choose = some s → ∃ i, FirstHighest a.snapshots i s) ∧
    ((∀ t ∈ a.snapshots, t.deltap.isNaN = false) →
      (∀ s, a.choose = some s ↔ ∃! i, FirstMaximum a.snapshots i s) ∧
      ∀ s, a.choose = some s →
        (∀ (b : Aggregate) (more : List Snapshot), b.snapshots = a.snapshots ++ more →
          ∃ t, b.choose = some t ∧ s.deltap ≤ t.deltap) ∧
        ∀ rs, ∃ t, (a.processAll rs).choose = some t ∧ s.deltap ≤ t.deltap) := by
  refine ⟨choose_eq_none_iff, fun s => exists_firstHighest_of_choose, fun hnum => ⟨?_, ?_⟩⟩
  · intro s
    constructor
    · intro h
      obtain ⟨i, hi⟩ := exists_firstHighest_of_choose h
      have hfirst := hi.firstMaximum hnum
      exact ⟨i, hfirst, fun j hj => (hj.unique hfirst).1⟩
    · rintro ⟨i, hi, -⟩
      cases h : a.choose with
      | none =>
        have hplace := hi.place
        rw [choose_eq_none_iff.1 h] at hplace
        cases hplace
      | some t =>
        obtain ⟨j, hj⟩ := exists_firstHighest_of_choose h
        rw [(hi.unique (hj.firstMaximum hnum)).2]
  · intro s h
    have hs := hnum s (choose_mem h)
    exact ⟨fun b more hb => le_deltap_of_append hb h hs,
      fun rs => le_deltap_of_append (snapshots_processAll a rs) h hs⟩

/-- Two sensors at the maximum behind a cooler one: the first of the two is chosen, and one without
a number behind them changes nothing. In front of them it would be chosen itself. -/
theorem choose_first_of_two_highest :
    let cpu : Snapshot := .of "cpu" (ofNat 75) (ofNat 70) (ofNat 95)
    let asic : Snapshot := .of "asic" (ofNat 90) (ofNat 70) (ofNat 95)
    let disk : Snapshot := .of "disk" (ofNat 90) (ofNat 70) (ofNat 95)
    let psu : Snapshot := .of "psu" .nan (ofNat 70) (ofNat 95)
    let of (snapshots : List Snapshot) : Aggregate := { forConfig .default with snapshots }
    (∀ t ∈ [cpu, asic, disk], t.deltap.isNaN = false) ∧
      (of [cpu, asic, disk]).choose = some asic ∧
      (∃! i, FirstMaximum [cpu, asic, disk] i asic) ∧
      (∃ t, (of [cpu, asic, disk, psu]).choose = some t ∧ asic.deltap ≤ t.deltap) ∧
      ∃ i, FirstHighest [psu, cpu, asic, disk] i psu := by
  intro cpu asic disk psu of
  have hnum : ∀ t ∈ [cpu, asic, disk], t.deltap.isNaN = false := by decide +kernel
  have hchosen : (of [cpu, asic, disk]).choose = some asic := by decide +kernel
  obtain ⟨-, -, hmaximum⟩ := choose_first_of_highest (of [cpu, asic, disk])
  obtain ⟨hunique, hmore⟩ := hmaximum hnum
  obtain ⟨-, hhighest, -⟩ := choose_first_of_highest (of [psu, cpu, asic, disk])
  exact ⟨hnum, hchosen, (hunique asic).1 hchosen,
    (hmore asic hchosen).1 (of [cpu, asic, disk, psu]) [psu] rfl,
    hhighest psu (by decide +kernel)⟩

end Aggregate

end ChassisCooling
