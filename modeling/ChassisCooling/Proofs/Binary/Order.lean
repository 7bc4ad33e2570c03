import ChassisCooling.Error
import ChassisCooling.Proofs.Binary.Rounding

/-!
# The order of numbers

Comparing two numbers is comparing their ranks, once neither of them is not-a-number.

* `Binary.le_iff`, `Binary.le_trans`, `Binary.le_of_not_lt`, …: the order of numbers.
* `Binary.le_maxNum_right`, `Binary.minNum_le_right`, …: the larger and the smaller of two numbers
  are bounded by the second one even where the first is not a number.
* `Binary.eq_of_rank_eq`: two numbers of one rank are the same, unless they are zeros.
* `Binary.clamp_eq_ok`, `Binary.clamp_mem`: when a clamp succeeds and what it yields.
-/

namespace ChassisCooling

attribute [local instance] naturalPower

namespace Binary

variable {f : Format} {x y z low high : Binary f}

/-! ## Comparison -/

theorem le_iff : x ≤ y ↔ x.isNaN = false ∧ y.isNaN = false ∧ x.rank ≤ y.rank := Iff.rfl

theorem lt_iff : x < y ↔ x.isNaN = false ∧ y.isNaN = false ∧ x.rank < y.rank := Iff.rfl

theorem le_of_rank_le (hx : x.isNaN = false) (hy : y.isNaN = false) (h : x.rank ≤ y.rank) :
    x ≤ y := ⟨hx, hy, h⟩

theorem isNaN_left_of_le (h : x ≤ y) : x.isNaN = false := h.1

theorem isNaN_right_of_le (h : x ≤ y) : y.isNaN = false := h.2.1

theorem rank_le_of_le (h : x ≤ y) : x.rank ≤ y.rank := h.2.2

theorem le_refl (h : x.isNaN = false) : x ≤ x := ⟨h, h, Int.le_refl _⟩

theorem le_trans (h : x ≤ y) (h' : y ≤ z) : x ≤ z :=
  ⟨h.1, h'.2.1, Int.le_trans h.2.2 h'.2.2⟩

theorem le_of_lt (h : x < y) : x ≤ y := ⟨h.1, h.2.1, Int.le_of_lt h.2.2⟩

theorem lt_of_lt_of_le (h : x < y) (h' : y ≤ z) : x < z :=
  ⟨h.1, h'.2.1, Int.lt_of_lt_of_le h.2.2 h'.2.2⟩

theorem lt_of_le_of_lt (h : x ≤ y) (h' : y < z) : x < z :=
  ⟨h.1, h'.2.1, Int.lt_of_le_of_lt h.2.2 h'.2.2⟩

theorem not_lt_of_le (h : x ≤ y) : ¬y < x := fun h' => Int.not_lt.2 h.2.2 h'.2.2

theorem not_le_of_lt (h : x < y) : ¬y ≤ x := fun h' => Int.not_lt.2 h'.2.2 h.2.2

theorem le_of_not_lt (hx : x.isNaN = false) (hy : y.isNaN = false) (h : ¬y < x) : x ≤ y :=
  ⟨hx, hy, Int.not_lt.1 fun hr => h ⟨hy, hx, hr⟩⟩

theorem lt_of_not_le (hx : x.isNaN = false) (hy : y.isNaN = false) (h : ¬y ≤ x) : x < y :=
  ⟨hx, hy, Int.not_le.1 fun hr => h ⟨hy, hx, hr⟩⟩

/-- Equality of numbers is being no more and no less. -/
theorem numEq_iff : x.numEq y = true ↔ x ≤ y ∧ y ≤ x := by
  rw [le_iff, le_iff]
  unfold numEq
  simp only [Bool.and_eq_true, Bool.not_eq_true', beq_iff_eq]
  constructor
  · rintro ⟨⟨hx, hy⟩, hr⟩
    exact ⟨⟨hx, hy, by omega⟩, hy, hx, by omega⟩
  · rintro ⟨⟨hx, hy, h⟩, -, -, h'⟩
    exact ⟨⟨hx, hy⟩, by omega⟩

/-! ## Finite numbers and bounds of ranks -/

theorem isNaN_of_isFinite (h : x.isFinite) : x.isNaN = false := by
  cases x <;> simp_all [isFinite, isNaN]

theorem exists_eq_finite (h : x.isFinite) : ∃ s m hm, x = finite s m hm := by
  cases x with
  | nan => simp [isFinite] at h
  | infinity s => simp [isFinite] at h
  | finite s m hm => exact ⟨s, m, hm, rfl⟩

theorem rank_finite (s : Bool) (m : Nat) (h : f.Fits m) : (finite s m h).rank = applySign s m := rfl

theorem natAbs_applySign (s : Bool) (m : Nat) : (applySign s m).natAbs = m := by
  unfold applySign
  split <;> omega

theorem natAbs_rank_lt (h : x.isFinite) : x.rank.natAbs < 2 ^ f.topBits := by
  obtain ⟨s, m, hm, rfl⟩ := exists_eq_finite h
  rw [rank_finite, natAbs_applySign]
  exact hm.1

theorem rank_infinity (s : Bool) : (infinity s : Binary f).rank = applySign s (2 ^ f.topBits) := rfl

theorem natAbs_rank_le (x : Binary f) : x.rank.natAbs ≤ 2 ^ f.topBits := by
  cases x with
  | nan => exact Nat.zero_le _
  | infinity s => exact Nat.le_of_eq (natAbs_applySign s _)
  | finite s m hm =>
    rw [rank_finite, natAbs_applySign]
    exact Nat.le_of_lt hm.1

/-! ## The larger of two numbers -/

theorem maxNum_of_isNaN_left (hx : x.isNaN = true) : maxNum x y = y := by
  unfold maxNum
  split
  · next hy =>
    cases x <;> cases y <;> simp_all [isNaN]
  · rw [if_neg]
    intro h
    simp [h.2.1] at hx

theorem isNaN_maxNum (hy : y.isNaN = false) : (maxNum x y).isNaN = false := by
  unfold maxNum
  rw [hy]
  simp only [Bool.false_eq_true, if_false]
  split
  · next h => exact h.2.1
  · exact hy

theorem rank_maxNum (hx : x.isNaN = false) (hy : y.isNaN = false) :
    (maxNum x y).rank = max x.rank y.rank := by
  unfold maxNum
  rw [hy]
  simp only [Bool.false_eq_true, if_false]
  split
  · next h =>
    have := h.2.2
    omega
  · next h =>
    have := (le_of_not_lt hx hy h).2.2
    omega

theorem le_maxNum_right (hy : y.isNaN = false) : y ≤ maxNum x y := by
  cases hx : x.isNaN
  · refine ⟨hy, isNaN_maxNum hy, ?_⟩
    rw [rank_maxNum hx hy]
    omega
  · rw [maxNum_of_isNaN_left hx]
    exact le_refl hy

theorem le_maxNum_left (hx : x.isNaN = false) (hy : y.isNaN = false) : x ≤ maxNum x y := by
  refine ⟨hx, isNaN_maxNum hy, ?_⟩
  rw [rank_maxNum hx hy]
  omega

/-- A bound of the second number that also bounds the first, if that is a number. -/
theorem maxNum_le (hx : x.isNaN = false → x ≤ z) (hy : y ≤ z) : maxNum x y ≤ z := by
  cases hn : x.isNaN
  · refine ⟨isNaN_maxNum hy.1, hy.2.1, ?_⟩
    rw [rank_maxNum hn hy.1]
    have := (hx hn).2.2
    have := hy.2.2
    omega
  · rw [maxNum_of_isNaN_left hn]
    exact hy

/-! ## The smaller of two numbers -/

theorem minNum_of_isNaN_left (hx : x.isNaN = true) : minNum x y = y := by
  unfold minNum
  split
  · next hy =>
    cases x <;> cases y <;> simp_all [isNaN]
  · rw [if_neg]
    intro h
    simp [h.1] at hx

theorem isNaN_minNum (hy : y.isNaN = false) : (minNum x y).isNaN = false := by
  unfold minNum
  rw [hy]
  simp only [Bool.false_eq_true, if_false]
  split
  · next h => exact h.1
  · exact hy

theorem rank_minNum (hx : x.isNaN = false) (hy : y.isNaN = false) :
    (minNum x y).rank = min x.rank y.rank := by
  unfold minNum
  rw [hy]
  simp only [Bool.false_eq_true, if_false]
  split
  · next h =>
    have := h.2.2
    omega
  · next h =>
    have := (le_of_not_lt hy hx h).2.2
    omega

theorem isFinite_minNum (hx : x.isFinite) (hy : y.isFinite) : (minNum x y).isFinite := by
  unfold minNum
  split
  · exact hx
  · split
    · exact hx
    · exact hy

theorem minNum_le_right (hy : y.isNaN = false) : minNum x y ≤ y := by
  cases hx : x.isNaN
  · refine ⟨isNaN_minNum hy, hy, ?_⟩
    rw [rank_minNum hx hy]
    omega
  · rw [minNum_of_isNaN_left hx]
    exact le_refl hy

theorem minNum_le_left (hx : x.isNaN = false) (hy : y.isNaN = false) : minNum x y ≤ x := by
  refine ⟨isNaN_minNum hy, hx, ?_⟩
  rw [rank_minNum hx hy]
  omega

theorem le_minNum (hx : x.isNaN = false → z ≤ x) (hy : z ≤ y) : z ≤ minNum x y := by
  cases hn : x.isNaN
  · refine ⟨hy.1, isNaN_minNum hy.2.1, ?_⟩
    rw [rank_minNum hn hy.2.1]
    have := (hx hn).2.2
    have := hy.2.2
    omega
  · rw [minNum_of_isNaN_left hn]
    exact hy

/-! ## Numbers of one rank -/

/-- Only zero has two signs, so a rank other than zero belongs to one number. -/
theorem eq_of_rank_eq (hx : x.isNaN = false) (hy : y.isNaN = false) (h : x.rank = y.rank)
    (h0 : x.rank ≠ 0) : x = y := by
  have hbound : ∀ {z : Binary f}, z.isFinite → z.rank.natAbs < 2 ^ f.topBits := natAbs_rank_lt
  cases x with
  | nan => cases hx
  | infinity s =>
    cases y with
    | nan => cases hy
    | infinity t =>
      have htop : (2 : Nat) ^ f.topBits ≠ 0 := Nat.ne_of_gt (Nat.two_pow_pos _)
      rw [rank_infinity, rank_infinity] at h
      generalize (2 : Nat) ^ f.topBits = top at h htop
      cases s <;> cases t <;> simp [applySign] at h ⊢ <;> omega
    | finite t n hn =>
      have hlt := hbound (z := finite t n hn) rfl
      rw [← h, rank_infinity, natAbs_applySign] at hlt
      exact absurd hlt (Nat.lt_irrefl _)
  | finite s m hm =>
    cases y with
    | nan => cases hy
    | infinity t =>
      have hlt := hbound (z := finite s m hm) rfl
      rw [h, rank_infinity, natAbs_applySign] at hlt
      exact absurd hlt (Nat.lt_irrefl _)
    | finite t n hn =>
      rw [rank_finite, rank_finite] at h
      rw [rank_finite] at h0
      have hmn : m = n := by
        rw [← natAbs_applySign s m, ← natAbs_applySign t n, h]
      subst hmn
      cases s <;> cases t <;> simp [applySign] at h h0 ⊢ <;> omega

/-- The larger of two numbers is the second one, or it is above a second one that is not below
zero; so the first one counts by its rank only. -/
theorem maxNum_eq_of_rank_eq (hn : x.isNaN = y.isNaN) (h : x.rank = y.rank)
    (hz : z.isNaN = false) (h0 : 0 ≤ z.rank) : maxNum x z = maxNum y z := by
  cases hx : x.isNaN with
  | true =>
    rw [maxNum_of_isNaN_left hx, maxNum_of_isNaN_left (hn.symm.trans hx)]
  | false =>
    have hy := hn.symm.trans hx
    unfold maxNum
    rw [hz, if_neg Bool.false_ne_true, if_neg Bool.false_ne_true]
    by_cases hlt : z < x
    · have hrank := hlt.2.2
      rw [if_pos hlt, if_pos ⟨hz, hy, by omega⟩]
      exact eq_of_rank_eq hx hy h (by omega)
    · have hlt' : ¬z < y := fun h' => hlt ⟨hz, hx, by have := h'.2.2; omega⟩
      rw [if_neg hlt, if_neg hlt']

/-! ## Moving into a range -/

/-- The number that a clamp into a range that is not empty yields. -/
theorem clamp_eq_ok (h : low ≤ high) :
    x.clamp low high = .ok (if x < low then low else if high < x then high else x) :=
  if_pos h

theorem clamp_mem (h : low ≤ high) (hx : x.isNaN = false) :
    ∃ y, x.clamp low high = .ok y ∧ low ≤ y ∧ y ≤ high := by
  refine ⟨_, clamp_eq_ok h, ?_⟩
  split
  · exact ⟨le_refl h.1, h⟩
  · next hlow =>
    split
    · exact ⟨h, le_refl h.2.1⟩
    · next hhigh => exact ⟨le_of_not_lt h.1 hx hlow, le_of_not_lt hx h.2.1 hhigh⟩

/-- A clamp keeps what is not a number, and yields a number from any other. -/
theorem isNaN_of_clamp (h : low ≤ high) (hy : x.clamp low high = .ok y) : y.isNaN = x.isNaN := by
  cases hx : x.isNaN with
  | true =>
    have hlow : ¬x < low := fun hlt => by simp [hlt.1] at hx
    have hhigh : ¬high < x := fun hlt => by simp [hlt.2.1] at hx
    rw [clamp_eq_ok h, if_neg hlow, if_neg hhigh] at hy
    rwa [← Except.ok.inj hy]
  | false =>
    obtain ⟨y', hy', hlow, -⟩ := clamp_mem h hx
    rw [hy] at hy'
    rw [Except.ok.inj hy']
    exact isNaN_right_of_le hlow

end Binary

end ChassisCooling
