import ChassisCooling.Proofs.Binary.Arithmetic
import Mathlib.Tactic.Ring

/-!
# How near a rounded magnitude is

Rounding changes a magnitude by half of its last place at most. So it takes away no more than one
part in `2 ^ precision`, unless there are fewer digits than that to begin with, and it takes away
all of what is less than half a place above a number of the format.

* `two_mul_le_divideToEven`: the nearest natural number is no more than a half too low.
* `Format.mul_le_roundSteps`: the relative bound.
* `Format.roundSteps_add_of_lt`, `Binary.rank_add_of_lt`: what is less than half a place leaves no
  trace.
-/

namespace ChassisCooling

attribute [local instance] naturalPower

theorem two_mul_le_divideToEven (n : Nat) {d : Nat} (hd : 0 < d) :
    2 * n ≤ (2 * divideToEven n d + 1) * d := by
  have hn : n = d * (n / d) + n % d := (Nat.div_add_mod n d).symm
  have hr : n % d < d := Nat.mod_lt n hd
  have low : ∀ {k}, n / d ≤ k → 2 * (n % d) ≤ d ∨ n / d + 1 ≤ k → 2 * n ≤ (2 * k + 1) * d := by
    intro k hk h
    have hkd : d * (n / d) ≤ d * k := Nat.mul_le_mul_left d hk
    have hexp : (2 * k + 1) * d = 2 * (d * k) + d := by ring
    rw [hexp]
    rcases h with h | h
    · omega
    · have hsucc : d * (n / d + 1) ≤ d * k := Nat.mul_le_mul_left d h
      rw [Nat.mul_succ] at hsucc
      omega
  unfold divideToEven
  simp only
  split
  · next h => exact low (Nat.le_refl _) (.inl (Nat.le_of_lt h))
  · split
    · exact low (Nat.le_succ _) (.inr (Nat.le_refl _))
    · exact low (Nat.le_add_right _ _) (.inl (by omega))

/-- What is left over below a half is rounded away. -/
theorem divideToEven_mul_add (k : Nat) {d r : Nat} (hr : 2 * r < d) :
    divideToEven (k * d + r) d = k := by
  have hdiv : (k * d + r) / d = k := by
    rw [Nat.mul_comm, Nat.mul_add_div (by omega), Nat.div_eq_of_lt (by omega), Nat.add_zero]
  have hmod : (k * d + r) % d = r := by
    rw [Nat.mul_comm, Nat.mul_add_mod, Nat.mod_eq_of_lt (by omega)]
  unfold divideToEven
  simp only [hdiv, hmod]
  rw [if_pos hr]

namespace Format

variable {f : Format}

theorem excess_le_of_lt {q e : Nat} (h : q < 2 ^ (f.precision + e)) : f.excess q ≤ e := by
  by_cases hq : q = 0
  · subst hq
    have := f.precision_pos
    unfold excess
    simp only [Nat.log2_zero]
    omega
  · have := (Nat.log2_lt hq).2 h
    unfold excess
    omega

/-- Where the whole part alone has more digits than the precision, the last place is two or more. -/
theorem two_mul_unit_le {m : Nat} (h : 2 ^ f.precision * f.unit ≤ m) :
    2 * f.unit ≤ 2 ^ f.excess m := by
  unfold unit at h ⊢
  rw [← Nat.pow_add] at h
  have hm : m ≠ 0 := by
    have := Nat.two_pow_pos (f.precision + f.stepBits)
    omega
  have hlog : f.precision + f.stepBits ≤ m.log2 := (Nat.le_log2 hm).2 h
  rw [← Nat.pow_succ']
  apply Nat.pow_le_pow_right (by decide)
  unfold excess
  omega

/-- A magnitude of the format, with less than half of its last place on top. -/
theorem roundSteps_add_of_lt {m r : Nat} (hm : 2 ^ f.excess m ∣ m)
    (hr : 2 * r < 2 ^ f.excess m) : f.roundSteps (m + r) 1 = m := by
  obtain ⟨k, hk⟩ := hm
  have hlt := lt_two_pow_excess f m
  -- The sum has as many digits as the magnitude.
  have hexcess : f.excess (m + r) = f.excess m := by
    apply Nat.le_antisymm
    · apply excess_le_of_lt
      generalize f.excess m = e at *
      rw [Nat.pow_add] at hlt ⊢
      rw [hk, Nat.mul_comm] at hlt
      have hk' : k + 1 ≤ 2 ^ f.precision := Nat.lt_of_mul_lt_mul_right hlt
      calc m + r < 2 ^ e * k + 2 ^ e := by omega
        _ = (k + 1) * 2 ^ e := by rw [Nat.succ_mul, Nat.mul_comm]
        _ ≤ 2 ^ f.precision * 2 ^ e := Nat.mul_le_mul_right _ hk'
    · exact f.excess_mono (Nat.le_add_right m r)
  unfold roundSteps
  simp only [Nat.div_one, Nat.one_mul]
  rw [hexcess]
  generalize f.excess m = e at *
  have hsum : m + r = k * 2 ^ e + r := by rw [hk, Nat.mul_comm]
  rw [hsum, divideToEven_mul_add k hr, Nat.mul_comm, ← hk]

/-- Rounding takes away no more than one part in `2 ^ precision` of a quotient with so many
digits. -/
theorem mul_le_roundSteps {n d : Nat} (hd : 0 < d) (h : n = 0 ∨ 2 ^ (f.precision - 1) * d ≤ n) :
    n * (2 ^ f.precision - 1) ≤ f.roundSteps n d * d * 2 ^ f.precision := by
  rcases h with rfl | h
  · simp
  have hp := f.precision_pos
  have hbits : 2 ^ (f.precision - 1 + f.excess (n / d)) * d ≤ n := by
    rw [← Nat.le_div_iff_mul_le hd] at h ⊢
    rcases Nat.eq_zero_or_pos (f.excess (n / d)) with he | he
    · rwa [he]
    · exact two_pow_le_of_excess_pos he
  have htwo : 2 ^ f.precision = 2 * 2 ^ (f.precision - 1) := by
    rw [← Nat.pow_succ', Nat.succ_eq_add_one, Nat.sub_add_cancel hp]
  have hhalf := two_mul_le_divideToEven n
    (Nat.mul_pos hd (Nat.two_pow_pos (f.excess (n / d))))
  unfold roundSteps
  simp only
  rw [htwo, Nat.mul_sub_one]
  rw [Nat.pow_add] at hbits
  generalize f.excess (n / d) = e at *
  generalize divideToEven n (d * 2 ^ e) = k at *
  generalize 2 ^ (f.precision - 1) = bound at *
  generalize 2 ^ e = place at *
  -- Half a place is as much as the last digit of the quotient, or less.
  have hscaled := Nat.mul_le_mul_right bound hhalf
  have hleft : 2 * n * bound = n * (2 * bound) := by ring
  have hright : (2 * k + 1) * (d * place) * bound =
      k * place * d * (2 * bound) + bound * place * d := by ring
  omega

theorem nearest_eq_roundSteps {n d : Nat} (h : f.nearest n d < (2 ^ f.topBits : Nat)) :
    f.nearest n d = f.roundSteps n d := by
  rw [nearest_natCast] at h ⊢
  omega

/-- The relative bound for ranks. -/
theorem mul_le_nearest {n d : Nat} (hd : 0 < d) (h : n = 0 ∨ 2 ^ (f.precision - 1) * d ≤ n)
    (hfin : f.nearest n d < (2 ^ f.topBits : Nat)) :
    (n : Int) * (2 ^ f.precision - 1 : Nat) ≤ f.nearest n d * d * (2 ^ f.precision : Nat) := by
  rw [nearest_eq_roundSteps hfin]
  exact_mod_cast mul_le_roundSteps hd h

end Format

namespace Binary

variable {f : Format} {x y : Binary f}

/-- A term below half of the last place of the other one leaves no trace in the sum. -/
theorem rank_add_of_lt (hx : x.isFinite) (hy : y.isFinite) (h0 : ofNat 0 ≤ x) (h0' : ofNat 0 ≤ y)
    (h : 2 * y.rank.toNat < 2 ^ f.excess x.rank.toNat) : (x + y).rank = x.rank := by
  obtain ⟨m, hm⟩ := Int.eq_ofNat_of_zero_le (zero_le_iff.1 h0).2
  obtain ⟨r, hr⟩ := Int.eq_ofNat_of_zero_le (zero_le_iff.1 h0').2
  have hfits : f.Fits m := by
    obtain ⟨s, k, hk, rfl⟩ := exists_eq_finite hx
    have hkm : k = m := by rw [← natAbs_applySign s k, ← rank_finite s k hk, hm, Int.natAbs_natCast]
    rwa [← hkm]
  rw [hm, hr, Int.toNat_natCast, Int.toNat_natCast] at h
  rw [rank_add hx hy, hm, hr, ← Int.natCast_add, Format.nearest_natCast,
    Format.roundSteps_add_of_lt hfits.2 h, Nat.min_eq_left (Nat.le_of_lt hfits.1)]

end Binary

end ChassisCooling
