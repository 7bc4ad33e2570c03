import ChassisCooling.Binary.Arithmetic

/-!
# Rounding keeps the order

Rounding to nearest is one function from quotients to ranks. It never reverses an order, and it
leaves alone what the format holds exactly; all that is known about the order of computed numbers
follows from these two facts.

* `Format.roundSteps_mono`, `Format.roundSteps_mul`: the two facts for magnitudes.
* `Format.nearest`: the rank of the number nearest to a quotient of an integer by a natural number.
* `Format.nearest_mono`, `Format.nearest_mul`: the two facts for ranks.
-/

namespace ChassisCooling

attribute [local instance] naturalPower

/-! ## The nearest natural number -/

theorem div_le_divideToEven (n d : Nat) : n / d ≤ divideToEven n d := by
  unfold divideToEven
  simp only
  split
  · exact Nat.le_refl _
  · split <;> omega

theorem divideToEven_le_succ (n d : Nat) : divideToEven n d ≤ n / d + 1 := by
  unfold divideToEven
  simp only
  split
  · omega
  · split <;> omega

/-- A whole quotient is its own nearest number. -/
theorem divideToEven_mul (k : Nat) {d : Nat} (hd : 0 < d) : divideToEven (k * d) d = k := by
  unfold divideToEven
  simp [Nat.mul_div_cancel k hd, hd]

theorem div_le_div_of_mul_le {n d n' d' : Nat} (hd : 0 < d) (hd' : 0 < d')
    (h : n * d' ≤ n' * d) : n / d ≤ n' / d' := by
  rw [Nat.le_div_iff_mul_le hd']
  apply Nat.le_of_mul_le_mul_right _ hd
  calc n / d * d' * d = n / d * d * d' := Nat.mul_right_comm _ _ _
    _ ≤ n * d' := Nat.mul_le_mul_right d' (Nat.div_mul_le_self n d)
    _ ≤ n' * d := h

/-- Quotients with the same whole part are in the order of what remains. -/
theorem mod_mul_le_of_div_eq {n d n' d' : Nat} (h : n * d' ≤ n' * d) (hq : n / d = n' / d') :
    n % d * d' ≤ n' % d' * d := by
  have e : n * d' = n / d * (d * d') + n % d * d' := by
    conv => lhs; rw [← Nat.div_add_mod n d]
    rw [Nat.add_mul, Nat.mul_comm d, Nat.mul_assoc]
  have e' : n' * d = n' / d' * (d * d') + n' % d' * d := by
    conv => lhs; rw [← Nat.div_add_mod n' d']
    rw [Nat.add_mul, Nat.mul_comm d', Nat.mul_assoc, Nat.mul_comm d']
  rw [← hq] at e'
  omega

theorem divideToEven_mono {n d n' d' : Nat} (hd : 0 < d) (hd' : 0 < d')
    (h : n * d' ≤ n' * d) : divideToEven n d ≤ divideToEven n' d' := by
  rcases Nat.lt_or_eq_of_le (div_le_div_of_mul_le hd hd' h) with hq | hq
  · exact Nat.le_trans (divideToEven_le_succ n d) (Nat.le_trans hq (div_le_divideToEven n' d'))
  · -- The whole parts agree, so the halves decide.
    have hr := mod_mul_le_of_div_eq h hq
    have hle : d ≤ 2 * (n % d) → d' ≤ 2 * (n' % d') := fun hc => by
      apply Nat.le_of_mul_le_mul_right _ hd
      have := Nat.mul_le_mul_right d' hc
      rw [Nat.mul_assoc] at this ⊢
      rw [Nat.mul_comm d' d]
      omega
    have hlt : d < 2 * (n % d) → d' < 2 * (n' % d') := fun hc => by
      apply Nat.lt_of_mul_lt_mul_right (a := d)
      have := Nat.mul_lt_mul_of_pos_right hc hd'
      rw [Nat.mul_assoc] at this ⊢
      rw [Nat.mul_comm d' d]
      omega
    unfold divideToEven
    simp only
    rw [hq]
    split
    · split
      · exact Nat.le_refl _
      · split <;> omega
    · split <;> split <;> (try split) <;> omega

/-- The nearest number to a quotient is zero up to a half, which goes to the even zero. -/
theorem divideToEven_pos_iff {n d : Nat} (hd : 0 < d) : 0 < divideToEven n d ↔ d < 2 * n := by
  unfold divideToEven
  simp only
  rcases Nat.lt_or_ge n d with h | h
  · rw [Nat.div_eq_of_lt h, Nat.mod_eq_of_lt h]
    split
    · omega
    · split <;> omega
  · have hq : 0 < n / d := Nat.div_pos h hd
    split
    · omega
    · split <;> omega

namespace Format

/-! ## The nearest magnitude -/

theorem excess_mono (f : Format) {q q' : Nat} (h : q ≤ q') : f.excess q ≤ f.excess q' := by
  by_cases hq : q = 0
  · subst hq
    have := f.precision_pos
    unfold excess
    simp only [Nat.log2_zero]
    omega
  · have hq' : q' ≠ 0 := by omega
    have : q.log2 ≤ q'.log2 :=
      (Nat.le_log2 hq').2 (Nat.le_trans (Nat.log2_self_le hq) h)
    unfold excess
    omega

/-- A magnitude with excess bits has all significant bits. -/
theorem two_pow_le_of_excess_pos {f : Format} {q : Nat} (h : 0 < f.excess q) :
    2 ^ (f.precision - 1 + f.excess q) ≤ q := by
  have hp := f.precision_pos
  have hq : q ≠ 0 := by
    rintro rfl
    unfold excess at h
    simp only [Nat.log2_zero] at h
    omega
  have : f.precision - 1 + f.excess q = q.log2 := by
    unfold excess at h ⊢
    omega
  rw [this]
  exact Nat.log2_self_le hq

/-- What the format holds below a bound stays one place below it, where the bound is a whole
number of places. -/
theorem add_place_le_of_lt {f : Format} {s b e : Nat} (hs : f.Fits s) (hlt : s < b)
    (hb : 2 ^ e ∣ b) (hbig : 2 ^ (f.precision - 1 + e) + 2 ^ e ≤ b) : s + 2 ^ e ≤ b := by
  rcases Nat.lt_or_ge s (2 ^ (f.precision - 1 + e)) with h | h
  · omega
  · -- A magnitude this large ends at the same place or at a higher one.
    have hs0 : s ≠ 0 := by
      have := Nat.two_pow_pos (f.precision - 1 + e)
      omega
    have hlog : f.precision - 1 + e ≤ s.log2 := (Nat.le_log2 hs0).2 h
    have hplace : e ≤ f.excess s := by
      unfold excess
      omega
    have hdvd : 2 ^ e ∣ s := Nat.dvd_trans (Nat.pow_dvd_pow 2 hplace) hs.2
    have := Nat.le_of_dvd (by omega) (Nat.dvd_sub hb hdvd)
    omega

theorem roundSteps_le_two_pow (f : Format) (n : Nat) {d : Nat} (hd : 0 < d) :
    f.roundSteps n d ≤ 2 ^ (f.precision + f.excess (n / d)) := by
  have h := (Nat.div_lt_iff_lt_mul hd).1 (lt_two_pow_excess f (n / d))
  rw [Nat.pow_add, Nat.mul_assoc, Nat.mul_comm _ d] at h
  have := divideToEven_le (Nat.mul_pos hd (Nat.two_pow_pos _)) h
  unfold roundSteps
  rw [Nat.pow_add]
  exact Nat.mul_le_mul_right _ this

theorem two_pow_le_roundSteps (f : Format) {n d : Nat}
    (h : 0 < f.excess (n / d)) : 2 ^ (f.precision - 1 + f.excess (n / d)) ≤ f.roundSteps n d := by
  have hq := two_pow_le_of_excess_pos h
  unfold roundSteps
  simp only
  generalize f.excess (n / d) = e at hq
  rw [Nat.pow_add] at hq ⊢
  apply Nat.mul_le_mul_right
  apply Nat.le_trans _ (div_le_divideToEven _ _)
  rw [← Nat.div_div_eq_div_mul]
  exact (Nat.le_div_iff_mul_le (Nat.two_pow_pos e)).2 hq

/-- Rounding never reverses the order of two quotients. -/
theorem roundSteps_mono (f : Format) {n d n' d' : Nat} (hd : 0 < d) (hd' : 0 < d')
    (h : n * d' ≤ n' * d) : f.roundSteps n d ≤ f.roundSteps n' d' := by
  rcases Nat.lt_or_eq_of_le (f.excess_mono (div_le_div_of_mul_le hd hd' h)) with he | he
  · -- A binade apart: a power of two lies between the results.
    have hp := f.precision_pos
    calc f.roundSteps n d ≤ 2 ^ (f.precision + f.excess (n / d)) := f.roundSteps_le_two_pow n hd
      _ ≤ 2 ^ (f.precision - 1 + f.excess (n' / d')) :=
        Nat.pow_le_pow_right (by omega) (by omega)
      _ ≤ f.roundSteps n' d' := f.two_pow_le_roundSteps (by omega)
  · unfold roundSteps
    simp only
    rw [he]
    generalize f.excess (n' / d') = e
    apply Nat.mul_le_mul_right
    have hpos : 0 < 2 ^ e := Nat.two_pow_pos e
    apply divideToEven_mono (Nat.mul_pos hd hpos) (Nat.mul_pos hd' hpos)
    rw [← Nat.mul_assoc, ← Nat.mul_assoc]
    exact Nat.mul_le_mul_right _ h

/-- A magnitude that the format holds is its own rounding. -/
theorem roundSteps_mul {f : Format} {m d : Nat} (hm : 2 ^ f.excess m ∣ m) (hd : 0 < d) :
    f.roundSteps (m * d) d = m := by
  unfold roundSteps
  simp only
  rw [Nat.mul_div_cancel m hd]
  obtain ⟨k, hk⟩ := hm
  have : m * d = k * (d * 2 ^ f.excess m) := by
    conv => lhs; rw [hk]
    rw [Nat.mul_comm (2 ^ _), Nat.mul_assoc, Nat.mul_comm d]
  rw [this, divideToEven_mul k (Nat.mul_pos hd (Nat.two_pow_pos _)), Nat.mul_comm, ← hk]

@[simp] theorem roundSteps_zero (f : Format) (d : Nat) : f.roundSteps 0 d = 0 := by
  unfold roundSteps divideToEven
  simp

/-! ## The nearest rank -/

/-- The rank of the number nearest to `z / d` steps; an infinity stands at the bound of the
format. -/
def nearest (f : Format) (z : Int) (d : Nat) : Int :=
  Binary.applySign (z < 0) (min (f.roundSteps z.natAbs d) (2 ^ f.topBits))

theorem nearest_natCast (f : Format) (n d : Nat) :
    f.nearest n d = (min (f.roundSteps n d) (2 ^ f.topBits) : Nat) := by
  unfold nearest Binary.applySign
  have : ¬(n : Int) < 0 := by omega
  simp only [this, decide_false, Bool.false_eq_true, if_false, Int.natAbs_natCast]

theorem nearest_neg (f : Format) (z : Int) (d : Nat) : f.nearest (-z) d = -f.nearest z d := by
  unfold nearest Binary.applySign
  rw [Int.natAbs_neg]
  rcases Int.lt_trichotomy z 0 with h | rfl | h
  · have : ¬-z < 0 := by omega
    simp only [h, this, decide_true, decide_false, Bool.false_eq_true, if_true, if_false,
      Int.neg_neg]
  · simp
  · have h' : -z < 0 := by omega
    have : ¬z < 0 := by omega
    simp only [h', this, decide_true, decide_false, Bool.false_eq_true, if_true, if_false]

theorem nearest_zero (f : Format) (d : Nat) : f.nearest 0 d = 0 := by
  simp [nearest, Binary.applySign]

theorem nearest_applySign (f : Format) (negative : Bool) (n d : Nat) :
    f.nearest (Binary.applySign negative n) d =
      Binary.applySign negative (min (f.roundSteps n d) (2 ^ f.topBits)) := by
  cases negative
  · simp only [Binary.applySign, Bool.false_eq_true, if_false]
    exact nearest_natCast f n d
  · simp only [Binary.applySign, if_true]
    rw [nearest_neg, nearest_natCast]

theorem nearest_nonneg (f : Format) {z : Int} (d : Nat) (h : 0 ≤ z) : 0 ≤ f.nearest z d := by
  obtain ⟨n, rfl⟩ := Int.eq_ofNat_of_zero_le h
  rw [nearest_natCast]
  exact Int.natCast_nonneg _

/-- Rounding never reverses the order of two quotients. -/
theorem nearest_mono (f : Format) {z z' : Int} {d d' : Nat} (hd : 0 < d) (hd' : 0 < d')
    (h : z * d' ≤ z' * d) : f.nearest z d ≤ f.nearest z' d' := by
  have magnitudes : ∀ {n n' d d' : Nat}, 0 < d → 0 < d' → n * d' ≤ n' * d →
      f.nearest n d ≤ f.nearest n' d' := by
    intro n n' d d' hd hd' h
    have := f.roundSteps_mono hd hd' h
    rw [nearest_natCast, nearest_natCast]
    omega
  rcases Int.le_total 0 z with hz | hz
  · have hz' : 0 ≤ z' := by
      have : 0 ≤ z' * d := Int.le_trans (Int.mul_nonneg hz (by omega)) h
      exact Int.nonneg_of_mul_nonneg_left this (by omega)
    obtain ⟨n, rfl⟩ := Int.eq_ofNat_of_zero_le hz
    obtain ⟨n', rfl⟩ := Int.eq_ofNat_of_zero_le hz'
    exact magnitudes hd hd' (by exact_mod_cast h)
  · obtain ⟨n, hn⟩ := Int.eq_ofNat_of_zero_le (show 0 ≤ -z by omega)
    have hneg : f.nearest z d = -f.nearest n d := by rw [← hn, nearest_neg, Int.neg_neg]
    rcases Int.le_total 0 z' with hz' | hz'
    · have := f.nearest_nonneg d' hz'
      have := f.nearest_nonneg d (show 0 ≤ (n : Int) by omega)
      omega
    · obtain ⟨n', hn'⟩ := Int.eq_ofNat_of_zero_le (show 0 ≤ -z' by omega)
      have hneg' : f.nearest z' d' = -f.nearest n' d' := by
        rw [← hn', nearest_neg, Int.neg_neg]
      have : f.nearest n' d' ≤ f.nearest n d := by
        apply magnitudes hd' hd
        have e : -z * d' = -(z * d') := Int.neg_mul _ _
        have e' : -z' * d = -(z' * d) := Int.neg_mul _ _
        rw [hn] at e
        rw [hn'] at e'
        have : (n' : Int) * d ≤ n * d' := by omega
        exact_mod_cast this
      omega

theorem applySign_mul_natCast (negative : Bool) (m d : Nat) :
    Binary.applySign negative m * d = Binary.applySign negative (m * d) := by
  cases negative with
  | false => exact (Int.natCast_mul m d).symm
  | true =>
    show -(m : Int) * d = -((m * d : Nat) : Int)
    rw [Int.neg_mul, Int.natCast_mul]

/-- A magnitude that the format holds is its own rounding, with either sign. -/
theorem nearest_mul {f : Format} {m d : Nat} (hm : f.Fits m) (hd : 0 < d) (negative : Bool) :
    f.nearest (Binary.applySign negative m * d) d = Binary.applySign negative m := by
  rw [applySign_mul_natCast, nearest_applySign, roundSteps_mul hm.2 hd,
    Nat.min_eq_left (Nat.le_of_lt hm.1)]

/-- One step is never rounded to nothing. -/
theorem nearest_one_pos (f : Format) : 0 < f.nearest 1 1 := by
  have h : f.roundSteps (1 * 1) 1 = 1 := by
    apply roundSteps_mul _ Nat.one_pos
    have := f.precision_pos
    have : f.excess 1 = 0 := by
      unfold excess
      rw [show Nat.log2 1 = 0 from rfl]
      omega
    rw [this]
    exact Nat.one_dvd 1
  rw [Nat.mul_one] at h
  have := Nat.two_pow_pos f.topBits
  rw [show (1 : Int) = (1 : Nat) from rfl, nearest_natCast, h]
  generalize 2 ^ f.topBits = top at *
  omega

end Format

end ChassisCooling
