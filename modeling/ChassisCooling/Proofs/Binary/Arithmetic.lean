import ChassisCooling.Proofs.Binary.Order

/-!
# Arithmetic keeps the order

The rank of a sum, difference, product or quotient is the exact result's nearest rank. So each
operation is monotone in the arguments in which the exact one is.

* `Binary.rank_add`, `rank_sub`, `rank_mul`, `rank_div`, `rank_convert`: the ranks of results.
* `Binary.add_le_add`, `mul_le_mul_right`, `div_le_div_right`, …: monotone operations.
* `Binary.sub_pos`: different numbers have a difference that is not zero, however close they are.
-/

namespace ChassisCooling

attribute [local instance] naturalPower

namespace Binary

variable {f : Format} {x x' y y' : Binary f}

/-! ## Rounded numbers -/

@[simp] theorem isNaN_rounded (s : Bool) (n d : Nat) (hd : 0 < d) :
    (rounded s n d hd : Binary f).isNaN = false := by
  unfold rounded
  split <;> rfl

theorem rank_rounded (s : Bool) (n d : Nat) (hd : 0 < d) :
    (rounded s n d hd : Binary f).rank = f.nearest (applySign s n) d := by
  rw [Format.nearest_applySign]
  unfold rounded
  split
  · next h => rw [rank_finite, Nat.min_eq_left (Nat.le_of_lt h)]
  · next h => rw [rank_infinity, Nat.min_eq_right (Nat.le_of_not_lt h)]

/-- A number of steps that the format holds is its own nearest rank. -/
theorem nearest_rank (hx : x.isFinite) {d : Nat} (hd : 0 < d) :
    f.nearest (x.rank * d) d = x.rank := by
  obtain ⟨s, m, hm, rfl⟩ := exists_eq_finite hx
  rw [rank_finite]
  exact Format.nearest_mul hm hd s

theorem nearest_rank_one (hx : x.isFinite) : f.nearest x.rank 1 = x.rank := by
  have := nearest_rank hx Nat.one_pos
  rwa [Int.natCast_one, Int.mul_one] at this

/-- A number whose rank is inside the bound is finite. -/
theorem isFinite_of_natAbs_rank_lt (hx : x.isNaN = false)
    (h : x.rank.natAbs < 2 ^ f.topBits) : x.isFinite := by
  cases x with
  | finite s m hm => rfl
  | nan => simp [isNaN] at hx
  | infinity s =>
    rw [rank_infinity, natAbs_applySign] at h
    exact absurd h (Nat.lt_irrefl _)

/-- A number between finite numbers is finite. -/
theorem isFinite_of_le_of_le (hx : x.isFinite) (hx' : x'.isFinite) (h : x ≤ y) (h' : y ≤ x') :
    y.isFinite := by
  apply isFinite_of_natAbs_rank_lt h.2.1
  have := natAbs_rank_lt hx
  have := natAbs_rank_lt hx'
  have := h.2.2
  have := h'.2.2
  generalize 2 ^ f.topBits = top at *
  omega

theorem applySign_natAbs (z : Int) : applySign (z < 0) z.natAbs = z := by
  unfold applySign
  by_cases h : z < 0
  · rw [decide_eq_true h, if_pos rfl]
    omega
  · rw [decide_eq_false h, if_neg Bool.false_ne_true]
    omega

theorem rank_ofSteps (z : Int) : (ofSteps z : Binary f).rank = f.nearest z 1 := by
  unfold ofSteps
  rw [rank_rounded, applySign_natAbs]

@[simp] theorem isNaN_ofNat (n : Nat) : (ofNat n : Binary f).isNaN = false := isNaN_rounded ..

theorem rank_ofNat (n : Nat) : (ofNat n : Binary f).rank = f.nearest (n * f.unit : Nat) 1 :=
  rank_rounded false ..

@[simp] theorem rank_ofNat_zero : (ofNat 0 : Binary f).rank = 0 := by
  rw [rank_ofNat, Nat.zero_mul]
  exact f.nearest_zero 1

theorem isFinite_ofNat_zero : (ofNat 0 : Binary f).isFinite := by
  apply isFinite_of_natAbs_rank_lt (isNaN_ofNat 0)
  rw [rank_ofNat_zero]
  exact Nat.two_pow_pos _

theorem zero_le_iff : ofNat 0 ≤ x ↔ x.isNaN = false ∧ 0 ≤ x.rank := by
  simp [le_iff]

theorem le_zero_iff : x ≤ ofNat 0 ↔ x.isNaN = false ∧ x.rank ≤ 0 := by
  simp [le_iff]

theorem zero_lt_iff : ofNat 0 < x ↔ x.isNaN = false ∧ 0 < x.rank := by
  simp [lt_iff]

theorem lt_zero_iff : x < ofNat 0 ↔ x.isNaN = false ∧ x.rank < 0 := by
  simp [lt_iff]

theorem rank_eq_zero (h : ofNat 0 ≤ x) (h' : ¬ofNat 0 < x) : x.rank = 0 := by
  rw [zero_le_iff] at h
  rw [zero_lt_iff] at h'
  have : ¬0 < x.rank := fun hr => h' ⟨h.1, hr⟩
  omega

theorem ofNat_le_ofNat {m n : Nat} (h : m ≤ n) : (ofNat m : Binary f) ≤ ofNat n := by
  refine ⟨isNaN_ofNat m, isNaN_ofNat n, ?_⟩
  rw [rank_ofNat, rank_ofNat]
  apply f.nearest_mono Nat.one_pos Nat.one_pos
  have := Nat.mul_le_mul_right f.unit h
  omega

theorem zero_le_ofNat (n : Nat) : ofNat 0 ≤ (ofNat n : Binary f) := ofNat_le_ofNat n.zero_le

/-! ## Infinities -/

theorem rank_infinity_false : (infinity false : Binary f).rank = (2 ^ f.topBits : Nat) := rfl

theorem rank_infinity_true : (infinity true : Binary f).rank = -((2 ^ f.topBits : Nat) : Int) := rfl

theorem zero_lt_infinity : ofNat 0 < (infinity false : Binary f) := by
  rw [zero_lt_iff, rank_infinity_false]
  exact ⟨rfl, Int.natCast_pos.2 (Nat.two_pow_pos _)⟩

theorem not_infinity_lt (y : Binary f) : ¬infinity false < y := by
  rintro ⟨-, -, h⟩
  have := natAbs_rank_le y
  rw [rank_infinity_false] at h
  generalize 2 ^ f.topBits = top at *
  omega

theorem not_lt_neg_infinity (x : Binary f) : ¬x < infinity true := by
  rintro ⟨-, -, h⟩
  have := natAbs_rank_le x
  rw [rank_infinity_true] at h
  generalize 2 ^ f.topBits = top at *
  omega

theorem neg_infinity_le (hx : x.isNaN = false) : infinity true ≤ x :=
  le_of_not_lt rfl hx (not_lt_neg_infinity x)

theorem le_infinity (hx : x.isNaN = false) : x ≤ infinity false :=
  le_of_not_lt hx rfl (not_infinity_lt x)

theorem infinity_not_le (hx : x.isFinite) : ¬infinity false ≤ x := by
  intro h
  have := natAbs_rank_lt hx
  have hr := h.2.2
  rw [rank_infinity_false] at hr
  generalize 2 ^ f.topBits = top at *
  omega

theorem not_le_neg_infinity (hx : x.isFinite) : ¬x ≤ infinity true := by
  intro h
  have := natAbs_rank_lt hx
  have hr := h.2.2
  rw [rank_infinity_true] at hr
  generalize 2 ^ f.topBits = top at *
  omega

/-- An operation that keeps infinities and is monotone on finite numbers is monotone. -/
theorem mono_of_finite {g : Binary f → Binary f} (hinf : ∀ t, g (infinity t) = infinity t)
    (hfin : ∀ {x x' : Binary f}, x.isFinite → x'.isFinite → x ≤ x' → g x ≤ g x')
    (h : x ≤ x') : g x ≤ g x' := by
  have number : ∀ {x : Binary f}, x.isFinite → (g x).isNaN = false := fun hx =>
    (hfin hx hx (le_refl (isNaN_of_isFinite hx))).1
  cases x with
  | nan => simp [le_iff, isNaN] at h
  | infinity s =>
    cases s with
    | true =>
      rw [hinf]
      cases x' with
      | nan => simp [le_iff, isNaN] at h
      | infinity t => rw [hinf]; exact neg_infinity_le rfl
      | finite t n hn => exact neg_infinity_le (number rfl)
    | false =>
      cases x' with
      | nan => simp [le_iff, isNaN] at h
      | infinity t =>
        rw [hinf, hinf]
        exact h
      | finite t n hn => exact absurd h (infinity_not_le rfl)
  | finite s m hm =>
    cases x' with
    | nan => simp [le_iff, isNaN] at h
    | infinity t =>
      cases t with
      | true => exact absurd h (not_le_neg_infinity rfl)
      | false => rw [hinf]; exact le_infinity (number rfl)
    | finite t n hn => exact hfin rfl rfl h

/-! ## Negation -/

@[simp] theorem isNaN_neg (x : Binary f) : (-x).isNaN = x.isNaN := by cases x <;> rfl

@[simp] theorem isFinite_neg (x : Binary f) : (-x).isFinite = x.isFinite := by cases x <;> rfl

theorem applySign_not (s : Bool) (m : Nat) : applySign (!s) m = -applySign s m := by
  cases s <;> simp [applySign]

@[simp] theorem rank_neg (x : Binary f) : (-x).rank = -x.rank := by
  cases x with
  | nan => rfl
  | infinity s => exact applySign_not s _
  | finite s m h => exact applySign_not s m

/-! ## Sums and differences -/

theorem isNaN_add (hx : x.isFinite) (hy : y.isFinite) : (x + y).isNaN = false := by
  obtain ⟨s, m, hm, rfl⟩ := exists_eq_finite hx
  obtain ⟨t, n, hn, rfl⟩ := exists_eq_finite hy
  change (if applySign s m + applySign t n = 0 then signedZero (s && t)
    else ofSteps (applySign s m + applySign t n) : Binary f).isNaN = false
  split
  · rfl
  · exact isNaN_rounded ..

theorem rank_add (hx : x.isFinite) (hy : y.isFinite) :
    (x + y).rank = f.nearest (x.rank + y.rank) 1 := by
  obtain ⟨s, m, hm, rfl⟩ := exists_eq_finite hx
  obtain ⟨t, n, hn, rfl⟩ := exists_eq_finite hy
  rw [rank_finite, rank_finite]
  change (if applySign s m + applySign t n = 0 then signedZero (s && t)
    else ofSteps (applySign s m + applySign t n) : Binary f).rank = _
  generalize applySign s m + applySign t n = z
  split
  · next h =>
    subst h
    rw [f.nearest_zero]
    cases s && t <;> rfl
  · exact rank_ofSteps z

theorem sub_eq_add_neg (x y : Binary f) : x - y = x + -y := rfl

theorem isNaN_sub (hx : x.isFinite) (hy : y.isFinite) : (x - y).isNaN = false := by
  rw [sub_eq_add_neg]
  exact isNaN_add hx (by simpa using hy)

theorem rank_sub (hx : x.isFinite) (hy : y.isFinite) :
    (x - y).rank = f.nearest (x.rank - y.rank) 1 := by
  rw [sub_eq_add_neg, rank_add hx (by simpa using hy), rank_neg, Int.sub_eq_add_neg]

theorem add_le_add (hx : x.isFinite) (hy : y.isFinite) (hx' : x'.isFinite) (hy' : y'.isFinite)
    (h : x ≤ x') (h' : y ≤ y') : x + y ≤ x' + y' := by
  refine ⟨isNaN_add hx hy, isNaN_add hx' hy', ?_⟩
  rw [rank_add hx hy, rank_add hx' hy']
  apply f.nearest_mono Nat.one_pos Nat.one_pos
  have := h.2.2
  have := h'.2.2
  omega

theorem sub_le_sub_right (hx : x.isFinite) (hx' : x'.isFinite) (hy : y.isFinite) (h : x ≤ x') :
    x - y ≤ x' - y := by
  rw [sub_eq_add_neg, sub_eq_add_neg]
  have hy' : (-y).isFinite := by simpa using hy
  exact add_le_add hx hy' hx' hy' h (le_refl (isNaN_of_isFinite hy'))

/-- Differences from any one number keep the order, or there are none. -/
theorem sub_le_sub_right_or (hx : x.isFinite) (hx' : x'.isFinite) (h : x ≤ x') (y : Binary f) :
    x - y ≤ x' - y ∨ (x - y).isNaN = true ∧ (x' - y).isNaN = true := by
  obtain ⟨s, m, hm, rfl⟩ := exists_eq_finite hx
  obtain ⟨t, n, hn, rfl⟩ := exists_eq_finite hx'
  cases y with
  | nan => exact .inr ⟨rfl, rfl⟩
  | infinity u => exact .inl (le_refl (x := infinity (!u)) rfl)
  | finite u k hk => exact .inl (sub_le_sub_right rfl rfl rfl h)

theorem le_add_of_nonneg (hx : x.isFinite) (hy : y.isFinite) (h : ofNat 0 ≤ y) : x ≤ x + y := by
  refine ⟨isNaN_of_isFinite hx, isNaN_add hx hy, ?_⟩
  rw [rank_add hx hy]
  conv => lhs; rw [← nearest_rank_one hx]
  apply f.nearest_mono Nat.one_pos Nat.one_pos
  have := (zero_le_iff.1 h).2
  omega

theorem add_le_of_nonpos (hx : x.isFinite) (hy : y.isFinite) (h : y ≤ ofNat 0) : x + y ≤ x := by
  refine ⟨isNaN_add hx hy, isNaN_of_isFinite hx, ?_⟩
  rw [rank_add hx hy]
  conv => rhs; rw [← nearest_rank_one hx]
  apply f.nearest_mono Nat.one_pos Nat.one_pos
  have := (le_zero_iff.1 h).2
  omega

/-- Sums of numbers that are not negative are not negative, infinities included. -/
theorem add_nonneg (h : ofNat 0 ≤ x) (h' : ofNat 0 ≤ y) : ofNat 0 ≤ x + y := by
  cases x with
  | nan => simp [le_iff, isNaN] at h
  | infinity s =>
    cases s with
    | true => exact absurd h (not_le_neg_infinity isFinite_ofNat_zero)
    | false =>
      cases y with
      | nan => simp [le_iff, isNaN] at h'
      | infinity t =>
        cases t with
        | true => exact absurd h' (not_le_neg_infinity isFinite_ofNat_zero)
        | false => exact le_of_lt zero_lt_infinity
      | finite t n hn => exact le_of_lt zero_lt_infinity
  | finite s m hm =>
    cases y with
    | nan => simp [le_iff, isNaN] at h'
    | infinity t =>
      cases t with
      | true => exact absurd h' (not_le_neg_infinity isFinite_ofNat_zero)
      | false => exact le_of_lt zero_lt_infinity
    | finite t n hn => exact le_trans h (le_add_of_nonneg rfl rfl h')

/-- Numbers that differ have a difference that is not zero: a step at least. -/
theorem sub_pos (h : x < y) : ofNat 0 < y - x := by
  cases x with
  | nan => simp [lt_iff, isNaN] at h
  | infinity s =>
    cases s with
    | false => exact absurd h (not_infinity_lt y)
    | true =>
      cases y with
      | nan => simp [lt_iff, isNaN] at h
      | infinity t =>
        cases t with
        | false => exact zero_lt_infinity
        | true => exact absurd h (not_lt_neg_infinity _)
      | finite t n ht => exact zero_lt_infinity
  | finite s m hs =>
    cases y with
    | nan => simp [lt_iff, isNaN] at h
    | infinity t =>
      cases t with
      | false => exact zero_lt_infinity
      | true => exact absurd h (not_lt_neg_infinity _)
    | finite t n ht =>
      rw [zero_lt_iff, rank_sub rfl rfl]
      refine ⟨isNaN_sub rfl rfl, ?_⟩
      have hr := h.2.2
      calc (0 : Int) < f.nearest 1 1 := f.nearest_one_pos
        _ ≤ _ := f.nearest_mono Nat.one_pos Nat.one_pos (by omega)

/-! ## Products -/

theorem applySign_mul (s t : Bool) (m n : Nat) :
    applySign (s != t) (m * n) = applySign s m * applySign t n := by
  cases t with
  | false =>
    rw [Bool.bne_false, ← Format.applySign_mul_natCast]
    rfl
  | true =>
    rw [Bool.bne_true, applySign_not, ← Format.applySign_mul_natCast, ← Int.mul_neg]
    rfl

theorem mul_finite (s t : Bool) {m n : Nat} (hm : f.Fits m) (hn : f.Fits n) :
    finite s m hm * finite t n hn = rounded (s != t) (m * n) f.unit f.unit_pos := rfl

theorem isNaN_mul (hx : x.isFinite) (hy : y.isFinite) : (x * y).isNaN = false := by
  obtain ⟨s, m, hm, rfl⟩ := exists_eq_finite hx
  obtain ⟨t, n, hn, rfl⟩ := exists_eq_finite hy
  rw [mul_finite]
  exact isNaN_rounded ..

theorem rank_mul (hx : x.isFinite) (hy : y.isFinite) :
    (x * y).rank = f.nearest (x.rank * y.rank) f.unit := by
  obtain ⟨s, m, hm, rfl⟩ := exists_eq_finite hx
  obtain ⟨t, n, hn, rfl⟩ := exists_eq_finite hy
  rw [mul_finite, rank_rounded, applySign_mul, rank_finite, rank_finite]

theorem neg_mul_rank (hx : x.isFinite) (hy : y.isFinite) : (-x * y).rank = -(x * y).rank := by
  rw [rank_mul (by simpa using hx) hy, rank_mul hx hy, rank_neg, Int.neg_mul, f.nearest_neg]

theorem mul_comm (x y : Binary f) : x * y = y * x := by
  have sign : ∀ s t : Bool, (s != t) = (t != s) := by decide
  cases x with
  | nan => cases y <;> rfl
  | infinity s =>
    cases y with
    | nan => rfl
    | infinity t => exact congrArg infinity (sign s t)
    | finite t n hn =>
      change (if n = 0 then nan else infinity (s != t) : Binary f) =
        if n = 0 then nan else infinity (t != s)
      rw [sign s t]
  | finite s m hm =>
    cases y with
    | nan => rfl
    | infinity t =>
      change (if m = 0 then nan else infinity (s != t) : Binary f) =
        if m = 0 then nan else infinity (t != s)
      rw [sign s t]
    | finite t n hn => simp only [mul_finite, sign s t, Nat.mul_comm m n]

theorem mul_le_mul_right (hx : x.isFinite) (hx' : x'.isFinite) (hy : y.isFinite)
    (h0 : ofNat 0 ≤ y) (h : x ≤ x') : x * y ≤ x' * y := by
  refine ⟨isNaN_mul hx hy, isNaN_mul hx' hy, ?_⟩
  rw [rank_mul hx hy, rank_mul hx' hy]
  apply f.nearest_mono f.unit_pos f.unit_pos
  apply Int.mul_le_mul_of_nonneg_right _ (Int.natCast_nonneg _)
  exact Int.mul_le_mul_of_nonneg_right h.2.2 (zero_le_iff.1 h0).2

/-- A factor of at most one does not raise a number that is not negative. -/
theorem mul_le_of_le_one (hx : x.isFinite) (hy : y.isFinite) (h : ofNat 0 ≤ x)
    (h1 : y.rank ≤ f.unit) : x * y ≤ x := by
  refine ⟨isNaN_mul hx hy, isNaN_of_isFinite hx, ?_⟩
  rw [rank_mul hx hy]
  conv => rhs; rw [← nearest_rank hx f.unit_pos]
  apply f.nearest_mono f.unit_pos f.unit_pos
  apply Int.mul_le_mul_of_nonneg_right _ (Int.natCast_nonneg _)
  exact Int.mul_le_mul_of_nonneg_left h1 (zero_le_iff.1 h).2

/-- A factor from zero to one leaves a finite number finite. -/
theorem isFinite_mul_of_le_one (hx : x.isFinite) (hy : y.isFinite) (h0 : ofNat 0 ≤ y)
    (h1 : y.rank ≤ f.unit) : (x * y).isFinite := by
  have of_nonneg : ∀ {x : Binary f}, x.isFinite → ofNat 0 ≤ x → (x * y).isFinite := by
    intro x hx h
    apply isFinite_of_natAbs_rank_lt (isNaN_mul hx hy)
    have hle := (mul_le_of_le_one hx hy h h1).2.2
    have hnn : (0 : Int) ≤ (x * y).rank := by
      rw [rank_mul hx hy]
      exact f.nearest_nonneg _ (Int.mul_nonneg (zero_le_iff.1 h).2 (zero_le_iff.1 h0).2)
    have := natAbs_rank_lt hx
    generalize 2 ^ f.topBits = top at *
    omega
  by_cases h : 0 ≤ x.rank
  · exact of_nonneg hx (zero_le_iff.2 ⟨isNaN_of_isFinite hx, h⟩)
  · -- The product with the opposite number has the opposite rank.
    have hneg : (-x).isFinite := by simpa using hx
    have hpos : ofNat 0 ≤ -x := zero_le_iff.2 ⟨isNaN_of_isFinite hneg, by rw [rank_neg]; omega⟩
    have := natAbs_rank_lt (of_nonneg hneg hpos)
    rw [neg_mul_rank hx hy, Int.natAbs_neg] at this
    exact isFinite_of_natAbs_rank_lt (isNaN_mul hx hy) this

/-- An infinity stays what it is in a product with a finite number above zero. -/
theorem mul_infinity (hx : x.isFinite) (h : ofNat 0 < x) (t : Bool) :
    x * infinity t = infinity t := by
  obtain ⟨s, m, hm, rfl⟩ := exists_eq_finite hx
  have hpos := (zero_lt_iff.1 h).2
  rw [rank_finite] at hpos
  cases s with
  | true =>
    simp only [applySign, if_true] at hpos
    omega
  | false =>
    simp only [applySign, Bool.false_eq_true, if_false] at hpos
    change (if m = 0 then nan else infinity (false != t) : Binary f) = infinity t
    rw [if_neg (by omega), Bool.false_bne]

/-- A product with a finite number above zero is monotone in the other one, infinities included. -/
theorem mul_le_mul_left (hx : x.isFinite) (h0 : ofNat 0 < x) (h : y ≤ y') : x * y ≤ x * y' := by
  apply mono_of_finite (mul_infinity hx h0) _ h
  intro y y' hy hy' h
  refine ⟨isNaN_mul hx hy, isNaN_mul hx hy', ?_⟩
  rw [rank_mul hx hy, rank_mul hx hy']
  apply f.nearest_mono f.unit_pos f.unit_pos
  apply Int.mul_le_mul_of_nonneg_right _ (Int.natCast_nonneg _)
  exact Int.mul_le_mul_of_nonneg_left h.2.2 (Int.le_of_lt (zero_lt_iff.1 h0).2)

/-- A factor of at least one keeps a number on its side of zero. -/
theorem mul_neg_of_neg (hy : y.isFinite) (h1 : f.unit ≤ y.rank) (h : x < ofNat 0) :
    x * y < ofNat 0 := by
  have hx := (lt_zero_iff.1 h).2
  by_cases hfin : x.isFinite
  · rw [lt_zero_iff]
    refine ⟨isNaN_mul hfin hy, ?_⟩
    calc (x * y).rank = f.nearest (x.rank * y.rank) f.unit := rank_mul hfin hy
      _ ≤ f.nearest (x.rank * f.unit) f.unit := by
        apply f.nearest_mono f.unit_pos f.unit_pos
        apply Int.mul_le_mul_of_nonneg_right _ (Int.natCast_nonneg _)
        exact Int.mul_le_mul_of_nonpos_left (Int.le_of_lt hx) h1
      _ = x.rank := nearest_rank hfin f.unit_pos
      _ < 0 := hx
  · have hpos : ofNat 0 < y := by
      have := f.unit_pos
      exact zero_lt_iff.2 ⟨isNaN_of_isFinite hy, by omega⟩
    cases x with
    | nan => cases h.1
    | finite s m hm => cases hfin rfl
    | infinity s => rwa [mul_comm, mul_infinity hy hpos]

theorem mul_pos_of_pos (hy : y.isFinite) (h1 : f.unit ≤ y.rank) (h : ofNat 0 < x) :
    ofNat 0 < x * y := by
  have hx := (zero_lt_iff.1 h).2
  by_cases hfin : x.isFinite
  · rw [zero_lt_iff]
    refine ⟨isNaN_mul hfin hy, ?_⟩
    calc 0 < x.rank := hx
      _ = f.nearest (x.rank * f.unit) f.unit := (nearest_rank hfin f.unit_pos).symm
      _ ≤ f.nearest (x.rank * y.rank) f.unit := by
        apply f.nearest_mono f.unit_pos f.unit_pos
        apply Int.mul_le_mul_of_nonneg_right _ (Int.natCast_nonneg _)
        exact Int.mul_le_mul_of_nonneg_left h1 (Int.le_of_lt hx)
      _ = (x * y).rank := (rank_mul hfin hy).symm
  · have hpos : ofNat 0 < y := by
      have := f.unit_pos
      exact zero_lt_iff.2 ⟨isNaN_of_isFinite hy, by omega⟩
    cases x with
    | nan => cases h.2.1
    | finite s m hm => cases hfin rfl
    | infinity s => rwa [mul_comm, mul_infinity hy hpos]

/-- A number times zero is a number only if it is finite. -/
theorem isFinite_of_zero_mul (hx : x.isFinite) (h0 : x.rank = 0) (hn : (x * y).isNaN = false) :
    y.isFinite := by
  obtain ⟨s, m, hm, rfl⟩ := exists_eq_finite hx
  rw [rank_finite] at h0
  cases y with
  | nan => cases hn
  | finite t n ht => rfl
  | infinity t =>
    have hz : m = 0 := by cases s <;> simp [applySign] at h0 <;> exact h0
    subst hz
    cases hn

theorem rank_mul_zero (hx : x.isFinite) : (x * ofNat 0).rank = 0 := by
  rw [rank_mul hx isFinite_ofNat_zero, rank_ofNat_zero, Int.mul_zero, f.nearest_zero]

/-- A product with a finite number that is not negative has the sign of the other one, if it is a
number. -/
theorem mul_nonneg (hx : x.isFinite) (h0 : ofNat 0 ≤ x) (h : ofNat 0 ≤ y)
    (hn : (x * y).isNaN = false) : ofNat 0 ≤ x * y := by
  by_cases hpos : ofNat 0 < x
  · have := (mul_le_mul_left hx hpos h).2.2
    rw [rank_mul_zero hx] at this
    exact zero_le_iff.2 ⟨hn, this⟩
  · have hz := rank_eq_zero h0 hpos
    have hy := isFinite_of_zero_mul hx hz hn
    rw [zero_le_iff, rank_mul hx hy, hz, Int.zero_mul, f.nearest_zero]
    exact ⟨hn, Int.le_refl _⟩

theorem mul_nonpos (hx : x.isFinite) (h0 : ofNat 0 ≤ x) (h : y ≤ ofNat 0)
    (hn : (x * y).isNaN = false) : x * y ≤ ofNat 0 := by
  by_cases hpos : ofNat 0 < x
  · have := (mul_le_mul_left hx hpos h).2.2
    rw [rank_mul_zero hx] at this
    exact le_zero_iff.2 ⟨hn, this⟩
  · have hz := rank_eq_zero h0 hpos
    have hy := isFinite_of_zero_mul hx hz hn
    rw [le_zero_iff, rank_mul hx hy, hz, Int.zero_mul, f.nearest_zero]
    exact ⟨hn, Int.le_refl _⟩

/-! ## Quotients -/

theorem isPos_iff (hx : x.isFinite) : ofNat 0 < x ↔ ∃ m hm, 0 < m ∧ x = finite false m hm := by
  obtain ⟨s, m, hm, rfl⟩ := exists_eq_finite hx
  rw [zero_lt_iff, rank_finite]
  constructor
  · rintro ⟨-, h⟩
    cases s with
    | true =>
      simp only [applySign, if_true] at h
      omega
    | false =>
      simp only [applySign, Bool.false_eq_true, if_false] at h
      exact ⟨m, hm, by omega, rfl⟩
  · rintro ⟨n, hn, hpos, h⟩
    cases h
    exact ⟨rfl, by simpa [applySign] using hpos⟩

theorem div_finite (s : Bool) {m n : Nat} (hm : f.Fits m) (hn : f.Fits n) (h : 0 < n) :
    finite s m hm / finite false n hn = rounded s (m * f.unit) n h := by
  change (if hn : n = 0 then _ else rounded (s != false) (m * f.unit) n _ : Binary f) = _
  rw [dif_neg (by omega)]
  cases s <;> rfl

theorem isNaN_div (hx : x.isFinite) (hy : y.isFinite) (h : ofNat 0 < y) :
    (x / y).isNaN = false := by
  obtain ⟨s, m, hm, rfl⟩ := exists_eq_finite hx
  obtain ⟨n, hn, hpos, rfl⟩ := (isPos_iff hy).1 h
  rw [div_finite s hm hn hpos]
  exact isNaN_rounded ..

theorem rank_div (hx : x.isFinite) (hy : y.isFinite) (h : ofNat 0 < y) :
    (x / y).rank = f.nearest (x.rank * f.unit) y.rank.natAbs := by
  obtain ⟨s, m, hm, rfl⟩ := exists_eq_finite hx
  obtain ⟨n, hn, hpos, rfl⟩ := (isPos_iff hy).1 h
  rw [div_finite s hm hn hpos, rank_rounded, rank_finite, rank_finite, natAbs_applySign]
  rw [Format.applySign_mul_natCast]

theorem infinity_div (hy : y.isFinite) (h : ofNat 0 < y) (t : Bool) :
    infinity t / y = infinity t := by
  obtain ⟨n, hn, hpos, rfl⟩ := (isPos_iff hy).1 h
  cases t <;> rfl

/-- Dividing by a finite number above zero is monotone, infinities included. -/
theorem div_le_div_right (hy : y.isFinite) (h0 : ofNat 0 < y) (h : x ≤ x') : x / y ≤ x' / y := by
  apply mono_of_finite (g := (· / y)) (infinity_div hy h0) _ h
  intro x x' hx hx' h
  refine ⟨isNaN_div hx hy h0, isNaN_div hx' hy h0, ?_⟩
  rw [rank_div hx hy h0, rank_div hx' hy h0]
  have hpos : 0 < y.rank.natAbs := Int.natAbs_pos.2 (Int.ne_of_gt (zero_lt_iff.1 h0).2)
  apply f.nearest_mono hpos hpos
  apply Int.mul_le_mul_of_nonneg_right _ (Int.natCast_nonneg _)
  exact Int.mul_le_mul_of_nonneg_right h.2.2 (Int.natCast_nonneg _)

theorem infinity_div_infinity (s t : Bool) : (infinity s / infinity t : Binary f) = nan := rfl

theorem rank_finite_div_infinity (s t : Bool) {m : Nat} (hm : f.Fits m) :
    (finite s m hm / infinity t).rank = 0 := by
  change (signedZero (s != t) : Binary f).rank = 0
  cases s <;> cases t <;> rfl

theorem rank_zero_div (hy : y.isFinite) (h : ofNat 0 < y) : (ofNat 0 / y).rank = 0 := by
  rw [rank_div isFinite_ofNat_zero hy h, rank_ofNat_zero, Int.zero_mul]
  exact f.nearest_zero _

/-- A number by itself is one: the quotient is exact. -/
theorem rank_div_self (hy : y.isFinite) (h : ofNat 0 < y) :
    (y / y).rank = (ofNat 1 : Binary f).rank := by
  obtain ⟨n, hn, hpos, rfl⟩ := (isPos_iff hy).1 h
  rw [rank_div hy hy h, rank_ofNat, rank_finite, natAbs_applySign]
  have heq : applySign false n * (f.unit : Int) * (1 : Nat) = (1 * f.unit : Nat) * (n : Int) := by
    simp only [applySign, Bool.false_eq_true, if_false, Nat.one_mul, Int.natCast_one, Int.mul_one]
    exact Int.mul_comm _ _
  apply Int.le_antisymm
  · exact f.nearest_mono hpos Nat.one_pos (Int.le_of_eq heq)
  · exact f.nearest_mono Nat.one_pos hpos (Int.le_of_eq heq.symm)

/-- A quotient by a number above zero has the sign of what is divided, if it is a number. -/
theorem div_nonneg (h : ofNat 0 ≤ x) (h' : ofNat 0 < y) (hn : (x / y).isNaN = false) :
    ofNat 0 ≤ x / y := by
  cases y with
  | nan => simp [lt_iff, isNaN] at h'
  | finite t n ht =>
    have := (div_le_div_right rfl h' h).2.2
    rw [rank_zero_div rfl h'] at this
    exact zero_le_iff.2 ⟨hn, this⟩
  | infinity t =>
    cases x with
    | nan => simp [le_iff, isNaN] at h
    | infinity s => simp [isNaN, infinity_div_infinity] at hn
    | finite s m hs =>
      exact zero_le_iff.2 ⟨rfl, Int.le_of_eq (rank_finite_div_infinity ..).symm⟩

theorem div_nonpos (h : x ≤ ofNat 0) (h' : ofNat 0 < y) (hn : (x / y).isNaN = false) :
    x / y ≤ ofNat 0 := by
  cases y with
  | nan => simp [lt_iff, isNaN] at h'
  | finite t n ht =>
    have := (div_le_div_right rfl h' h).2.2
    rw [rank_zero_div rfl h'] at this
    exact le_zero_iff.2 ⟨hn, this⟩
  | infinity t =>
    cases x with
    | nan => simp [le_iff, isNaN] at h
    | infinity s => simp [isNaN, infinity_div_infinity] at hn
    | finite s m hs =>
      exact le_zero_iff.2 ⟨rfl, Int.le_of_eq (rank_finite_div_infinity ..)⟩

/-! ## Not-a-number -/

theorem numbers_of_add (h : (x + y).isNaN = false) : x.isNaN = false ∧ y.isNaN = false := by
  cases x <;> cases y <;> first | exact ⟨rfl, rfl⟩ | cases h

theorem numbers_of_sub (h : (x - y).isNaN = false) : x.isNaN = false ∧ y.isNaN = false := by
  rw [sub_eq_add_neg] at h
  have := numbers_of_add h
  rwa [isNaN_neg] at this

theorem numbers_of_mul (h : (x * y).isNaN = false) : x.isNaN = false ∧ y.isNaN = false := by
  cases x <;> cases y <;> first | exact ⟨rfl, rfl⟩ | cases h

theorem numbers_of_div (h : (x / y).isNaN = false) : x.isNaN = false ∧ y.isNaN = false := by
  cases x <;> cases y <;> first | exact ⟨rfl, rfl⟩ | cases h

/-! ## Other formats -/

theorem convert_finite {g : Format} (s : Bool) {m : Nat} (hm : f.Fits m) :
    (finite s m hm).convert g = rounded s (m * g.unit) f.unit f.unit_pos := rfl

theorem rank_convert (g : Format) (hx : x.isFinite) :
    (x.convert g).rank = g.nearest (x.rank * g.unit) f.unit := by
  obtain ⟨s, m, hm, rfl⟩ := exists_eq_finite hx
  rw [convert_finite, rank_rounded, rank_finite]
  rw [Format.applySign_mul_natCast]

theorem convert_le_convert (g : Format) (hx : x.isFinite) (hx' : x'.isFinite) (h : x ≤ x') :
    x.convert g ≤ x'.convert g := by
  have number : ∀ {x : Binary f}, x.isFinite → (x.convert g).isNaN = false := by
    intro x hx
    obtain ⟨s, m, hm, rfl⟩ := exists_eq_finite hx
    rw [convert_finite]
    exact isNaN_rounded ..
  refine ⟨number hx, number hx', ?_⟩
  rw [rank_convert g hx, rank_convert g hx']
  apply g.nearest_mono f.unit_pos f.unit_pos
  apply Int.mul_le_mul_of_nonneg_right _ (Int.natCast_nonneg _)
  exact Int.mul_le_mul_of_nonneg_right h.2.2 (Int.natCast_nonneg _)

end Binary

end ChassisCooling
