import ChassisCooling.Proofs.Success
import ChassisCooling.Proofs.Text.Blank
import ChassisCooling.Text.Integer

/-!
# The number that digits stand for

Reading stops at the first front of the digits that is above the limit. Numbers of digits only grow
with every digit, so this refuses just the numbers that are above the limit in the end, whatever
zeros stand in front. A sign may stand before the digits, `-` only where numbers below zero may be
meant.

* `Text.readDigits_eq_ok_iff`: digits are read as their number if it is within the limit.
* `Text.readUnsigned_eq_ok_iff`: the same where a sign could stand.
* `Text.Digits`, `Text.Unsigned`, `Text.Signed`: numerals and what they stand for.
* `Text.readUnsigned_eq_ok_iff_unsigned`, `Text.readSigned_eq_ok_iff`: what is read is a numeral of
  the range, and nothing else.
-/

namespace ChassisCooling.Text

theorem le_ofDigitChars (cs : List Char) (n : Nat) : n ≤ Nat.ofDigitChars 10 cs n := by
  induction cs generalizing n with
  | nil => simp
  | cons c cs ih =>
    rw [Nat.ofDigitChars_cons]
    exact Nat.le_trans (by omega) (ih _)

theorem digit?_of_isDigit {c : Char} (h : c.isDigit) : digit? c = some (c.toNat - '0'.toNat) := by
  have hrange : '0' ≤ c ∧ c ≤ '9' := by simpa [Char.isDigit, Char.le_def] using h
  unfold digit?
  rw [if_pos hrange]

theorem readDigits_eq_ok_iff {limit n value : Nat} {beyond : IntegerFault} {digits : List Char}
    (h : ∀ c ∈ digits, c.isDigit) (hvalue : value ≤ limit) :
    readDigits limit beyond value digits = .ok n ↔
      Nat.ofDigitChars 10 digits value = n ∧ n ≤ limit := by
  induction digits generalizing value with
  | nil =>
    rw [readDigits, Nat.ofDigitChars_nil, Except.ok.injEq]
    exact ⟨fun heq => ⟨heq, heq ▸ hvalue⟩, And.left⟩
  | cons c digits ih =>
    have hdigits : ∀ d ∈ digits, d.isDigit := fun d hd => h d (.tail _ hd)
    rw [readDigits, digit?_of_isDigit (h c (.head _)), Nat.ofDigitChars_cons, Nat.mul_comm 10]
    dsimp only
    split
    · next hle => exact ih hdigits hle
    · next hlarge =>
      constructor
      · intro heq
        cases heq
      · rintro ⟨heq, hle⟩
        exact absurd (Nat.le_trans (le_ofDigitChars digits _) (heq ▸ hle)) hlarge

theorem readUnsigned_eq_ok_iff {limit n : Nat} {digits : List Char} (hsome : digits ≠ [])
    (h : ∀ c ∈ digits, c.isDigit) :
    readUnsigned limit digits = .ok n ↔ Nat.ofDigitChars 10 digits 0 = n ∧ n ≤ limit := by
  unfold readUnsigned
  split
  · exact absurd rfl hsome
  · exact absurd (h '+' (.head _)) (by decide)
  · exact readDigits_eq_ok_iff h (Nat.zero_le limit)

/-! ## Numerals -/

/-- Digits, one at least, and the number that they stand for. -/
structure Digits (cs : List Char) (n : Nat) : Prop where
  ne_nil : cs ≠ []
  all : ∀ c ∈ cs, c.isDigit
  value : Nat.ofDigitChars 10 cs 0 = n

/-- Digits, or digits after `+`. -/
inductive Unsigned : List Char → Nat → Prop where
  | bare {cs : List Char} {n : Nat} (h : Digits cs n) : Unsigned cs n
  | plus {cs : List Char} {n : Nat} (h : Digits cs n) : Unsigned ('+' :: cs) n

/-- Digits, or digits after a sign. -/
inductive Signed : List Char → Int → Prop where
  | unsigned {cs : List Char} {n : Nat} (h : Unsigned cs n) : Signed cs n
  | minus {cs : List Char} {n : Nat} (h : Digits cs n) : Signed ('-' :: cs) (-n)

theorem digit?_eq_none {c : Char} (h : ¬c.isDigit) : digit? c = none := by
  have hrange : ¬('0' ≤ c ∧ c ≤ '9') := by simpa [Char.isDigit, Char.le_def] using h
  unfold digit?
  rw [if_neg hrange]

theorem isDigit_of_readDigits {limit value n : Nat} {beyond : IntegerFault} {cs : List Char}
    (h : readDigits limit beyond value cs = .ok n) : ∀ c ∈ cs, c.isDigit := by
  induction cs generalizing value with
  | nil => exact List.forall_mem_nil _
  | cons c cs ih =>
    by_cases hc : c.isDigit
    · rw [readDigits, digit?_of_isDigit hc] at h
      dsimp only at h
      split at h
      · exact List.forall_mem_cons.2 ⟨hc, ih h⟩
      · cases h
    · rw [readDigits, digit?_eq_none hc] at h
      cases h

/-- What is read is the number of digits, and it is within the limit. -/
theorem readDigits_eq_ok_iff_digits {limit n : Nat} {beyond : IntegerFault} {cs : List Char}
    (hsome : cs ≠ []) : readDigits limit beyond 0 cs = .ok n ↔ Digits cs n ∧ n ≤ limit := by
  constructor
  · intro h
    have hall := isDigit_of_readDigits h
    obtain ⟨hvalue, hle⟩ := (readDigits_eq_ok_iff hall (Nat.zero_le limit)).1 h
    exact ⟨⟨hsome, hall, hvalue⟩, hle⟩
  · rintro ⟨hdigits, hle⟩
    exact (readDigits_eq_ok_iff hdigits.all (Nat.zero_le limit)).2 ⟨hdigits.value, hle⟩

theorem readSomeDigits_eq_ok_iff {limit n : Nat} {beyond : IntegerFault} {cs : List Char} :
    readSomeDigits limit beyond cs = .ok n ↔ Digits cs n ∧ n ≤ limit := by
  unfold readSomeDigits
  cases cs with
  | nil =>
    constructor
    · intro h
      cases h
    · intro h
      exact absurd rfl h.1.ne_nil
  | cons c cs => exact readDigits_eq_ok_iff_digits (List.cons_ne_nil c cs)

/-- Digits do not begin with a sign. -/
theorem Digits.head_isDigit {c : Char} {cs : List Char} {n : Nat} (h : Digits (c :: cs) n) :
    c.isDigit :=
  h.all c List.mem_cons_self

theorem unsigned_plus_iff {cs : List Char} {n : Nat} : Unsigned ('+' :: cs) n ↔ Digits cs n := by
  constructor
  · intro h
    cases h with
    | bare h => exact absurd h.head_isDigit (by decide)
    | plus h => exact h
  · exact .plus

theorem unsigned_iff_digits {cs : List Char} {n : Nat} (hplus : ∀ rest, cs ≠ '+' :: rest) :
    Unsigned cs n ↔ Digits cs n := by
  constructor
  · intro h
    cases h with
    | bare h => exact h
    | plus h => exact absurd rfl (hplus _)
  · exact .bare

/-- What a numeral without a minus begins with. -/
theorem Unsigned.exists_cons {cs : List Char} {n : Nat} (h : Unsigned cs n) :
    ∃ c rest, cs = c :: rest ∧ (c.isDigit ∨ c = '+') := by
  cases h with
  | bare h =>
    obtain ⟨c, rest, rfl⟩ := List.exists_cons_of_ne_nil h.ne_nil
    exact ⟨c, rest, rfl, .inl h.head_isDigit⟩
  | plus h => exact ⟨'+', _, rfl, .inr rfl⟩

theorem readUnsigned_eq_ok_iff_unsigned {high n : Nat} {cs : List Char} :
    readUnsigned high cs = .ok n ↔ Unsigned cs n ∧ n ≤ high := by
  unfold readUnsigned
  split
  · rw [unsigned_iff_digits fun rest => List.cons_ne_nil _ rest |>.symm]
    constructor
    · intro h
      cases h
    · intro h
      exact absurd rfl h.1.ne_nil
  · rw [readSomeDigits_eq_ok_iff, unsigned_plus_iff]
  · next hsome hplus =>
    rw [readDigits_eq_ok_iff_digits hsome, unsigned_iff_digits hplus]

theorem signed_minus_iff {cs : List Char} {z : Int} :
    Signed ('-' :: cs) z ↔ ∃ n : Nat, Digits cs n ∧ -(n : Int) = z := by
  constructor
  · intro h
    cases h with
    | unsigned h =>
      rw [unsigned_iff_digits (by simp)] at h
      exact absurd h.head_isDigit (by decide)
    | minus h => exact ⟨_, h, rfl⟩
  · rintro ⟨n, h, rfl⟩
    exact .minus h

theorem signed_iff_unsigned {cs : List Char} {z : Int} (hminus : ∀ rest, cs ≠ '-' :: rest) :
    Signed cs z ↔ ∃ n : Nat, Unsigned cs n ∧ (n : Int) = z := by
  constructor
  · intro h
    cases h with
    | unsigned h => exact ⟨_, h, rfl⟩
    | minus h => exact absurd rfl (hminus _)
  · rintro ⟨n, h, rfl⟩
    exact .unsigned h

/-- Without a minus, only numbers from zero are meant. -/
theorem readSigned_eq_map_readUnsigned {low high : Nat} {cs : List Char}
    (hminus : ∀ rest, cs ≠ '-' :: rest) :
    readSigned low high cs = (readUnsigned high cs).map Int.ofNat := by
  unfold readSigned
  split
  · rfl
  · rfl
  · exact absurd rfl (hminus _)
  · next hsome hplus _ =>
    unfold readUnsigned
    split
    · exact absurd rfl hsome
    · exact absurd rfl (hplus _)
    · rfl

theorem readSigned_minus (low high : Nat) (cs : List Char) :
    readSigned low high ('-' :: cs) =
      (readSomeDigits low .tooSmall cs).map fun n : Nat => -(n : Int) := by
  rw [readSigned]
  cases readSomeDigits low .tooSmall cs <;> rfl

/-- The bounds are those of the range, each on its own side. -/
theorem readSigned_eq_ok_iff {low high : Nat} {cs : List Char} {z : Int} :
    readSigned low high cs = .ok z ↔ Signed cs z ∧ -(low : Int) ≤ z ∧ z ≤ high := by
  by_cases hminus : ∀ rest, cs ≠ '-' :: rest
  · rw [readSigned_eq_map_readUnsigned hminus, signed_iff_unsigned hminus, map_eq_ok_iff]
    constructor
    · rintro ⟨n, hread, rfl⟩
      obtain ⟨hn, hle⟩ := readUnsigned_eq_ok_iff_unsigned.1 hread
      exact ⟨⟨n, hn, rfl⟩, by simp only [Int.ofNat_eq_natCast]; omega, Int.ofNat_le.2 hle⟩
    · rintro ⟨⟨n, hn, rfl⟩, -, hle⟩
      exact ⟨n, readUnsigned_eq_ok_iff_unsigned.2 ⟨hn, Int.ofNat_le.1 hle⟩, rfl⟩
  · obtain ⟨rest, rfl⟩ : ∃ rest, cs = '-' :: rest := by
      simpa only [ne_eq, not_forall, not_not] using hminus
    rw [readSigned_minus, map_eq_ok_iff, signed_minus_iff]
    constructor
    · rintro ⟨n, hread, rfl⟩
      obtain ⟨hn, hle⟩ := readSomeDigits_eq_ok_iff.1 hread
      exact ⟨⟨n, hn, rfl⟩, by omega, by omega⟩
    · rintro ⟨⟨n, hn, rfl⟩, hle, -⟩
      exact ⟨n, readSomeDigits_eq_ok_iff.2 ⟨hn, by omega⟩, rfl⟩

/-! ## Blanks in numerals -/

theorem isBlank_of_signed {cs : List Char} {z : Int} (h : Signed cs z) :
    ∀ c ∈ cs, isBlank c = false := by
  have hdigits : ∀ {cs n}, Digits cs n → ∀ c ∈ cs, isBlank c = false :=
    fun h c hc => isBlank_of_isDigit (h.all c hc)
  cases h with
  | unsigned h =>
    cases h with
    | bare h => exact hdigits h
    | plus h => exact List.forall_mem_cons.2 ⟨rfl, hdigits h⟩
  | minus h => exact List.forall_mem_cons.2 ⟨rfl, hdigits h⟩

end ChassisCooling.Text
