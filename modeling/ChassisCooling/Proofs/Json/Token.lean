import ChassisCooling.Json.Token
import ChassisCooling.Json.Value
import ChassisCooling.Proofs.Success
import ChassisCooling.Proofs.Text.Integer
import Mathlib.Data.List.TakeWhile

/-!
# Written tokens are read back

What is written is read back whatever follows it. A closing quote ends a string. A number has no
such mark: it goes on as long as the text does, so it is read back in front of a text that `Ends`
it.

* `Json.readString_quoted`: strings, with their escapes.
* `Json.readNumber_append`: a number that is read to the end of a text is read as the same number
  in front of a text that ends it.
* `Json.readNumber_toString`: natural numbers of 64 bits.
-/

namespace ChassisCooling.Json

open Value (escaped hexDigit lineBreak)

/-! ## Blanks -/

theorem skipBlanks_append {blanks : List Char} (h : ∀ c ∈ blanks, isBlank c) (s : List Char) :
    skipBlanks (blanks ++ s) = skipBlanks s :=
  List.dropWhile_append_of_pos h

theorem skipBlanks_cons {c : Char} (h : isBlank c = false) (s : List Char) :
    skipBlanks (c :: s) = c :: s :=
  List.dropWhile_cons_of_neg (by simp [h])

theorem isBlank_of_mem_lineBreak {layout : Option Nat} {c : Char} (h : c ∈ lineBreak layout) :
    isBlank c := by
  cases layout with
  | none => simp [lineBreak] at h
  | some depth =>
    rcases List.mem_cons.1 h with rfl | h
    · rfl
    · rw [List.eq_of_mem_replicate h]
      rfl

/-! ## Strings -/

theorem hexValue?_hexDigit {n : Nat} (h : n < 16) : hexValue? (hexDigit n) = some n := by
  have hall : ∀ n : Fin 16, hexValue? (hexDigit n) = some n.val := by decide
  exact hall ⟨n, h⟩

/-- The escape of a control character has two zeros, so no half of a pair is met. -/
theorem readCode_control {c : Char} (h : c.toNat < 0x20) (rest : List Char) :
    readCode ('0' :: '0' :: hexDigit (c.toNat / 16) :: hexDigit (c.toNat % 16) :: rest) =
      .ok (c, rest) := by
  have hzero : hexValue? '0' = some 0 := rfl
  have hvalue : ((0 * 16 + 0) * 16 + c.toNat / 16) * 16 + c.toNat % 16 = c.toNat := by omega
  have hhex : readHex ('0' :: '0' :: hexDigit (c.toNat / 16) :: hexDigit (c.toNat % 16) :: rest) =
      .ok (c.toNat, rest) := by
    simp only [readHex, hzero, hexValue?_hexDigit (show c.toNat / 16 < 16 by omega),
      hexValue?_hexDigit (show c.toNat % 16 < 16 by omega), hvalue]
  have hlow : ¬(0xdc00 ≤ c.toNat ∧ c.toNat ≤ 0xdfff) := by omega
  have hhigh : ¬(0xd800 ≤ c.toNat ∧ c.toNat ≤ 0xdbff) := by omega
  unfold readCode
  rw [hhex]
  simp only [bind, Except.bind, if_neg hlow, if_neg hhigh, Char.ofNat_toNat]
  rfl

/-- A character is written as itself or with a backslash. -/
inductive Written (c : Char) : List Char → Prop where
  | plain (hquote : c ≠ '"') (hslash : c ≠ '\\') (hcontrol : ¬c.toNat < 0x20) : Written c [c]
  | escape (code : List Char) (h : ∀ rest, readEscape (code ++ rest) = .ok (c, rest)) :
      Written c ('\\' :: code)

theorem written_escaped (c : Char) : Written c (escaped c) := by
  unfold escaped
  split
  · next h => exact .escape ['"'] fun rest => by rw [h]; rfl
  next hquote =>
  split
  · next h => exact .escape ['\\'] fun rest => by rw [h]; rfl
  next hslash =>
  split
  · next h => exact .escape ['b'] fun rest => by rw [h]; rfl
  split
  · next h => exact .escape ['f'] fun rest => by rw [h]; rfl
  split
  · next h => exact .escape ['n'] fun rest => by rw [h]; rfl
  split
  · next h => exact .escape ['r'] fun rest => by rw [h]; rfl
  split
  · next h => exact .escape ['t'] fun rest => by rw [h]; rfl
  split
  · next h => exact .escape _ fun rest => readCode_control h rest
  · next hcontrol => exact .plain hquote hslash hcontrol

theorem readCharsWith_escaped {cs rest : List Char} {fuel : Nat}
    (h : (cs.flatMap escaped).length < fuel) :
    readCharsWith fuel (cs.flatMap escaped ++ '"' :: rest) = .ok (cs, rest) := by
  induction cs generalizing fuel with
  | nil =>
    obtain ⟨fuel, rfl⟩ : ∃ k, fuel = k + 1 := ⟨fuel - 1, by simp at h; omega⟩
    simp [readCharsWith]
  | cons c cs ih =>
    obtain ⟨fuel, rfl⟩ : ∃ k, fuel = k + 1 := ⟨fuel - 1, by omega⟩
    rw [List.flatMap_cons, List.length_append] at h
    rw [List.flatMap_cons, List.append_assoc]
    have hwritten := written_escaped c
    generalize escaped c = text at h hwritten ⊢
    have hpos : 0 < text.length := by cases hwritten <;> simp
    have ih : readCharsWith fuel (cs.flatMap escaped ++ '"' :: rest) = .ok (cs, rest) :=
      ih (by omega)
    cases hwritten with
    | plain hquote hslash hcontrol =>
      simp [readCharsWith, hquote, hslash, hcontrol, ih, bind, Except.bind, pure, Except.pure]
    | escape code hcode =>
      simp [readCharsWith, hcode, ih, bind, Except.bind, pure, Except.pure]

/-- A string reads back behind its opening quote. -/
theorem readString_quoted (s : String) (rest : List Char) :
    readString (s.toList.flatMap escaped ++ '"' :: rest) = .ok (s, rest) := by
  unfold readString
  rw [readCharsWith_escaped (by rw [List.length_append]; omega)]
  simp [bind, Except.bind, pure, Except.pure]

/-! ## Numbers -/

/-- A text that goes on with no number. -/
def Ends (rest : List Char) : Prop :=
  ∀ c ∈ rest.head?, c.isDigit = false ∧ c ≠ '.' ∧ c ≠ 'e' ∧ c ≠ 'E'

theorem Ends.cons {c : Char} {rest : List Char} (hdigit : c.isDigit = false) (hpoint : c ≠ '.')
    (hsmall : c ≠ 'e') (hlarge : c ≠ 'E') : Ends (c :: rest) := by
  rintro d ⟨⟩
  exact ⟨hdigit, hpoint, hsmall, hlarge⟩

theorem Ends.isDigit_eq {rest : List Char} (h : Ends rest) : ∀ c ∈ rest.head?, c.isDigit = false :=
  fun c hc => (h c hc).1

variable {s r rest : List Char}

theorem readDigits_append {digits : List Char} (h : readDigits s = .ok (digits, r))
    (hrest : Ends rest) : readDigits (s ++ rest) = .ok (digits, r ++ rest) := by
  cases s with
  | nil => simp [readDigits] at h
  | cons c s =>
    simp only [readDigits] at h
    split at h
    · next hc =>
      obtain ⟨rfl, rfl⟩ := Prod.mk.inj (Except.ok.inj h)
      rw [List.cons_append, readDigits, if_pos hc, ← List.cons_append,
        Text.takeWhile_append_of_head hrest.isDigit_eq,
        Text.dropWhile_append_of_head hrest.isDigit_eq]
    · cases h

theorem readWhole_append {digits : List Char} (h : readWhole s = .ok (digits, r))
    (hrest : Ends rest) : readWhole (s ++ rest) = .ok (digits, r ++ rest) := by
  unfold readWhole at h
  split at h
  · -- the zero already stands before another character
    split at h
    · cases h
    · next hc =>
      obtain ⟨rfl, rfl⟩ := Prod.mk.inj (Except.ok.inj h)
      simp [readWhole, hc]
  · next hzero =>
    have happend := readDigits_append h hrest
    unfold readWhole
    split
    · next c s' heq =>
      -- a zero at the very end: `rest` has no digit for it
      cases s with
      | nil => simp [readDigits] at h
      | cons d s =>
        obtain rfl : d = '0' := (List.cons.inj heq).1
        cases s with
        | cons e s => exact absurd rfl (hzero e s)
        | nil =>
          have heq : rest = c :: s' := (List.cons.inj heq).2
          subst heq
          have hc : c.isDigit = false := (hrest c rfl).1
          obtain ⟨rfl, rfl⟩ := Prod.mk.inj (Except.ok.inj h)
          simp [hc]
    · exact happend

theorem readFraction_append {places : Option (List Char)} (h : readFraction s = .ok (places, r))
    (hrest : Ends rest) : readFraction (s ++ rest) = .ok (places, r ++ rest) := by
  unfold readFraction at h
  split at h
  · rw [bind_eq_ok_iff] at h
    obtain ⟨⟨digits, r'⟩, hdigits, h⟩ := h
    obtain ⟨rfl, rfl⟩ := Prod.mk.inj (Except.ok.inj h)
    rw [List.cons_append, readFraction, readDigits_append hdigits hrest]
    rfl
  · next hpoint =>
    obtain ⟨rfl, rfl⟩ := Prod.mk.inj (Except.ok.inj h)
    unfold readFraction
    split
    · next s' heq =>
      cases s with
      | nil =>
        have heq : rest = '.' :: s' := heq
        subst heq
        exact absurd rfl (hrest '.' rfl).2.1
      | cons c s =>
        obtain ⟨rfl, -⟩ := List.cons.inj heq
        exact absurd rfl (hpoint s)
    · rfl

theorem takeExponent_append (hrest : Ends rest) (n : Nat) (s : List Char) :
    takeExponent n (s ++ rest) = ((takeExponent n s).1, (takeExponent n s).2 ++ rest) := by
  induction s generalizing n with
  | nil =>
    cases rest with
    | nil => rfl
    | cons c rest => simp [takeExponent, (hrest c rfl).1]
  | cons c s ih =>
    simp only [List.cons_append, takeExponent]
    split
    · rfl
    · split
      · rfl
      · exact ih _

theorem readPower_append {sign : Int} {exponent : Option Int}
    (h : readPower sign s = .ok (exponent, r)) (hrest : Ends rest) :
    readPower sign (s ++ rest) = .ok (exponent, r ++ rest) := by
  unfold readPower at h
  rw [bind_eq_ok_iff] at h
  obtain ⟨⟨digits, r'⟩, hdigits, h⟩ := h
  obtain ⟨rfl, rfl⟩ := Prod.mk.inj (Except.ok.inj h)
  unfold readPower
  rw [readDigits_append hdigits hrest, takeExponent_append hrest]
  rfl

theorem readExponent_append {exponent : Option Int} (h : readExponent s = .ok (exponent, r))
    (hrest : Ends rest) : readExponent (s ++ rest) = .ok (exponent, r ++ rest) := by
  cases s with
  | nil =>
    obtain ⟨rfl, rfl⟩ := Prod.mk.inj (Except.ok.inj h)
    cases rest with
    | nil => rfl
    | cons c rest =>
      obtain ⟨-, -, hsmall, hlarge⟩ := hrest c rfl
      simp [readExponent, hsmall, hlarge]
  | cons c s =>
    simp only [readExponent] at h
    simp only [List.cons_append, readExponent]
    split at h
    · next hc =>
      rw [if_pos hc]
      split at h
      · exact readPower_append h hrest
      · exact readPower_append h hrest
      · next hplus hminus =>
        cases s with
        | nil => simp [readPower, readDigits, bind, Except.bind] at h
        | cons d s =>
          have happend := readPower_append h hrest
          split
          · next heq => exact absurd (List.cons.inj heq).1 fun hd => hplus s (by rw [hd])
          · next heq => exact absurd (List.cons.inj heq).1 fun hd => hminus s (by rw [hd])
          · exact happend
    · next hc =>
      obtain ⟨rfl, rfl⟩ := Prod.mk.inj (Except.ok.inj h)
      rw [if_neg hc]
      rfl

theorem readUnsigned_append {negative : Bool} {n : Number}
    (h : readUnsigned negative s = .ok (n, r)) (hrest : Ends rest) :
    readUnsigned negative (s ++ rest) = .ok (n, r ++ rest) := by
  unfold readUnsigned at h
  rw [bind_eq_ok_iff] at h
  obtain ⟨⟨whole, r₁⟩, hwhole, h⟩ := h
  rw [bind_eq_ok_iff] at h
  obtain ⟨⟨places, r₂⟩, hplaces, h⟩ := h
  rw [bind_eq_ok_iff] at h
  obtain ⟨⟨exponent, r₃⟩, hexponent, h⟩ := h
  unfold readUnsigned
  simp only [readWhole_append hwhole hrest, readFraction_append hplaces hrest,
    readExponent_append hexponent hrest, bind, Except.bind]
  simp only at h
  split at h
  · obtain ⟨rfl, rfl⟩ := Prod.mk.inj (Except.ok.inj h)
    rw [Text.dropWhile_append_of_head hrest.isDigit_eq]
    rfl
  · cases h

/-- A number in front of a text that ends it. -/
theorem readNumber_append {n : Number} (h : readNumber s = .ok (n, r)) (hrest : Ends rest) :
    readNumber (s ++ rest) = .ok (n, r ++ rest) := by
  unfold readNumber at h
  split at h
  · exact readUnsigned_append h hrest
  · next hsign =>
    have happend := readUnsigned_append h hrest
    unfold readNumber
    split
    · next s' heq =>
      cases s with
      | nil => simp [readUnsigned, readWhole, readDigits, bind, Except.bind] at h
      | cons c s =>
        obtain ⟨rfl, -⟩ := List.cons.inj heq
        exact absurd rfl (hsign s)
    · exact happend

theorem startsNumber_of_readNumber {n : Number} (h : readNumber s = .ok (n, r)) :
    startsNumber s := by
  unfold readNumber at h
  split at h
  · rfl
  · unfold readUnsigned at h
    rw [bind_eq_ok_iff] at h
    obtain ⟨⟨whole, r'⟩, hwhole, -⟩ := h
    unfold readWhole at hwhole
    split at hwhole
    · rfl
    · cases s with
      | nil => simp [readDigits] at hwhole
      | cons c s =>
        simp only [readDigits] at hwhole
        split at hwhole
        · next hc => simp [startsNumber, hc]
        · cases hwhole

theorem isBlank_of_isDigit {c : Char} (h : c.isDigit) : isBlank c = false := by
  cases hblank : isBlank c with
  | false => rfl
  | true =>
    have hcases : c = ' ' ∨ c = '\n' ∨ c = '\t' ∨ c = '\r' := by simpa [isBlank] using hblank
    rcases hcases with rfl | rfl | rfl | rfl <;> exact absurd h (by decide)

/-! ## Natural numbers -/

/-- Digits whose number 64 bits hold are all kept. -/
theorem keepWhole_eq {cs : List Char} {n : Nat} (h : Nat.ofDigitChars 10 cs n < UInt64.size) :
    keepWhole n cs = ⟨Nat.ofDigitChars 10 cs n, 0⟩ := by
  induction cs generalizing n with
  | nil => simp [keepWhole]
  | cons c cs ih =>
    have hdigit : withDigit n c = 10 * n + (c.toNat - '0'.toNat) := by
      unfold withDigit digitValue
      omega
    rw [Nat.ofDigitChars_cons, ← hdigit] at h ⊢
    rw [keepWhole, if_pos (Nat.lt_of_le_of_lt (Text.le_ofDigitChars cs _) h), ih h]

theorem head?_toDigits_ne_zero {n : Nat} (h : 0 < n) : (Nat.toDigits 10 n).head? ≠ some '0' := by
  induction n using Nat.strongRecOn with
  | ind n ih =>
    rw [Nat.toDigits_eq_if (by decide)]
    split
    · simpa using Nat.ne_of_gt h
    · next hn =>
      rw [List.head?_append_of_ne_nil _ Nat.toDigits_ne_nil]
      exact ih (n / 10) (by omega) (by omega)

theorem readWhole_toDigits (n : Nat) :
    readWhole (Nat.toDigits 10 n) = .ok (Nat.toDigits 10 n, []) := by
  have hdigits : ∀ c ∈ Nat.toDigits 10 n, c.isDigit := fun c hc =>
    Nat.isDigit_of_mem_toDigits (by decide) (by decide) hc
  have hread : readDigits (Nat.toDigits 10 n) = .ok (Nat.toDigits 10 n, []) := by
    unfold readDigits
    split
    · next h => exact absurd h Nat.toDigits_ne_nil
    · next c cs h =>
      rw [if_pos (hdigits c (by rw [h]; exact List.mem_cons_self)),
        List.takeWhile_eq_self_iff.2 hdigits, List.dropWhile_eq_nil_iff.2 hdigits]
  unfold readWhole
  split
  · next c cs h =>
    rcases Nat.eq_zero_or_pos n with rfl | hn
    · simp at h
    · exact absurd (by rw [h]; rfl) (head?_toDigits_ne_zero hn)
  · exact hread

/-- A natural number of 64 bits. -/
theorem readNumber_toString {n : Nat} (h : n < UInt64.size) :
    readNumber (toString n).toList = .ok (.natural n, []) := by
  rw [Nat.toString_eq_repr, Nat.toList_repr]
  have hvalue : Nat.ofDigitChars 10 (Nat.toDigits 10 n) 0 = n :=
    Nat.ofDigitChars_toDigits (by decide) (by decide)
  have hkept : keepWhole 0 (Nat.toDigits 10 n) = ⟨n, 0⟩ := by
    rw [keepWhole_eq (by rwa [hvalue]), hvalue]
  have hunsigned : readUnsigned false (Nat.toDigits 10 n) = .ok (.natural n, []) := by
    unfold readUnsigned
    rw [readWhole_toDigits]
    simp [readFraction, readExponent, numberOf, wholeNumber, hkept, bind, Except.bind, pure,
      Except.pure]
  unfold readNumber
  split
  · next s h =>
    have hdigit : '-'.isDigit := Nat.isDigit_of_mem_toDigits (b := 10) (n := n) (by decide)
      (by decide) (by rw [h]; exact List.mem_cons_self)
    exact absurd hdigit (by decide)
  · exact hunsigned

end ChassisCooling.Json
