import ChassisCooling.Json.Reader
import ChassisCooling.Proofs.Json.Token
import Mathlib.Data.List.Forall2

/-!
# The grammar of JSON

What a JSON text is, said without a reader: strings with their escapes, numbers, and values in
brackets with blanks around them and commas between them. Readers go over such texts from the left,
and none of them needs to look at what comes after a value to tell what the value is. So a reader
`Takes` something from a text, or fails there, whatever stands around it.

* `StringText`, `NumberText`, `Enclosed`, `ObjectText`, `ValueText`: the grammar.
* `Takes`: what a reader takes from a text in every context; `taken`: what it takes from the text
  alone.
* `exists_takes_string`, `exists_takes_number`: strings and numbers.
-/

namespace ChassisCooling.Json

/-! ## Tokens -/

def Blanks (s : List Char) : Prop := ∀ c ∈ s, isBlank c

instance (s : List Char) : Decidable (Blanks s) :=
  decidable_of_iff (s.all isBlank = true) List.all_eq_true

def IsHexDigit (c : Char) : Prop :=
  ('0' ≤ c ∧ c ≤ '9') ∨ ('a' ≤ c ∧ c ≤ 'f') ∨ ('A' ≤ c ∧ c ≤ 'F')

/-- The characters that may stand behind a backslash, codes apart. -/
def escapes : List Char := ['"', '\\', '/', 'b', 'f', 'n', 'r', 't']

/-- What may stand between the quotes of a string. Whether codes of half characters come in pairs is
left open. -/
inductive StringText : List Char → Prop where
  | nil : StringText []
  | plain {c : Char} {s : List Char} (hquote : c ≠ '"') (hslash : c ≠ '\\')
      (hcontrol : ¬c.toNat < 0x20) (hs : StringText s) : StringText (c :: s)
  | escape {c : Char} {s : List Char} (hc : c ∈ escapes) (hs : StringText s) :
      StringText ('\\' :: c :: s)
  | code {a b c d : Char} {s : List Char} (hhex : ∀ x ∈ [a, b, c, d], IsHexDigit x)
      (hs : StringText s) : StringText ('\\' :: 'u' :: a :: b :: c :: d :: s)

/-- The characters that stand for themselves. -/
def isPlain (c : Char) : Bool := c ≠ '"' ∧ c ≠ '\\' ∧ ¬c.toNat < 0x20

theorem stringText_of_plain {s : List Char} (h : s.all isPlain) : StringText s := by
  induction s with
  | nil => exact .nil
  | cons c s ih =>
    obtain ⟨hc, hs⟩ : isPlain c ∧ s.all isPlain := by simpa using h
    obtain ⟨hquote, hslash, hcontrol⟩ : c ≠ '"' ∧ c ≠ '\\' ∧ ¬c.toNat < 0x20 :=
      of_decide_eq_true hc
    exact .plain hquote hslash hcontrol (ih hs)

/-- One digit or more. -/
structure Digits (s : List Char) : Prop where
  ne_nil : s ≠ []
  all : ∀ c ∈ s, c.isDigit

instance (s : List Char) : Decidable (Digits s) :=
  decidable_of_iff (s ≠ [] ∧ s.all Char.isDigit = true)
    ⟨fun h => ⟨h.1, List.all_eq_true.1 h.2⟩, fun h => ⟨h.1, List.all_eq_true.2 h.2⟩⟩

inductive WholeText : List Char → Prop where
  | zero : WholeText ['0']
  | digits {s : List Char} (hs : Digits s) (hhead : s.head? ≠ some '0') : WholeText s

inductive FractionText : List Char → Prop where
  | absent : FractionText []
  | present {digits : List Char} (hdigits : Digits digits) : FractionText ('.' :: digits)

inductive ExponentText : List Char → Prop where
  | absent : ExponentText []
  | present {e : Char} {sign digits : List Char} (he : e = 'e' ∨ e = 'E')
      (hsign : sign = [] ∨ sign = ['+'] ∨ sign = ['-']) (hdigits : Digits digits) :
      ExponentText (e :: (sign ++ digits))

inductive NumberText : List Char → Prop where
  | mk {sign whole fraction exponent : List Char} (hsign : sign = [] ∨ sign = ['-'])
      (hwhole : WholeText whole) (hfraction : FractionText fraction)
      (hexponent : ExponentText exponent) : NumberText (sign ++ (whole ++ (fraction ++ exponent)))

theorem numberText_of_digits {digits : List Char} (hdigits : Digits digits)
    (hhead : digits.head? ≠ some '0') : NumberText digits := by
  have htext := NumberText.mk (.inl rfl) (.digits hdigits hhead) .absent .absent
  rwa [List.append_nil, List.append_nil, List.nil_append] at htext

/-! ## Brackets and values -/

/-- Texts with blanks around them and commas between them. -/
inductive Listed : List (List Char) → List Char → Prop where
  | last {before text after : List Char} (hbefore : Blanks before) (hafter : Blanks after) :
      Listed [text] (before ++ (text ++ after))
  | cons {before text after s : List Char} {texts : List (List Char)} (hbefore : Blanks before)
      (hafter : Blanks after) (hrest : Listed texts s) :
      Listed (text :: texts) (before ++ (text ++ (after ++ ',' :: s)))

/-- Texts between brackets. -/
inductive Enclosed (opening closing : Char) : List (List Char) → List Char → Prop where
  | empty {blanks : List Char} (hblanks : Blanks blanks) :
      Enclosed opening closing [] (opening :: (blanks ++ [closing]))
  | listed {texts : List (List Char)} {s : List Char} (hs : Listed texts s) :
      Enclosed opening closing texts (opening :: (s ++ [closing]))

/-- What stands between the quotes of a key, and the text of its value. -/
structure Member where
  key : List Char
  value : List Char

/-- A key in quotes, a colon and a value. -/
inductive MemberText (m : Member) : List Char → Prop where
  | mk {before after : List Char} (hbefore : Blanks before) (hafter : Blanks after) :
      MemberText m ('"' :: (m.key ++ '"' :: (before ++ ':' :: (after ++ m.value))))

def ArrayText (items : List (List Char)) (s : List Char) : Prop := Enclosed '[' ']' items s

def ObjectText (members : List Member) (s : List Char) : Prop :=
  ∃ texts, List.Forall₂ MemberText members texts ∧ Enclosed '\x7b' '\x7d' texts s

/-- A value of any kind. -/
inductive ValueText : List Char → Prop where
  | null : ValueText ['n', 'u', 'l', 'l']
  | yes : ValueText ['t', 'r', 'u', 'e']
  | no : ValueText ['f', 'a', 'l', 's', 'e']
  | number {s : List Char} (hs : NumberText s) : ValueText s
  | string {s : List Char} (hs : StringText s) : ValueText ('"' :: (s ++ ['"']))
  | array {items : List (List Char)} {s : List Char} (hs : ArrayText items s)
      (hitems : ∀ item ∈ items, ValueText item) : ValueText s
  | object {members : List Member} {s : List Char} (hs : ObjectText members s)
      (hkeys : ∀ m ∈ members, StringText m.key) (hvalues : ∀ m ∈ members, ValueText m.value) :
      ValueText s

/-- A whole text: a value with blanks around it. -/
def WholeDocument (value s : List Char) : Prop :=
  ∃ before after, Blanks before ∧ Blanks after ∧ s = before ++ (value ++ after)

/-! ## What readers take -/

section Takes

variable {α β : Type} {read : Reader α} {text : List Char} {outcome : Option α}

/-- Whatever comes after a text and ends it, the reader takes the same from the text and leaves the
rest; or it fails each time. -/
def Takes (read : Reader α) (text : List Char) (outcome : Option α) : Prop :=
  ∀ rest, Ends rest → (read (text ++ rest)).toOption = outcome.map (·, rest)

/-- What a reader takes from a text that stands alone. -/
def taken (read : Reader α) (text : List Char) : Option α := (read text).toOption.map Prod.fst

theorem ends_nil : Ends [] := by
  intro c hc
  cases hc

theorem Takes.taken_eq (h : Takes read text outcome) : taken read text = outcome := by
  have halone := h [] ends_nil
  rw [List.append_nil] at halone
  rw [taken, halone]
  cases outcome <;> rfl

theorem takes_taken (h : ∃ outcome, Takes read text outcome) : Takes read text (taken read text) := by
  obtain ⟨outcome, htakes⟩ := h
  rwa [htakes.taken_eq]

theorem takes_some {a : α} (h : ∀ rest, Ends rest → read (text ++ rest) = .ok (a, rest)) :
    Takes read text (some a) := by
  intro rest hrest
  rw [h rest hrest]
  rfl

theorem takes_none (h : ∀ rest, Ends rest → ∃ stop, read (text ++ rest) = .error stop) :
    Takes read text none := by
  intro rest hrest
  obtain ⟨stop, hstop⟩ := h rest hrest
  rw [hstop]
  rfl

theorem Takes.map (h : Takes read text outcome) (f : α → β) :
    Takes (fun s => do let (a, rest) ← read s; return (f a, rest)) text (outcome.map f) := by
  intro rest hrest
  simp only [toOption_bind, h rest hrest]
  cases outcome <;> rfl

/-- What was taken, used by a step that may fail. -/
theorem Takes.exists_bind (h : Takes read text outcome) {step : Parsed α → Except Stop (Parsed β)}
    (hstep : ∀ a, ∃ value : Option β, ∀ rest, (step (a, rest)).toOption = value.map (·, rest)) :
    ∃ outcome', Takes (fun s => read s >>= step) text outcome' := by
  cases outcome with
  | none =>
    refine ⟨none, fun rest hrest => ?_⟩
    simp only [toOption_bind, h rest hrest]
    rfl
  | some a =>
    obtain ⟨value, hvalue⟩ := hstep a
    refine ⟨value, fun rest hrest => ?_⟩
    simp only [toOption_bind, h rest hrest]
    exact hvalue rest

end Takes

/-! ## Strings -/

theorem exists_hexValue? {c : Char} (h : IsHexDigit c) : ∃ n, hexValue? c = some n := by
  unfold hexValue?
  by_cases hdigit : '0' ≤ c ∧ c ≤ '9'
  · exact ⟨_, if_pos hdigit⟩
  rw [if_neg hdigit]
  by_cases hsmall : 'a' ≤ c ∧ c ≤ 'f'
  · exact ⟨_, if_pos hsmall⟩
  rw [if_neg hsmall]
  rcases h with h | h | h
  · exact absurd h hdigit
  · exact absurd h hsmall
  · exact ⟨_, if_pos h⟩

theorem exists_readHex {a b c d : Char} (hhex : ∀ x ∈ [a, b, c, d], IsHexDigit x) :
    ∃ code, ∀ rest, readHex (a :: b :: c :: d :: rest) = .ok (code, rest) := by
  obtain ⟨na, ha⟩ := exists_hexValue? (hhex a (by simp))
  obtain ⟨nb, hb⟩ := exists_hexValue? (hhex b (by simp))
  obtain ⟨nc, hc⟩ := exists_hexValue? (hhex c (by simp))
  obtain ⟨nd, hd⟩ := exists_hexValue? (hhex d (by simp))
  exact ⟨((na * 16 + nb) * 16 + nc) * 16 + nd, fun rest => by simp only [readHex, ha, hb, hc, hd]⟩

/-- A reader of what comes next in a string: a character, with the part of the string that is left.
What comes after the closing quote does not matter. -/
def TakesNext (read : Reader Char) (s : List Char) : Prop :=
  ∃ outcome : Option (Char × List Char),
    (∀ c left, outcome = some (c, left) → StringText left ∧ left.length ≤ s.length) ∧
    ∀ rest, (read (s ++ '"' :: rest)).toOption = outcome.map fun p => (p.1, p.2 ++ '"' :: rest)

theorem takesNext_ok {read : Reader Char} {s left : List Char} {c : Char} (hleft : StringText left)
    (hlength : left.length ≤ s.length)
    (hread : ∀ rest, read (s ++ '"' :: rest) = .ok (c, left ++ '"' :: rest)) : TakesNext read s := by
  refine ⟨some (c, left), ?_, fun rest => ?_⟩
  · rintro _ _ ⟨⟩
    exact ⟨hleft, hlength⟩
  · rw [hread]
    rfl

theorem takesNext_error {read : Reader Char} {s : List Char}
    (hread : ∀ rest, ∃ stop, read (s ++ '"' :: rest) = .error stop) : TakesNext read s := by
  refine ⟨none, by simp, fun rest => ?_⟩
  obtain ⟨stop, hstop⟩ := hread rest
  rw [hstop]
  rfl

/-- The second half of a pair is the code that comes next, if one does. -/
theorem takesNext_readSecondHalf {s : List Char} (hs : StringText s) (high : Nat) :
    TakesNext (readSecondHalf high) s := by
  cases hs with
  | nil =>
    exact takesNext_error fun rest => ⟨.on .brokenPair ('"' :: rest), by simp [readSecondHalf]⟩
  | @plain c s hquote hslash hcontrol hs =>
    exact takesNext_error fun rest =>
      ⟨.on .brokenPair (c :: (s ++ '"' :: rest)), by simp [readSecondHalf, hslash]⟩
  | @escape c s hc hs =>
    have hu : c ≠ 'u' := by
      rintro rfl
      simp [escapes] at hc
    exact takesNext_error fun rest =>
      ⟨.on .brokenPair (c :: (s ++ '"' :: rest)), by simp [readSecondHalf, hu]⟩
  | @code a b c d s hhex hs =>
    obtain ⟨low, hlow⟩ := exists_readHex hhex
    have hread : ∀ rest, readSecondHalf high ('\\' :: 'u' :: a :: b :: c :: d :: s ++ '"' :: rest) =
        if 0xdc00 ≤ low ∧ low ≤ 0xdfff then
          .ok (Char.ofNat ((high - 0xd800) * 0x400 + (low - 0xdc00) + 0x10000), s ++ '"' :: rest)
        else .error (.before .loneHalf (s ++ '"' :: rest)) := by
      intro rest
      simp only [List.cons_append, readSecondHalf, hlow, bind, Except.bind]
      split <;> rfl
    by_cases hpair : 0xdc00 ≤ low ∧ low ≤ 0xdfff
    · exact takesNext_ok hs (by simp; omega) fun rest => by rw [hread, if_pos hpair]
    · exact takesNext_error fun rest => ⟨_, by rw [hread, if_neg hpair]⟩

theorem takesNext_readEscape {s : List Char} (hs : StringText ('\\' :: s)) :
    TakesNext readEscape s := by
  cases hs with
  | plain _ hslash => exact absurd rfl hslash
  | @escape c s hc hs =>
    simp only [escapes, List.mem_cons, List.not_mem_nil, or_false] at hc
    rcases hc with rfl | rfl | rfl | rfl | rfl | rfl | rfl | rfl <;>
      exact takesNext_ok hs (by simp) fun rest => rfl
  | @code a b c d s hhex hs =>
    obtain ⟨code, hcode⟩ := exists_readHex hhex
    have hread : ∀ rest, readEscape ('u' :: a :: b :: c :: d :: s ++ '"' :: rest) =
        if 0xdc00 ≤ code ∧ code ≤ 0xdfff then .error (.before .loneHalf (s ++ '"' :: rest))
        else if 0xd800 ≤ code ∧ code ≤ 0xdbff then readSecondHalf code (s ++ '"' :: rest)
        else .ok (Char.ofNat code, s ++ '"' :: rest) := by
      intro rest
      simp only [List.cons_append, readEscape, readCode, hcode, bind, Except.bind]
      split
      · rfl
      · split <;> rfl
    by_cases hlow : 0xdc00 ≤ code ∧ code ≤ 0xdfff
    · exact takesNext_error fun rest => ⟨_, by rw [hread, if_pos hlow]⟩
    by_cases hhigh : 0xd800 ≤ code ∧ code ≤ 0xdbff
    · obtain ⟨outcome, hleft, hsecond⟩ := takesNext_readSecondHalf hs code
      refine ⟨outcome, fun d left heq => ?_, fun rest => ?_⟩
      · obtain ⟨htext, hlength⟩ := hleft d left heq
        exact ⟨htext, by simp; omega⟩
      · rw [hread, if_neg hlow, if_pos hhigh, hsecond]
    · exact takesNext_ok hs (by simp; omega) fun rest => by rw [hread, if_neg hlow, if_neg hhigh]

/-- By induction on the length of the text: an escape takes several characters at once, and a pair of
halves two codes. -/
theorem exists_readCharsWith {s : List Char} (hs : StringText s) :
    ∃ outcome : Option (List Char), ∀ fuel rest, s.length < fuel →
      (readCharsWith fuel (s ++ '"' :: rest)).toOption = outcome.map (·, rest) := by
  induction hlength : s.length using Nat.strongRecOn generalizing s with
  | ind n ih =>
    subst hlength
    cases s with
    | nil =>
      refine ⟨some [], fun fuel rest hfuel => ?_⟩
      obtain ⟨fuel, rfl⟩ : ∃ k, fuel = k + 1 := ⟨fuel - 1, by omega⟩
      rfl
    | cons c s =>
      by_cases hslash : c = '\\'
      · subst hslash
        obtain ⟨next, hnext, hread⟩ := takesNext_readEscape hs
        cases next with
        | none =>
          refine ⟨none, fun fuel rest hfuel => ?_⟩
          obtain ⟨fuel, rfl⟩ : ∃ k, fuel = k + 1 := ⟨fuel - 1, by omega⟩
          rw [List.cons_append, readCharsWith, if_neg (by decide), if_pos rfl, toOption_bind, hread]
          rfl
        | some p =>
          obtain ⟨d, left⟩ := p
          obtain ⟨hleft, hle⟩ := hnext d left rfl
          obtain ⟨outcome, hlater⟩ := ih left.length (Nat.lt_succ_of_le hle) hleft rfl
          refine ⟨outcome.map (d :: ·), fun fuel rest hfuel => ?_⟩
          obtain ⟨fuel, rfl⟩ : ∃ k, fuel = k + 1 := ⟨fuel - 1, by omega⟩
          have hmore := hlater fuel rest (Nat.lt_of_le_of_lt hle (by simpa using hfuel))
          rw [List.cons_append, readCharsWith, if_neg (by decide), if_pos rfl, toOption_bind, hread,
            Option.map_some, Option.bind_some, toOption_bind, hmore]
          cases outcome <;> rfl
      · cases hs with
        | escape => exact absurd rfl hslash
        | code => exact absurd rfl hslash
        | plain hquote _ hcontrol hs =>
          obtain ⟨outcome, hlater⟩ := ih s.length (Nat.lt_succ_self _) hs rfl
          refine ⟨outcome.map (c :: ·), fun fuel rest hfuel => ?_⟩
          obtain ⟨fuel, rfl⟩ : ∃ k, fuel = k + 1 := ⟨fuel - 1, by omega⟩
          have hmore := hlater fuel rest (by simpa using hfuel)
          rw [List.cons_append, readCharsWith, if_neg hquote, if_neg hslash, if_neg hcontrol,
            toOption_bind, hmore]
          cases outcome <;> rfl

/-- A string whose opening quote was read, up to its closing quote. -/
theorem exists_takes_string {s : List Char} (hs : StringText s) :
    ∃ outcome, Takes readString (s ++ ['"']) outcome := by
  obtain ⟨outcome, hchars⟩ := exists_readCharsWith hs
  refine ⟨outcome.map String.ofList, fun rest _ => ?_⟩
  have hlength : s.length < (s ++ '"' :: rest).length + 1 := by
    rw [List.length_append]
    omega
  rw [List.append_assoc, List.singleton_append, readString, toOption_bind, hchars _ rest hlength]
  cases outcome <;> rfl

/-! ## Numbers -/

/-- No digit comes next. -/
def NoDigit (s : List Char) : Prop := ∀ c ∈ s.head?, c.isDigit = false

theorem Ends.noDigit {rest : List Char} (h : Ends rest) : NoDigit rest := fun c hc => (h c hc).1

theorem readDigits_of_digits {digits rest : List Char} (hdigits : Digits digits)
    (hrest : NoDigit rest) : readDigits (digits ++ rest) = .ok (digits, rest) := by
  have htake : (digits ++ rest).takeWhile Char.isDigit = digits := by
    rw [List.takeWhile_append_of_pos hdigits.all]
    cases rest with
    | nil => simp
    | cons c rest => simp [hrest c rfl]
  have hdrop : (digits ++ rest).dropWhile Char.isDigit = rest := by
    rw [List.dropWhile_append_of_pos hdigits.all]
    cases rest with
    | nil => rfl
    | cons c rest => simp [hrest c rfl]
  obtain ⟨c, s, rfl⟩ := List.exists_cons_of_ne_nil hdigits.ne_nil
  rw [List.cons_append, readDigits, if_pos (hdigits.all c List.mem_cons_self), ← List.cons_append,
    htake, hdrop]

theorem readWhole_of_whole {whole rest : List Char} (hwhole : WholeText whole)
    (hrest : NoDigit rest) : readWhole (whole ++ rest) = .ok (whole, rest) := by
  cases hwhole with
  | zero =>
    cases rest with
    | nil => rfl
    | cons c rest => simp [readWhole, hrest c rfl]
  | digits hs hhead =>
    have hread := readDigits_of_digits hs hrest
    unfold readWhole
    split
    · next c s heq =>
      obtain ⟨d, digits, rfl⟩ := List.exists_cons_of_ne_nil hs.ne_nil
      obtain rfl : d = '0' := (List.cons.inj heq).1
      exact absurd rfl hhead
    · exact hread

theorem exists_readFraction {fraction : List Char} (h : FractionText fraction) :
    ∃ places, ∀ rest, NoDigit rest → rest.head? ≠ some '.' →
      readFraction (fraction ++ rest) = .ok (places, rest) := by
  cases h with
  | absent =>
    refine ⟨none, fun rest _ hpoint => ?_⟩
    rw [List.nil_append]
    unfold readFraction
    split
    · exact absurd rfl hpoint
    · rfl
  | @present digits hdigits =>
    refine ⟨some digits, fun rest hrest _ => ?_⟩
    rw [List.cons_append, readFraction, readDigits_of_digits hdigits hrest]
    rfl

/-- What an exponent out of range leaves over is digits. -/
theorem mem_of_mem_takeExponent {n : Nat} {s : List Char} {c : Char}
    (h : c ∈ (takeExponent n s).2) : c ∈ s := by
  induction s generalizing n with
  | nil => exact h
  | cons d s ih =>
    rw [takeExponent] at h
    split at h
    · exact h
    · split at h
      · exact List.mem_cons_of_mem _ h
      · exact List.mem_cons_of_mem _ (ih h)

theorem readPower_of_digits {digits rest : List Char} (sign : Int) (hdigits : Digits digits)
    (hrest : Ends rest) :
    readPower sign (digits ++ rest) =
      .ok (some (sign * (takeExponent 0 digits).1), (takeExponent 0 digits).2 ++ rest) := by
  simp only [readPower, readDigits_of_digits hdigits hrest.noDigit, takeExponent_append hrest]
  rfl

theorem exists_readExponent {exponent : List Char} (h : ExponentText exponent) :
    ∃ value left, (∀ c ∈ left, c.isDigit) ∧
      ∀ rest, Ends rest → readExponent (exponent ++ rest) = .ok (value, left ++ rest) := by
  cases h with
  | absent =>
    refine ⟨none, [], by simp, fun rest hrest => ?_⟩
    cases rest with
    | nil => rfl
    | cons c rest =>
      obtain ⟨-, -, hsmall, hlarge⟩ := hrest c rfl
      simp [readExponent, hsmall, hlarge]
  | @present e sign digits he hsign hdigits =>
    have hleft : ∀ c ∈ (takeExponent 0 digits).2, c.isDigit := fun c hc =>
      hdigits.all c (mem_of_mem_takeExponent hc)
    obtain ⟨factor, hfactor⟩ : ∃ factor : Int, ∀ rest,
        readExponent (e :: (sign ++ digits) ++ rest) = readPower factor (digits ++ rest) := by
      rcases hsign with rfl | rfl | rfl
      · refine ⟨1, fun rest => ?_⟩
        obtain ⟨d, digits, rfl⟩ := List.exists_cons_of_ne_nil hdigits.ne_nil
        have hd : d.isDigit := hdigits.all d List.mem_cons_self
        have hplus : d ≠ '+' := by
          rintro rfl
          exact absurd hd (by decide)
        have hminus : d ≠ '-' := by
          rintro rfl
          exact absurd hd (by decide)
        simp [readExponent, he, hplus, hminus]
      · exact ⟨1, fun rest => by simp [readExponent, he]⟩
      · exact ⟨-1, fun rest => by simp [readExponent, he]⟩
    exact ⟨some (factor * (takeExponent 0 digits).1), _, hleft, fun rest hrest => by
      rw [hfactor, readPower_of_digits factor hdigits hrest]⟩

theorem ExponentText.head {exponent rest : List Char} (h : ExponentText exponent)
    (hrest : Ends rest) : NoDigit (exponent ++ rest) ∧ (exponent ++ rest).head? ≠ some '.' := by
  cases h with
  | absent => exact ⟨hrest.noDigit, fun hpoint => (hrest '.' hpoint).2.1 rfl⟩
  | present he =>
    rcases he with rfl | rfl
    all_goals
      refine ⟨?_, by simp⟩
      rintro c ⟨⟩
      decide

theorem FractionText.noDigit {fraction rest : List Char} (h : FractionText fraction)
    (hrest : NoDigit rest) : NoDigit (fraction ++ rest) := by
  cases h with
  | absent => exact hrest
  | present =>
    rintro c ⟨⟩
    decide

theorem WholeText.head_isDigit {whole : List Char} (h : WholeText whole) :
    ∃ c s, whole = c :: s ∧ c.isDigit := by
  cases h with
  | zero => exact ⟨'0', [], rfl, by decide⟩
  | digits hs _ =>
    obtain ⟨c, s, rfl⟩ := List.exists_cons_of_ne_nil hs.ne_nil
    exact ⟨c, s, rfl, hs.all c List.mem_cons_self⟩

theorem exists_takes_unsigned {whole fraction exponent : List Char} (negative : Bool)
    (hwhole : WholeText whole) (hfraction : FractionText fraction)
    (hexponent : ExponentText exponent) :
    ∃ outcome, Takes (readUnsigned negative) (whole ++ (fraction ++ exponent)) outcome := by
  obtain ⟨places, hplaces⟩ := exists_readFraction hfraction
  obtain ⟨value, left, hleft, hvalue⟩ := exists_readExponent hexponent
  refine ⟨numberOf negative whole places value, fun rest hrest => ?_⟩
  obtain ⟨hnodigit, hpoint⟩ := hexponent.head hrest
  have hdrop : (left ++ rest).dropWhile Char.isDigit = rest := by
    rw [Text.dropWhile_append_of_head hrest.isDigit_eq, List.dropWhile_eq_nil_iff.2 hleft,
      List.nil_append]
  rw [List.append_assoc, List.append_assoc]
  simp only [readUnsigned, readWhole_of_whole hwhole (hfraction.noDigit hnodigit),
    hplaces _ hnodigit hpoint, hvalue rest hrest, bind, Except.bind]
  cases numberOf negative whole places value with
  | none => rfl
  | some n =>
    simp only [hdrop]
    rfl

theorem exists_takes_number {s : List Char} (hs : NumberText s) :
    ∃ outcome, Takes readNumber s outcome := by
  cases hs with
  | @mk sign whole fraction exponent hsign hwhole hfraction hexponent =>
    rcases hsign with rfl | rfl
    · obtain ⟨outcome, htakes⟩ := exists_takes_unsigned false hwhole hfraction hexponent
      refine ⟨outcome, fun rest hrest => ?_⟩
      rw [← htakes rest hrest, List.nil_append]
      obtain ⟨c, s, rfl, hc⟩ := hwhole.head_isDigit
      unfold readNumber
      split
      · next heq => exact absurd ((List.cons.inj heq).1 ▸ hc) (by decide)
      · rfl
    · obtain ⟨outcome, htakes⟩ := exists_takes_unsigned true hwhole hfraction hexponent
      exact ⟨outcome, htakes⟩

theorem NumberText.startsNumber {s : List Char} (hs : NumberText s) (rest : List Char) :
    startsNumber (s ++ rest) := by
  cases hs with
  | mk hsign hwhole _ _ =>
    rcases hsign with rfl | rfl
    · obtain ⟨c, s, rfl, hc⟩ := hwhole.head_isDigit
      simp [Json.startsNumber, hc]
    · rfl

end ChassisCooling.Json
