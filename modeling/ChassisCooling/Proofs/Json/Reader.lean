import ChassisCooling.Json.Reader
import ChassisCooling.Proofs.Json.Token

/-!
# Written values are read back

A reader of values of one type `Reads` a value if it makes the right thing of its text, in every
layout. The members of an object are gathered one after the other: where each of them takes the
reader of members from one state to the next (`Gathers`), the text of the object takes it from the
first state to the last.

* `Json.reads_number`, `Json.reads_natural`, `Json.reads_bool`, `Json.reads_path`: leaves.
* `Json.readObject_object`: objects.
-/

namespace ChassisCooling.Json

open Value (afterKey escaped fieldChars lineBreak quoted)

/-- Whatever blanks stand before a value, and whatever text that ends it comes after it, the value
is read as `a`. -/
def Reads {α : Type} (read : Reader α) (v : Value) (a : α) : Prop :=
  ∀ (layout : Option Nat) (blanks rest : List Char), (∀ c ∈ blanks, isBlank c) → Ends rest →
    read (blanks ++ (v.chars layout ++ rest)) = .ok (a, rest)

theorem Reads.map {α β : Type} {read : Reader α} {v : Value} {a : α} (h : Reads read v a)
    (f : α → β) :
    Reads (fun s => do let (a, rest) ← read s; return (f a, rest)) v (f a) := by
  intro layout blanks rest hblanks hrest
  simp only [h layout blanks rest hblanks hrest, bind, Except.bind]
  rfl

/-! ## Leaves -/

/-- What is written for a number is read to its end, as this number. -/
def ReadsBack {f : Format} (x : Binary f) : Prop :=
  ∃ n, readNumber (Value.number x) = .ok (n, []) ∧ n.toBinary f = x

instance {f : Format} (x : Binary f) : Decidable (ReadsBack x) :=
  match h : readNumber (Value.number x) with
  | .ok (n, []) =>
    decidable_of_iff (n.toBinary f = x) <| by simp [ReadsBack, h]
  | .ok (_, _ :: _) | .error _ => .isFalse <| by simp [ReadsBack, h]

theorem startsNumber_append {s : List Char} (h : startsNumber s) (rest : List Char) :
    startsNumber (s ++ rest) := by
  cases s with
  | nil => cases h
  | cons c s => exact h

theorem skipBlanks_of_startsNumber {s : List Char} (h : startsNumber s) : skipBlanks s = s := by
  cases s with
  | nil => rfl
  | cons c s =>
    have hc : c = '-' ∨ c.isDigit := by simpa [startsNumber] using h
    refine skipBlanks_cons ?_ s
    rcases hc with rfl | hc
    · rfl
    · exact isBlank_of_isDigit hc

/-- What the readers of numbers look at: the text without the blanks, and the number at its front. -/
theorem readNumber_blanks {s blanks rest : List Char} {n : Number}
    (h : readNumber s = .ok (n, [])) (hblanks : ∀ c ∈ blanks, isBlank c) (hrest : Ends rest) :
    startsNumber (skipBlanks (blanks ++ (s ++ rest))) = true ∧
      readNumber (skipBlanks (blanks ++ (s ++ rest))) = .ok (n, rest) := by
  have hstarts := startsNumber_append (startsNumber_of_readNumber h) rest
  rw [skipBlanks_append hblanks, skipBlanks_of_startsNumber hstarts]
  exact ⟨hstarts, readNumber_append h hrest⟩

theorem reads_number {f : Format} {expected : String} {x : Binary f} {v : Value}
    (hv : ∀ layout, v.chars layout = Value.number x) (h : ReadsBack x) :
    Reads (readBinary f expected) v x := by
  intro layout blanks rest hblanks hrest
  obtain ⟨n, hread, rfl⟩ := h
  obtain ⟨hstarts, hnumber⟩ := readNumber_blanks hread hblanks hrest
  rw [hv, readBinary, if_pos hstarts, hnumber]
  rfl

theorem reads_single {x : Single} (h : ReadsBack x) : Reads readSingle (.single x) x :=
  reads_number (fun _ => by rw [Value.chars]) h

theorem reads_double {x : Double} (h : ReadsBack x) : Reads readDouble (.double x) x :=
  reads_number (fun _ => by rw [Value.chars]) h

theorem reads_natural {n : Nat} (h : n < UInt64.size) : Reads readCount (.natural n) n := by
  intro layout blanks rest hblanks hrest
  obtain ⟨hstarts, hnumber⟩ := readNumber_blanks (readNumber_toString h) hblanks hrest
  rw [Value.chars, readCount, if_pos hstarts, hnumber]
  rfl

theorem readWord_append {α : Type} (a : α) (word rest : List Char) :
    readWord a word (word ++ rest) = .ok (a, rest) := by
  induction word with
  | nil => rfl
  | cons w word ih => simpa [readWord] using ih

theorem reads_bool (b : Bool) : Reads readBool (.bool b) b := by
  intro layout blanks rest hblanks _
  rw [Value.chars, readBool, skipBlanks_append hblanks]
  cases b with
  | true => exact readWord_append true "rue".toList rest
  | false => exact readWord_append false "alse".toList rest

theorem reads_path (path : Option String) : Reads readPath (.ofOption .string path) path := by
  intro layout blanks rest hblanks _
  rw [readPath, skipBlanks_append hblanks]
  cases path with
  | none =>
    rw [Value.ofOption, Value.chars]
    exact readWord_append none "ull".toList rest
  | some path =>
    have htext : quoted path ++ rest = '"' :: (path.toList.flatMap escaped ++ '"' :: rest) := by
      simp [quoted]
    rw [Value.ofOption, Value.chars, htext, skipBlanks_cons rfl]
    simp only [readString_quoted, bind, Except.bind]
    rfl

/-! ## Members of an object -/

/-- What stands between a key and its value is a colon and blanks. -/
theorem readColon_afterKey (layout : Option Nat) :
    ∃ blanks, (∀ c ∈ blanks, isBlank c) ∧
      ∀ s, readColon (afterKey layout ++ s) = .ok (blanks ++ s) := by
  cases layout with
  | none => exact ⟨[], by simp, fun s => rfl⟩
  | some depth => exact ⟨[' '], by simp [isBlank], fun s => rfl⟩

/-- A value behind the colon. -/
theorem Reads.afterColon {α : Type} {read : Reader α} {v : Value} {a : α} (h : Reads read v a)
    (layout : Option Nat) {rest : List Char} (hrest : Ends rest) :
    (readColon (afterKey layout ++ (v.chars layout ++ rest)) >>= read) = .ok (a, rest) := by
  obtain ⟨blanks, hblanks, hcolon⟩ := readColon_afterKey layout
  rw [hcolon]
  exact h layout blanks rest hblanks hrest

variable {σ : Type} {member : σ → String → Reader σ}

/-- Each member takes the reader of members from one state to the next. -/
inductive Gathers (member : σ → String → Reader σ) : σ → List (String × Value) → σ → Prop where
  | nil (acc : σ) : Gathers member acc [] acc
  | cons {acc next last : σ} {key : String} {v : Value} {members : List (String × Value)}
      (h : ∀ (layout : Option Nat) (rest : List Char), Ends rest →
        member acc key (afterKey layout ++ (v.chars layout ++ rest)) = .ok (next, rest))
      (hrest : Gathers member next members last) :
      Gathers member acc ((key, v) :: members) last

/-- A key with its value. -/
def memberText (layout : Option Nat) (m : String × Value) : List Char :=
  quoted m.1 ++ (afterKey layout ++ m.2.chars layout)

/-- The members after the first one. -/
def moreMembers (layout : Option Nat) (members : List (String × Value)) : List Char :=
  members.flatMap fun m => ',' :: (lineBreak layout ++ memberText layout m)

theorem fieldChars_cons (layout : Option Nat) (m : String × Value)
    (members : List (String × Value)) :
    fieldChars layout (m :: members) =
      lineBreak layout ++ (memberText layout m ++ moreMembers layout members) := by
  induction members generalizing m with
  | nil => simp [fieldChars, memberText, moreMembers]
  | cons m' members ih =>
    rw [fieldChars, ih m']
    · simp [memberText, moreMembers]
    · simp

/-- The closing bracket on a line of its own. -/
def closing (layout : Option Nat) (rest : List Char) : List Char :=
  lineBreak layout ++ '\x7d' :: rest

theorem chars_object_cons (layout : Option Nat) (m : String × Value)
    (members : List (String × Value)) (rest : List Char) :
    (Value.object (m :: members)).chars layout ++ rest =
      '\x7b' :: (lineBreak (layout.map (· + 1)) ++ (memberText (layout.map (· + 1)) m ++
        (moreMembers (layout.map (· + 1)) members ++ closing layout rest))) := by
  simp [Value.chars, fieldChars_cons, closing]

theorem ends_moreMembers (outer layout : Option Nat) (members : List (String × Value))
    (rest : List Char) : Ends (moreMembers layout members ++ closing outer rest) := by
  cases members with
  | nil =>
    cases outer with
    | none => exact .cons (by decide) (by decide) (by decide) (by decide)
    | some depth => exact .cons (by decide) (by decide) (by decide) (by decide)
  | cons m members => exact .cons (by decide) (by decide) (by decide) (by decide)

/-! ### Where the brackets lead -/

/-- Skipping a line break leads to a member, which starts with a quote. -/
theorem skipBlanks_member (layout : Option Nat) (m : String × Value) (s : List Char) :
    ∃ rest, memberText layout m ++ s = '"' :: rest ∧
      skipBlanks (lineBreak layout ++ (memberText layout m ++ s)) = '"' :: rest := by
  refine ⟨m.1.toList.flatMap escaped ++ '"' :: (afterKey layout ++ (m.2.chars layout ++ s)),
    by simp [memberText, quoted], ?_⟩
  rw [skipBlanks_append fun _ => isBlank_of_mem_lineBreak]
  simp [memberText, quoted, skipBlanks_cons (show isBlank '"' = false from rfl)]

theorem next_first (layout : Option Nat) (m : String × Value) (s : List Char) :
    Brackets.object.next true (lineBreak layout ++ (memberText layout m ++ s)) =
      .ok (.element (memberText layout m ++ s)) := by
  obtain ⟨rest, htext, hskip⟩ := skipBlanks_member layout m s
  rw [htext, ← htext, Brackets.next, hskip, htext]
  rfl

theorem next_more (layout : Option Nat) (m : String × Value) (s : List Char) :
    Brackets.object.next false (',' :: (lineBreak layout ++ (memberText layout m ++ s))) =
      .ok (.element (memberText layout m ++ s)) := by
  obtain ⟨rest, htext, hskip⟩ := skipBlanks_member layout m s
  simp only [Brackets.next, skipBlanks_cons (show isBlank ',' = false from rfl), hskip]
  rw [htext]
  rfl

theorem next_closing (layout : Option Nat) (first : Bool) (rest : List Char) :
    Brackets.object.next first (closing layout rest) = .ok (.closed rest) := by
  rw [Brackets.next, closing, skipBlanks_append fun _ => isBlank_of_mem_lineBreak,
    skipBlanks_cons rfl]
  rfl

theorem readKey_memberText (layout : Option Nat) (m : String × Value) (s : List Char) :
    readKey (memberText layout m ++ s) = .ok (m.1, afterKey layout ++ (m.2.chars layout ++ s)) := by
  have htext : memberText layout m ++ s =
      '"' :: (m.1.toList.flatMap escaped ++ '"' :: (afterKey layout ++ (m.2.chars layout ++ s))) := by
    simp [memberText, quoted]
  rw [htext]
  exact readString_quoted _ _

/-! ### The whole object -/

/-- One member of an object, from its key on. -/
def readMemberWith (member : σ → String → Reader σ) (acc : σ) (s : List Char) :
    Except Stop (Parsed σ) := do
  let (key, rest) ← readKey s
  member acc key rest

theorem readMemberWith_memberText {acc next : σ} {layout : Option Nat} {m : String × Value}
    {s : List Char} (h : member acc m.1 (afterKey layout ++ (m.2.chars layout ++ s)) = .ok (next, s)) :
    readMemberWith member acc (memberText layout m ++ s) = .ok (next, s) := by
  unfold readMemberWith
  rw [readKey_memberText]
  exact h

theorem readElements_moreMembers {acc last : σ} {members : List (String × Value)}
    (h : Gathers member acc members last) (outer layout : Option Nat) (rest : List Char)
    {fuel : Nat} (hfuel : (moreMembers layout members).length < fuel) :
    readElements .object (readMemberWith member) fuel false acc
      (moreMembers layout members ++ closing outer rest) = .ok (last, rest) := by
  induction h generalizing fuel with
  | nil acc =>
    obtain ⟨fuel, rfl⟩ : ∃ k, fuel = k + 1 := ⟨fuel - 1, by omega⟩
    simp only [moreMembers, List.flatMap_nil, List.nil_append, readElements, next_closing, bind,
      Except.bind]
    rfl
  | @cons acc next last key v members hmember _ ih =>
    obtain ⟨fuel, rfl⟩ : ∃ k, fuel = k + 1 := ⟨fuel - 1, by omega⟩
    have hmore : moreMembers layout ((key, v) :: members) =
        ',' :: (lineBreak layout ++ (memberText layout (key, v) ++ moreMembers layout members)) := by
      simp [moreMembers]
    rw [hmore, List.length_cons, List.length_append, List.length_append] at hfuel
    have hends := ends_moreMembers outer layout members rest
    have hread := readMemberWith_memberText (m := (key, v)) (hmember layout _ hends)
    simp only [hmore, List.cons_append, List.append_assoc, readElements, next_more, hread, bind,
      Except.bind]
    exact ih (by omega)

/-- An object is read from what follows its opening bracket. -/
theorem readObject_object {acc last : σ} {members : List (String × Value)}
    (h : Gathers member acc members last) (layout : Option Nat) (rest : List Char) :
    ∃ body, (Value.object members).chars layout ++ rest = '\x7b' :: body ∧
      readObject member acc body = .ok (last, rest) := by
  cases h with
  | nil =>
    refine ⟨'\x7d' :: rest, by simp [Value.chars], ?_⟩
    show readElements .object (readMemberWith member) _ true acc (closing none rest) = _
    simp only [readElements, next_closing, bind, Except.bind]
    rfl
  | @cons _ next _ key v members hmember hmore =>
    refine ⟨_, chars_object_cons layout (key, v) members rest, ?_⟩
    have hends := ends_moreMembers layout (layout.map (· + 1)) members rest
    have hread := readMemberWith_memberText (m := (key, v))
      (hmember (layout.map (· + 1)) _ hends)
    show readElements .object (readMemberWith member) _ true acc _ = _
    simp only [readElements, next_first, hread, bind, Except.bind]
    exact readElements_moreMembers hmore layout _ rest (by simp [closing]; omega)

end ChassisCooling.Json
