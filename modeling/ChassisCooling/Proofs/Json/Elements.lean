import ChassisCooling.Proofs.Json.Grammar
import ChassisCooling.Proofs.Json.Reader
import ChassisCooling.Proofs.Pointwise

/-!
# Readers of values and of brackets, by the grammar

What the reader of a type takes from the text of a value does not depend on what comes after the
value, also where the value has another type. So an array or an object is read as its elements are,
one after the other: each is taken from its own text, and blanks, commas and the order of faults in
the text leave no trace in what is read.

* `exists_takes_numeric`, `exists_takes_bool`, `exists_takes_path`: values of one type.
* `takes_sequence`: the elements between brackets.
* `takes_object`: the members of an object.
* `toOption_ofText`: a whole text.
-/

namespace ChassisCooling.Json

variable {v rest : List Char}

/-! ## The first character of a value -/

theorem Enclosed.head {opening closing : Char} {texts : List (List Char)}
    (h : Enclosed opening closing texts v) : ∃ body, v = opening :: body := by
  cases h <;> exact ⟨_, rfl⟩

theorem ObjectText.head {members : List Member} (h : ObjectText members v) :
    ∃ body, v = '\x7b' :: body := by
  obtain ⟨texts, -, henclosed⟩ := h
  exact henclosed.head

/-- The kinds of values, as far as the first character tells them. -/
inductive Kind : List Char → Prop where
  | null : Kind ['n', 'u', 'l', 'l']
  | yes : Kind ['t', 'r', 'u', 'e']
  | no : Kind ['f', 'a', 'l', 's', 'e']
  | number {s : List Char} (hs : NumberText s) : Kind s
  | string {s : List Char} (hs : StringText s) : Kind ('"' :: (s ++ ['"']))
  | array (s : List Char) : Kind ('[' :: s)
  | object (s : List Char) : Kind ('\x7b' :: s)

theorem ValueText.kind (h : ValueText v) : Kind v := by
  cases h with
  | null => exact .null
  | yes => exact .yes
  | no => exact .no
  | number hs => exact .number hs
  | string hs => exact .string hs
  | array hs =>
    obtain ⟨body, rfl⟩ := hs.head
    exact .array body
  | object hs =>
    obtain ⟨body, rfl⟩ := hs.head
    exact .object body

theorem NumberText.head {s : List Char} (hs : NumberText s) :
    ∃ c t, s = c :: t ∧ (c = '-' ∨ c.isDigit) := by
  have hstarts := hs.startsNumber []
  rw [List.append_nil] at hstarts
  cases s with
  | nil => cases hstarts
  | cons c t => exact ⟨c, t, rfl, by simpa [Json.startsNumber] using hstarts⟩

/-- What an element starts with: neither a blank nor the closing bracket. -/
def Leads (close : Char) (s : List Char) : Prop :=
  ∃ c t, s = c :: t ∧ isBlank c = false ∧ c ≠ close

theorem ValueText.leads (h : ValueText v) : Leads ']' v := by
  cases h.kind with
  | number hs =>
    obtain ⟨c, t, rfl, hc⟩ := hs.head
    refine ⟨c, t, rfl, ?_⟩
    rcases hc with rfl | hc
    · decide
    · refine ⟨isBlank_of_isDigit hc, ?_⟩
      rintro rfl
      exact absurd hc (by decide)
  | _ => exact ⟨_, _, rfl, by decide⟩

theorem Leads.skipBlanks {close : Char} {s : List Char} (h : Leads close s) (rest : List Char) :
    skipBlanks (s ++ rest) = s ++ rest := by
  obtain ⟨c, t, rfl, hblank, -⟩ := h
  exact skipBlanks_cons hblank (t ++ rest)

/-! ## Values of one type -/

/-- A reader that passes over blanks. -/
def Skips {α : Type} (read : Reader α) : Prop :=
  ∀ blanks s : List Char, Blanks blanks → read (blanks ++ s) = read s

theorem Skips.map {α β : Type} {read : Reader α} (h : Skips read) (f : α → β) :
    Skips (fun s => do let (a, rest) ← read s; return (f a, rest)) :=
  fun blanks s hblanks => by simp only [h blanks s hblanks]

theorem skips_readBinary (f : Format) (expected : String) : Skips (readBinary f expected) :=
  fun blanks s hblanks => by simp only [readBinary, skipBlanks_append hblanks s]

theorem skips_readCount : Skips readCount :=
  fun blanks s hblanks => by simp only [readCount, skipBlanks_append hblanks s]

theorem skips_readBool : Skips readBool :=
  fun blanks s hblanks => by simp only [readBool, skipBlanks_append hblanks s]

theorem skips_readPath : Skips readPath :=
  fun blanks s hblanks => by simp only [readPath, skipBlanks_append hblanks s]

/-- Numbers are taken by their text, and a value of another kind is refused. -/
theorem exists_takes_numeric {α : Type} {expected : String}
    {step : Parsed Number → Except Stop (Parsed α)}
    (hstep : ∀ n, ∃ value : Option α, ∀ rest, (step (n, rest)).toOption = value.map (·, rest))
    (hv : ValueText v) :
    ∃ outcome, Takes (fun s =>
      if startsNumber (skipBlanks s) then readNumber (skipBlanks s) >>= step
      else .error (unexpected expected (skipBlanks s))) v outcome := by
  cases hv.kind with
  | number hs =>
    obtain ⟨number, hnumber⟩ := exists_takes_number hs
    obtain ⟨outcome, htakes⟩ := hnumber.exists_bind hstep
    refine ⟨outcome, fun rest hrest => ?_⟩
    simp only [hv.leads.skipBlanks rest, hs.startsNumber rest, if_true]
    exact htakes rest hrest
  | _ =>
    exact ⟨none, takes_none fun rest _ =>
      ⟨_, if_neg (by simp [skipBlanks, isBlank, startsNumber])⟩⟩

theorem exists_takes_binary (f : Format) (expected : String) (hv : ValueText v) :
    ∃ outcome, Takes (readBinary f expected) v outcome :=
  exists_takes_numeric (fun n => ⟨some (n.toBinary f), fun _ => rfl⟩) hv

theorem exists_takes_count (hv : ValueText v) : ∃ outcome, Takes readCount v outcome := by
  refine exists_takes_numeric (fun n => ?_) hv
  cases n with
  | natural n => exact ⟨some n, fun _ => rfl⟩
  | negative n => exact ⟨none, fun _ => rfl⟩
  | real x => exact ⟨none, fun _ => rfl⟩

theorem readBool_of_startsNumber {s : List Char} (h : startsNumber s) :
    ∃ stop, readBool s = .error stop := by
  unfold readBool
  rw [skipBlanks_of_startsNumber h]
  split
  · simp [startsNumber] at h
  · simp [startsNumber] at h
  · exact ⟨_, rfl⟩

theorem exists_takes_bool (hv : ValueText v) : ∃ outcome, Takes readBool v outcome := by
  cases hv.kind with
  | yes => exact ⟨some true, takes_some fun rest _ => rfl⟩
  | no => exact ⟨some false, takes_some fun rest _ => rfl⟩
  | number hs =>
    exact ⟨none, takes_none fun rest _ => readBool_of_startsNumber (hs.startsNumber rest)⟩
  | _ => exact ⟨none, takes_none fun rest _ => ⟨_, rfl⟩⟩

theorem readPath_of_startsNumber {s : List Char} (h : startsNumber s) :
    ∃ stop, readPath s = .error stop := by
  unfold readPath
  rw [skipBlanks_of_startsNumber h]
  split
  · simp [startsNumber] at h
  · simp [startsNumber] at h
  · exact ⟨_, rfl⟩

theorem exists_takes_path (hv : ValueText v) : ∃ outcome, Takes readPath v outcome := by
  cases hv.kind with
  | null => exact ⟨some none, takes_some fun rest _ => rfl⟩
  | number hs =>
    exact ⟨none, takes_none fun rest _ => readPath_of_startsNumber (hs.startsNumber rest)⟩
  | string hs =>
    obtain ⟨outcome, htakes⟩ := exists_takes_string hs
    exact ⟨outcome.map some, fun rest hrest => htakes.map some rest hrest⟩
  | _ => exact ⟨none, takes_none fun rest _ => ⟨_, rfl⟩⟩

/-! ## Sequences -/

theorem ends_append {blanks : List Char} (hblanks : Blanks blanks) (hrest : Ends rest) :
    Ends (blanks ++ rest) := by
  cases blanks with
  | nil => exact hrest
  | cons c blanks =>
    have hc : c = ' ' ∨ c = '\n' ∨ c = '\t' ∨ c = '\r' := by
      simpa [isBlank] using hblanks c List.mem_cons_self
    rcases hc with rfl | rfl | rfl | rfl <;>
      exact .cons (by decide) (by decide) (by decide) (by decide)

theorem ends_comma (s : List Char) : Ends (',' :: s) :=
  .cons (by decide) (by decide) (by decide) (by decide)

/-- What is known of a closing bracket. -/
structure Brackets.Proper (b : Brackets) : Prop where
  notBlank : isBlank b.close = false
  notComma : ',' ≠ b.close
  ends : ∀ rest, Ends (b.close :: rest)

theorem Brackets.proper_list : Brackets.list.Proper where
  notBlank := rfl
  notComma := by decide
  ends _ := .cons (by decide) (by decide) (by decide) (by decide)

theorem Brackets.proper_object : Brackets.object.Proper where
  notBlank := rfl
  notComma := by decide
  ends _ := .cons (by decide) (by decide) (by decide) (by decide)

/-- What stands before an element and the blanks around it: nothing before the first one, and a comma
before any other. -/
inductive Lead : Bool → List Char → Prop where
  | first : Lead true []
  | later {blanks : List Char} (hblanks : Blanks blanks) : Lead false (blanks ++ [','])

variable {b : Brackets}

theorem Brackets.next_of_leads (hb : b.Proper) {first : Bool} {lead before s : List Char}
    (hlead : Lead first lead) (hbefore : Blanks before) (hs : Leads b.close s) (rest : List Char) :
    b.next first (lead ++ (before ++ (s ++ rest))) = .ok (.element (s ++ rest)) := by
  obtain ⟨c, t, rfl, hblank, hclose⟩ := hs
  have hskip : skipBlanks (before ++ c :: (t ++ rest)) = c :: (t ++ rest) := by
    rw [skipBlanks_append hbefore, skipBlanks_cons hblank]
  rw [List.cons_append]
  cases hlead with
  | first => simp only [List.nil_append, Brackets.next, hskip, if_neg hclose, if_true]
  | @later blanks hblanks =>
    have hcomma : skipBlanks (blanks ++ [','] ++ (before ++ c :: (t ++ rest))) =
        ',' :: (before ++ c :: (t ++ rest)) := by
      rw [List.append_assoc, skipBlanks_append hblanks]
      exact skipBlanks_cons rfl _
    simp only [Brackets.next, hcomma, hskip, if_neg hb.notComma, if_neg hclose, if_true,
      Bool.false_eq_true, if_false]

theorem Brackets.next_of_close (hb : b.Proper) (first : Bool) {blanks : List Char}
    (hblanks : Blanks blanks) (rest : List Char) :
    b.next first (blanks ++ b.close :: rest) = .ok (.closed rest) := by
  simp only [Brackets.next, skipBlanks_append hblanks, skipBlanks_cons hb.notBlank, if_true]

section Sequence

variable {σ : Type} {element : σ → Reader σ}

theorem readElements_of_close (hb : b.Proper) (first : Bool) (acc : σ) {fuel : Nat} (hfuel : 0 < fuel)
    {blanks : List Char} (hblanks : Blanks blanks) (rest : List Char) :
    readElements b element fuel first acc (blanks ++ b.close :: rest) = .ok (acc, rest) := by
  obtain ⟨fuel, rfl⟩ : ∃ k, fuel = k + 1 := ⟨fuel - 1, by omega⟩
  simp only [readElements, Brackets.next_of_close hb first hblanks rest, bind, Except.bind]
  rfl

/-- One element is taken, and the others are read from what is left. -/
theorem toOption_readElements_cons (hb : b.Proper) {first : Bool} {lead before text : List Char}
    {acc : σ} {fuel : Nat} (hlead : Lead first lead) (hbefore : Blanks before)
    (htext : Leads b.close text) (htakes : ∃ outcome, Takes (element acc) text outcome)
    (hrest : Ends rest) :
    (readElements b element (fuel + 1) first acc (lead ++ (before ++ (text ++ rest)))).toOption =
      (taken (element acc) text).bind fun acc =>
        (readElements b element fuel false acc rest).toOption := by
  have hread := takes_taken htakes rest hrest
  rw [readElements, Brackets.next_of_leads hb hlead hbefore htext rest, toOption_bind]
  show (element acc (text ++ rest) >>= _).toOption = _
  rw [toOption_bind, hread]
  cases taken (element acc) text <;> rfl

/-- By induction on the list of elements: each leaves what stands after it. -/
theorem toOption_readElements (hb : b.Proper) {texts : List (List Char)} {s : List Char}
    (hs : Listed texts s) (hleads : ∀ text ∈ texts, Leads b.close text)
    (htakes : ∀ acc, ∀ text ∈ texts, ∃ outcome, Takes (element acc) text outcome)
    {first : Bool} {lead : List Char} (hlead : Lead first lead) (acc : σ) (rest : List Char)
    {fuel : Nat} (hfuel : (lead ++ (s ++ b.close :: rest)).length < fuel) :
    (readElements b element fuel first acc (lead ++ (s ++ b.close :: rest))).toOption =
      (texts.foldlM (fun acc text => taken (element acc) text) acc).map (·, rest) := by
  induction hs generalizing first lead acc fuel with
  | @last before text after hbefore hafter =>
    obtain ⟨fuel, rfl⟩ : ∃ k, fuel = k + 1 := ⟨fuel - 1, by omega⟩
    have hpos : 0 < fuel := by
      simp at hfuel
      omega
    simp only [List.append_assoc]
    rw [toOption_readElements_cons hb hlead hbefore (hleads text List.mem_cons_self)
      (htakes acc text List.mem_cons_self) (ends_append hafter (hb.ends rest))]
    simp only [readElements_of_close hb false _ hpos hafter rest, List.foldlM_cons, List.foldlM_nil]
    cases taken (element acc) text <;> rfl
  | @cons before text after s texts hbefore hafter _ ih =>
    obtain ⟨fuel, rfl⟩ : ∃ k, fuel = k + 1 := ⟨fuel - 1, by omega⟩
    have hmore := ih (fun text htext => hleads text (List.mem_cons_of_mem _ htext))
      (fun acc text htext => htakes acc text (List.mem_cons_of_mem _ htext)) (.later hafter)
    have hends : Ends (after ++ (',' :: (s ++ b.close :: rest))) :=
      ends_append hafter (ends_comma _)
    simp only [List.append_assoc, List.cons_append]
    rw [toOption_readElements_cons hb hlead hbefore (hleads text List.mem_cons_self)
      (htakes acc text List.mem_cons_self) hends, List.foldlM_cons]
    cases taken (element acc) text with
    | none => rfl
    | some next =>
      have hlength : (after ++ [','] ++ (s ++ b.close :: rest)).length < fuel := by
        have hpos : 0 < text.length := by
          obtain ⟨c, t, rfl, -⟩ := hleads text List.mem_cons_self
          exact Nat.succ_pos _
        simp at hfuel ⊢
        omega
      have htail := hmore next hlength
      rw [List.append_assoc, List.singleton_append] at htail
      exact htail

/-- A sequence is read as its elements are, one after the other. -/
theorem takes_sequence (hb : b.Proper) {opening : Char} {texts : List (List Char)}
    {body : List Char} (hs : Enclosed opening b.close texts (opening :: body))
    (hleads : ∀ text ∈ texts, Leads b.close text)
    (htakes : ∀ acc, ∀ text ∈ texts, ∃ outcome, Takes (element acc) text outcome) (acc : σ) :
    Takes (readSequence b element acc) body
      (texts.foldlM (fun acc text => taken (element acc) text) acc) := by
  intro rest _
  cases hs with
  | empty hblanks =>
    rw [List.append_assoc, List.singleton_append, readSequence,
      readElements_of_close hb true acc (Nat.succ_pos _) hblanks]
    rfl
  | listed hs =>
    rw [List.append_assoc, List.singleton_append, readSequence]
    exact toOption_readElements hb hs hleads htakes .first acc rest (Nat.lt_succ_self _)

end Sequence

/-! ## Members -/

theorem readColon_of_blanks {before : List Char} (hbefore : Blanks before) (s : List Char) :
    readColon (before ++ ':' :: s) = .ok s := by
  simp only [readColon, skipBlanks_append hbefore, skipBlanks_cons (show isBlank ':' = false from rfl)]

theorem takes_afterColon {α : Type} {read : Reader α} {outcome : Option α} (hskips : Skips read)
    (htakes : Takes read v outcome) {before after : List Char} (hbefore : Blanks before)
    (hafter : Blanks after) :
    Takes (fun s => readColon s >>= read) (before ++ ':' :: (after ++ v)) outcome := by
  intro rest hrest
  rw [← htakes rest hrest]
  simp only [List.append_assoc, List.cons_append, readColon_of_blanks hbefore, bind, Except.bind,
    hskips _ _ hafter]

section Member

variable {σ : Type} {member : σ → String → Reader σ}

theorem leads_of_memberText {m : Member} {s : List Char} (h : MemberText m s) : Leads '\x7d' s := by
  cases h
  exact ⟨'"', _, rfl, by decide⟩

/-- A member is read by its name, once the key is read. -/
theorem takes_member {m : Member} {s : List Char} {acc : σ} {outcome : String → Option σ}
    (h : MemberText m s) (hkey : StringText m.key)
    (hmember : ∀ name before after, Blanks before → Blanks after →
      Takes (member acc name) (before ++ ':' :: (after ++ m.value)) (outcome name)) :
    Takes (readMemberWith member acc) s ((taken readString (m.key ++ ['"'])).bind outcome) := by
  have hname := takes_taken (exists_takes_string hkey)
  intro rest hrest
  cases h with
  | @mk before after hbefore hafter =>
    have hends : Ends (before ++ ':' :: (after ++ (m.value ++ rest))) :=
      ends_append hbefore (.cons (by decide) (by decide) (by decide) (by decide))
    have hread := hname _ hends
    have htext : '"' :: (m.key ++ '"' :: (before ++ ':' :: (after ++ m.value))) ++ rest =
        '"' :: (m.key ++ ['"'] ++ (before ++ ':' :: (after ++ (m.value ++ rest)))) := by
      simp
    rw [htext, readMemberWith, readKey, toOption_bind, hread]
    cases taken readString (m.key ++ ['"']) with
    | none => rfl
    | some name =>
      have hvalue := hmember name before after hbefore hafter rest hrest
      simp only [List.append_assoc, List.cons_append] at hvalue
      exact hvalue

theorem foldlM_eq_of_forall₂ {α β : Type} {f : σ → α → Option σ} {g : σ → β → Option σ}
    {as : List α} {bs : List β} (h : List.Forall₂ (fun b a => ∀ acc, f acc a = g acc b) bs as)
    (acc : σ) : as.foldlM f acc = bs.foldlM g acc := by
  induction h generalizing acc with
  | nil => rfl
  | cons h _ ih =>
    rw [List.foldlM_cons, List.foldlM_cons, h]
    exact Option.bind_congr fun next _ => ih next

/-- What is made of the members of an object, one after the other: `step` is told the name and the
text of the value. -/
def gatherMembers (step : σ → String → List Char → Option σ) (acc : σ) (members : List Member) :
    Option σ :=
  members.foldlM
    (fun acc m => (taken readString (m.key ++ ['"'])).bind fun name => step acc name m.value) acc

/-- An object is read as its members are, one after the other. -/
theorem takes_object {step : σ → String → List Char → Option σ} {members : List Member}
    {body : List Char} (hs : ObjectText members ('\x7b' :: body))
    (hkeys : ∀ m ∈ members, StringText m.key)
    (hmember : ∀ m ∈ members, ∀ acc name before after, Blanks before → Blanks after →
      Takes (member acc name) (before ++ ':' :: (after ++ m.value)) (step acc name m.value))
    (acc : σ) : Takes (readObject member acc) body (gatherMembers step acc members) := by
  obtain ⟨texts, htexts, henclosed⟩ := hs
  have htext : ∀ m text, m ∈ members → MemberText m text → ∀ acc,
      Takes (readMemberWith member acc) text
        ((taken readString (m.key ++ ['"'])).bind fun name => step acc name m.value) :=
    fun m text hm h acc => takes_member h (hkeys m hm) (hmember m hm acc)
  have hleads : ∀ text ∈ texts, Leads '\x7d' text := by
    intro text hin
    obtain ⟨m, -, h⟩ := exists_of_forall₂_of_mem htexts.flip hin
    exact leads_of_memberText h
  have htakes : ∀ acc, ∀ text ∈ texts, ∃ outcome, Takes (readMemberWith member acc) text outcome := by
    intro acc text hin
    obtain ⟨m, hm, h⟩ := exists_of_forall₂_of_mem htexts.flip hin
    exact ⟨_, htext m text hm h acc⟩
  have hread : ∀ m ∈ members, ∀ text, MemberText m text → ∀ acc,
      taken (readMemberWith member acc) text =
        (taken readString (m.key ++ ['"'])).bind fun name => step acc name m.value :=
    fun m hm text h acc => (htext m text hm h acc).taken_eq
  have hfold : texts.foldlM (fun acc text => taken (readMemberWith member acc) text) acc =
      gatherMembers step acc members :=
    foldlM_eq_of_forall₂ (((List.forall₂_and_left members texts).2 ⟨hread, htexts⟩).imp
      fun m text h acc => h.1 text h.2 acc) acc
  rw [← hfold]
  exact takes_sequence Brackets.proper_object henclosed hleads htakes acc

end Member

/-! ## Whole texts -/

/-- The blanks around a value are passed over. -/
theorem toOption_ofText {α : Type} {read : Reader α} {outcome : Option α} {s : List Char}
    (hskips : Skips read) (hs : WholeDocument v s) (htakes : Takes read v outcome) :
    (ofText read (String.ofList s)).toOption = outcome := by
  obtain ⟨before, after, hbefore, hafter, rfl⟩ := hs
  have hends : Ends after := by
    have happend := ends_append hafter ends_nil
    rwa [List.append_nil] at happend
  have hread := htakes after hends
  have hblank : skipBlanks after = [] := by
    have happend := skipBlanks_append hafter []
    rw [List.append_nil] at happend
    rw [happend]
    rfl
  have hwholly : (readWholly read (before ++ (v ++ after))).toOption = outcome := by
    rw [readWholly, hskips _ _ hbefore, toOption_bind, hread]
    cases outcome with
    | none => rfl
    | some a => simp only [Option.map_some, Option.bind_some, hblank]; rfl
  rw [ofText, String.toList_ofList, ← hwholly]
  cases readWholly read (before ++ (v ++ after)) <;> rfl

end ChassisCooling.Json
