import ChassisCooling.Text.Blank
import Mathlib.Data.List.TakeWhile

/-!
# Texts between blanks

Trimming takes blanks away at both ends. Where what is left has no blanks in it, a text trims to it
just if it stands between blanks there.

* `Text.takeWhile_append_of_head`, `Text.dropWhile_append_of_head`: the first characters of a kind,
  whatever follows.
* `Text.stripBoth_eq_self`: there is nothing to take away.
* `Text.exists_append_of_stripBoth`, `Text.stripBoth_append`: what was taken away, and what may be.
* `Text.isBlank_of_isDigit`: digits are not blank.
-/

namespace ChassisCooling.Text

variable {p : Char → Bool} {cs : List Char}

theorem dropWhile_eq_self (h : ∀ c ∈ cs, p c = false) : cs.dropWhile p = cs :=
  List.dropWhile_eq_self_iff.2 fun hlen => by simp [h _ (List.getElem_mem hlen)]

theorem stripBoth_eq_self (h : ∀ c ∈ cs, p c = false) : stripBoth p cs = cs := by
  unfold stripBoth
  rw [dropWhile_eq_self h, dropWhile_eq_self (by simpa using h), List.reverse_reverse]

/-- What follows goes on with a character of another kind, so it has no part in the first ones. -/
theorem takeWhile_append_of_head {rest : List Char} (hrest : ∀ c ∈ rest.head?, p c = false)
    (cs : List Char) : (cs ++ rest).takeWhile p = cs.takeWhile p := by
  induction cs with
  | nil =>
    cases rest with
    | nil => rfl
    | cons c rest => exact List.takeWhile_cons_of_neg (by simp [hrest c rfl])
  | cons c cs ih => rw [List.cons_append, List.takeWhile_cons, List.takeWhile_cons, ih]

theorem dropWhile_append_of_head {rest : List Char} (hrest : ∀ c ∈ rest.head?, p c = false)
    (cs : List Char) : (cs ++ rest).dropWhile p = cs.dropWhile p ++ rest := by
  induction cs with
  | nil =>
    cases rest with
    | nil => rfl
    | cons c rest => exact List.dropWhile_cons_of_neg (by simp [hrest c rfl])
  | cons c cs ih =>
    rw [List.cons_append, List.dropWhile_cons, List.dropWhile_cons, ih]
    split <;> rfl

theorem exists_append_dropWhile (p : Char → Bool) (cs : List Char) :
    ∃ front, (∀ c ∈ front, p c) ∧ cs = front ++ cs.dropWhile p :=
  ⟨cs.takeWhile p, fun _ hc => List.mem_takeWhile_imp hc, List.takeWhile_append_dropWhile.symm⟩

theorem exists_append_of_stripBoth (p : Char → Bool) (cs : List Char) :
    ∃ before after, (∀ c ∈ before, p c) ∧ (∀ c ∈ after, p c) ∧
      cs = before ++ (stripBoth p cs ++ after) := by
  obtain ⟨before, hbefore, hfront⟩ := exists_append_dropWhile p cs
  obtain ⟨after, hafter, hback⟩ := exists_append_dropWhile p (cs.dropWhile p).reverse
  refine ⟨before, after.reverse, hbefore, by simpa using hafter, ?_⟩
  have hrest : cs.dropWhile p = stripBoth p cs ++ after.reverse := by
    have := congrArg List.reverse hback
    rwa [List.reverse_reverse, List.reverse_append] at this
  rw [← hrest]
  exact hfront

theorem dropWhile_append_cons {before rest : List Char} {c : Char} (hbefore : ∀ c ∈ before, p c)
    (hc : p c = false) : (before ++ c :: rest).dropWhile p = c :: rest := by
  rw [List.dropWhile_append_of_pos hbefore]
  exact List.dropWhile_cons_of_neg (by simp [hc])

theorem stripBoth_append {before after : List Char} (hbefore : ∀ c ∈ before, p c)
    (hafter : ∀ c ∈ after, p c) (hcs : ∀ c ∈ cs, p c = false) :
    stripBoth p (before ++ (cs ++ after)) = cs := by
  unfold stripBoth
  cases cs with
  | nil =>
    rw [List.nil_append, List.dropWhile_append_of_pos hbefore, ← List.append_nil after,
      List.dropWhile_append_of_pos hafter]
    rfl
  | cons c cs =>
    rw [List.cons_append, dropWhile_append_cons hbefore (hcs c List.mem_cons_self),
      ← List.cons_append, List.reverse_append, List.dropWhile_append_of_pos (by simpa using hafter),
      dropWhile_eq_self fun d hd => hcs d (List.mem_reverse.1 hd), List.reverse_reverse]

/-! ## What is not blank -/

theorem isBlank_of_isDigit {c : Char} (h : c.isDigit) : isBlank c = false := by
  have hrange : '0' ≤ c ∧ c ≤ '9' := by simpa [Char.isDigit, Char.le_def] using h
  have hlow : 48 ≤ c.toNat := UInt32.le_iff_toNat_le.1 hrange.1
  have hhigh : c.toNat ≤ 57 := UInt32.le_iff_toNat_le.1 hrange.2
  unfold isBlank
  simp only [Bool.or_eq_false_iff, Bool.and_eq_false_iff, decide_eq_false_iff_not,
    beq_eq_false_iff_ne]
  omega

end ChassisCooling.Text
