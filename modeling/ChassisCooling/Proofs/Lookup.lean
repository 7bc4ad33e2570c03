import ChassisCooling.Config.Targets
import Mathlib.Data.List.Nodup

/-!
# Entries found by key

A list of entries is looked up from its front. If no key comes twice, the order of the entries does
not matter.

* `lookup_cons_eq_ite`: the entry in front and the others.
* `lookup_eq_some_iff_mem`: entries of distinct keys.
* `Targets.get?_insert`: what a table holds after an insertion.
-/

namespace ChassisCooling

variable {κ α : Type} [BEq κ] [LawfulBEq κ] [DecidableEq κ] {entries : List (κ × α)} {key : κ}
  {value : α}

theorem lookup_cons_eq_ite (e : κ × α) (key : κ) (rest : List (κ × α)) :
    (e :: rest).lookup key = if key = e.1 then some e.2 else rest.lookup key := by
  obtain ⟨name, value⟩ := e
  by_cases h : key = name
  · simp [h]
  · simp [List.lookup_cons, h, beq_false_of_ne h]

omit [DecidableEq κ] in
theorem mem_of_lookup (h : entries.lookup key = some value) : (key, value) ∈ entries := by
  obtain ⟨before, after, heq, -⟩ := List.lookup_eq_some_iff.1 h
  rw [heq]
  exact List.mem_append_right before List.mem_cons_self

theorem lookup_eq_some_iff_mem (h : (entries.map Prod.fst).Nodup) :
    entries.lookup key = some value ↔ (key, value) ∈ entries := by
  induction entries with
  | nil => simp
  | cons e rest ih =>
    rw [List.map_cons, List.nodup_cons] at h
    rw [lookup_cons_eq_ite, List.mem_cons]
    by_cases heq : key = e.1
    · have habsent : (key, value) ∉ rest := fun hmem => h.1 (heq ▸ List.mem_map_of_mem hmem)
      rw [if_pos heq, or_iff_left habsent, Option.some.injEq, Prod.ext_iff]
      exact ⟨fun hvalue => ⟨heq, hvalue.symm⟩, fun hvalue => hvalue.2.symm⟩
    · have hne : (key, value) ≠ e := fun he => heq (congrArg Prod.fst he)
      rw [if_neg heq, ih h.2, or_iff_right hne]

/-! ## Tables -/

namespace Targets

theorem lookup_insertSorted (name key : String) (value : α) (entries : List (String × α)) :
    (insertSorted name value entries).lookup key =
      if key = name then some value else entries.lookup key := by
  induction entries with
  | nil => exact lookup_cons_eq_ite (name, value) key []
  | cons e rest ih =>
    unfold insertSorted
    split
    · exact lookup_cons_eq_ite (name, value) key _
    · rw [lookup_cons_eq_ite e]
      split
      · next heq =>
        rw [lookup_cons_eq_ite, ← heq]
        split <;> rfl
      · next hne =>
        rw [lookup_cons_eq_ite, ih]
        by_cases h : key = e.1
        · rw [if_pos h, if_pos h, if_neg fun hname => hne (hname.symm.trans h)]
        · rw [if_neg h, if_neg h]

theorem get?_insert (t : Targets α) (name key : String) (value : α) :
    (t.insert name value).get? key = if key = name then some value else t.get? key :=
  lookup_insertSorted name key value t.entries

end Targets

end ChassisCooling
