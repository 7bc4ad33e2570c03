/-!
# Tables by name

`Targets` maps names to values and lists them in the order of their names. The order is part of
the type, so two tables with the same entries are equal.

* `insertSorted`, `sorted_insertSorted`: an entry put in its place.
* `Targets.insert`, `Targets.get?`: a table's operations.
-/

namespace ChassisCooling

/-- Entries in the strict order of their names. -/
def Sorted {α : Type} (entries : List (String × α)) : Prop :=
  entries.Pairwise fun a b => a.1 < b.1

/-- An entry put in its place, instead of an entry of the same name. -/
def insertSorted {α : Type} (name : String) (value : α) :
    List (String × α) → List (String × α)
  | [] => [(name, value)]
  | entry :: rest =>
    if name < entry.1 then (name, value) :: entry :: rest
    else if name = entry.1 then (name, value) :: rest
    else entry :: insertSorted name value rest

theorem mem_insertSorted {α : Type} {name : String} {value : α} {entries : List (String × α)}
    {entry : String × α} (h : entry ∈ insertSorted name value entries) :
    entry = (name, value) ∨ entry ∈ entries := by
  induction entries with
  | nil => simp_all [insertSorted]
  | cons e rest ih =>
    unfold insertSorted at h
    split at h
    · simpa using h
    · split at h
      · simp only [List.mem_cons] at h ⊢
        exact h.imp id .inr
      · simp only [List.mem_cons] at h ⊢
        rcases h with h | h
        · exact .inr (.inl h)
        · exact (ih h).imp id .inr

theorem sorted_insertSorted {α : Type} {name : String} {value : α}
    {entries : List (String × α)} (h : Sorted entries) :
    Sorted (insertSorted name value entries) := by
  induction entries with
  | nil => simp [insertSorted, Sorted]
  | cons e rest ih =>
    have hrest : Sorted rest := (List.pairwise_cons.1 h).2
    have hhead : ∀ x ∈ rest, e.1 < x.1 := (List.pairwise_cons.1 h).1
    unfold insertSorted
    split
    · next hlt =>
      refine List.pairwise_cons.2 ⟨fun x hx => ?_, h⟩
      rcases List.mem_cons.1 hx with rfl | hx
      · exact hlt
      · exact String.lt_trans hlt (hhead x hx)
    · next hge =>
      split
      · next heq =>
        refine List.pairwise_cons.2 ⟨fun x hx => ?_, hrest⟩
        simpa [heq] using hhead x hx
      · next hne =>
        refine List.pairwise_cons.2 ⟨fun x hx => ?_, ih hrest⟩
        rcases mem_insertSorted hx with rfl | hx
        · exact Std.lt_of_le_of_ne (Std.not_lt.1 hge) (Ne.symm hne)
        · exact hhead x hx

/-- A table of values by name. -/
structure Targets (α : Type) where
  entries : List (String × α)
  sorted : Sorted entries

namespace Targets

variable {α : Type}

def empty : Targets α := ⟨[], List.Pairwise.nil⟩

instance : Inhabited (Targets α) := ⟨empty⟩

/-- The table with a value under a name, in place of any earlier one. -/
def insert (t : Targets α) (name : String) (value : α) : Targets α :=
  ⟨insertSorted name value t.entries, sorted_insertSorted t.sorted⟩

/-- The value under a name. -/
def get? (t : Targets α) (name : String) : Option α := t.entries.lookup name

end Targets

end ChassisCooling
