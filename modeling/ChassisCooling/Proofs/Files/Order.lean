import ChassisCooling.Proofs.Files.Tree
import Mathlib.Data.List.Nodup
import Mathlib.Data.List.Perm.Basic

/-!
# Trees that differ in the order of their directories

Entries are found by location, so their order decides nothing except the order in which a directory
names them.

* `Tree.Reordered`: two trees of the same entries.
* `Tree.Reordered.resolve_eq`: a path leads to the same place in both.
* `Tree.Reordered.names`: a directory names the same entries in both.
-/

namespace ChassisCooling.Files.Tree

variable {t t' : Tree}

/-- No location is listed twice. -/
def Distinct (t : Tree) : Prop := (t.entries.map Prod.fst).Nodup

/-- The same entries in directories of any order. -/
structure Reordered (t t' : Tree) : Prop where
  start : t'.start = t.start
  entries : t.entries.Perm t'.entries

theorem names_eq_ok_iff {path : String} {names : List String} :
    t.names path = .ok names ↔
      ∃ l, t.resolve true path = .ok (.existing l .directory) ∧ t.namesAt l = names := by
  unfold Tree.names
  rw [bind_eq_ok_iff]
  constructor
  · rintro ⟨target, hresolve, h⟩
    cases target with
    | missing l slash => cases h
    | existing l n =>
      cases n with
      | file content => cases h
      | link target => cases h
      | directory => exact ⟨l, hresolve, Except.ok.inj h⟩
  · rintro ⟨l, hresolve, h⟩
    exact ⟨_, hresolve, congrArg Except.ok h⟩

namespace Reordered

theorem symm (h : t.Reordered t') : t'.Reordered t := ⟨h.start.symm, h.entries.symm⟩

theorem distinct (h : t.Reordered t') (hdistinct : t.Distinct) : t'.Distinct :=
  (h.entries.map Prod.fst).nodup_iff.1 hdistinct

theorem lookup_eq (h : t.Reordered t') (hdistinct : t.Distinct) (l : Location) :
    t'.entries.lookup l = t.entries.lookup l := by
  ext n
  rw [lookup_eq_some_iff_mem (h.distinct hdistinct), lookup_eq_some_iff_mem hdistinct,
    h.entries.mem_iff]

theorem node?_eq (h : t.Reordered t') (hdistinct : t.Distinct) (l : Location) :
    t'.node? l = t.node? l := by
  unfold node?
  rw [h.lookup_eq hdistinct]

theorem advance_eq (h : t.Reordered t') (hdistinct : t.Distinct) (follow : Bool) (l : Location)
    (names : List String) : t'.advance follow l names = t.advance follow l names := by
  induction names generalizing l with
  | nil => rfl
  | cons name rest ih =>
    unfold advance
    rw [ih, ih, ih, h.node?_eq hdistinct]

theorem walk_eq (h : t.Reordered t') (hdistinct : t.Distinct) (follow : Bool) (links : Nat)
    (l : Location) (names : List String) :
    t'.walk follow links l names = t.walk follow links l names := by
  induction links generalizing l names with
  | zero => rw [walk.eq_def, walk.eq_def t, h.advance_eq hdistinct]
  | succ links ih =>
    rw [walk.eq_def, walk.eq_def t, h.advance_eq hdistinct]
    simp only [ih]

/-- A path leads to the same place. -/
theorem resolve_eq (h : t.Reordered t') (hdistinct : t.Distinct) (follow : Bool) (path : String) :
    t'.resolve follow path = t.resolve follow path := by
  unfold resolve resolveNames
  rw [h.walk_eq hdistinct, h.start]

theorem isDirectory_eq (h : t.Reordered t') (hdistinct : t.Distinct) (path : String) :
    t'.isDirectory path = t.isDirectory path := by
  unfold isDirectory
  rw [h.resolve_eq hdistinct]

theorem readText_eq (h : t.Reordered t') (hdistinct : t.Distinct) (path : String) :
    t'.readText path = t.readText path := by
  unfold readText readBytes
  rw [h.resolve_eq hdistinct]

theorem namesAt (h : t.Reordered t') (l : Location) : (t.namesAt l).Perm (t'.namesAt l) :=
  h.entries.filterMap _

/-- A directory names the same entries. -/
theorem names (h : t.Reordered t') (hdistinct : t.Distinct) {path : String} {names : List String}
    (hnames : t.names path = .ok names) :
    ∃ names', t'.names path = .ok names' ∧ names.Perm names' := by
  obtain ⟨l, hresolve, rfl⟩ := names_eq_ok_iff.1 hnames
  rw [← h.resolve_eq hdistinct] at hresolve
  exact ⟨t'.namesAt l, names_eq_ok_iff.2 ⟨l, hresolve, rfl⟩, h.namesAt l⟩

end Reordered

/-- No directory names an entry twice. -/
theorem Distinct.nodup_namesAt (h : t.Distinct) (l : Location) : (t.namesAt l).Nodup := by
  unfold Distinct List.Nodup at h
  unfold namesAt List.Nodup
  rw [List.pairwise_map] at h
  rw [List.pairwise_filterMap]
  refine h.imp ?_
  rintro e e' hne name hname name' hname' rfl
  rw [Option.ite_none_right_eq_some] at hname hname'
  refine hne ?_
  rw [← List.dropLast_append_getLast? name hname.2, ← List.dropLast_append_getLast? name hname'.2,
    hname.1, hname'.1]

theorem isDirectory_of_names {path : String} {names : List String} (h : t.names path = .ok names) :
    t.isDirectory path := by
  obtain ⟨l, hresolve, -⟩ := names_eq_ok_iff.1 h
  exact isDirectory_iff.2 ⟨l, hresolve⟩

/-- The entries of a directory can be named. -/
theorem exists_names_of_isDirectory {path : String} (h : t.isDirectory path) :
    ∃ names, t.names path = .ok names := by
  obtain ⟨l, hresolve⟩ := isDirectory_iff.1 h
  exact ⟨t.namesAt l, names_eq_ok_iff.2 ⟨l, hresolve, rfl⟩⟩

theorem Distinct.nodup_names (h : t.Distinct) {path : String} {names : List String}
    (hnames : t.names path = .ok names) : names.Nodup := by
  obtain ⟨l, -, rfl⟩ := names_eq_ok_iff.1 hnames
  exact h.nodup_namesAt l

end ChassisCooling.Files.Tree
