import ChassisCooling.Proofs.Files.Growth

/-!
# Well-formed trees

In a well-formed tree every entry is in a directory and its name goes one step down. Nothing that
writes files or makes directories ever changes that: a path finds a place for an entry in a
directory only.

* `Tree.WellFormed`; `Tree.Housed`: the location of an entry, or one for a new entry.
* `Tree.WellFormed.housed_of_resolve`: there is a directory for a file that a path leads to, and for
  the place of one.
* `Tree.WellFormed.set`, `Tree.WellFormed.createDirectories`: writing files, making directories.
-/

namespace ChassisCooling.Files

namespace Path

theorem not_mem_of_mem_splitOn {sep : Char} {cs part : List Char} (h : part ∈ splitOn sep cs) :
    sep ∉ part := by
  induction cs generalizing part with
  | nil =>
    rw [List.mem_singleton.1 h]
    exact List.not_mem_nil
  | cons c cs ih =>
    unfold splitOn at h
    split at h
    · rcases List.mem_cons.1 h with rfl | h
      · exact List.not_mem_nil
      · exact ih h
    · next hc =>
      split at h
      · rw [List.mem_singleton.1 h, List.mem_singleton]
        exact Ne.symm hc
      · next first parts hparts =>
        rw [hparts, List.forall_mem_cons] at ih
        rcases List.mem_cons.1 h with rfl | h
        · rw [List.mem_cons, not_or]
          exact ⟨Ne.symm hc, ih.1⟩
        · exact ih.2 _ h

/-- No name of a path has a slash in it. -/
theorem noSlash_of_mem_components {path name : String} (h : name ∈ components path) :
    '/' ∉ name.toList := by
  obtain ⟨part, hpart, rfl⟩ := List.mem_map.1 h
  rw [String.toList_ofList]
  exact not_mem_of_mem_splitOn hpart

instance (name : String) : Decidable (Plain name) :=
  decidable_of_iff ('/' ∉ name.toList ∧ name ≠ "" ∧ name ≠ "." ∧ name ≠ "..")
    ⟨fun ⟨hslash, hempty, hdot, hdots⟩ => ⟨hslash, hempty, hdot, hdots⟩,
      fun h => ⟨h.noSlash, h.ne_empty, h.ne_dot, h.ne_dots⟩⟩

end Path

namespace Tree

variable {t t' : Tree} {follow : Bool} {l l₀ : Location} {names : List String} {path : String}

/-- A plain name in a directory. -/
def Housed (t : Tree) (l : Location) : Prop :=
  ∃ above name, l = above ++ [name] ∧ t.node? above = some .directory ∧ Path.Plain name

/-- Relative paths start in a directory, and every entry below the root is in one. -/
structure WellFormed (t : Tree) : Prop where
  start : t.node? t.start = some .directory
  housed : ∀ l n, t.node? l = some n → l = [] ∨ t.Housed l

theorem wellFormed_of_entries (hstart : t.node? t.start = some .directory)
    (h : ∀ e ∈ t.entries, t.Housed e.1) : t.WellFormed := by
  refine ⟨hstart, fun l n hn => ?_⟩
  by_cases hl : l = []
  · exact .inl hl
  · exact .inr (h _ (mem_entries_of_node? hl hn))

theorem Keeps.housed (h : t.Keeps t') (hl : t.Housed l) : t'.Housed l := by
  obtain ⟨above, name, heq, habove, hname⟩ := hl
  exact ⟨above, name, heq, h.node _ _ habove (by simp), hname⟩

namespace WellFormed

theorem dropLast (h : t.WellFormed) (hl : t.node? l = some .directory) :
    t.node? l.dropLast = some .directory := by
  rcases h.housed l _ hl with rfl | ⟨above, name, rfl, habove, -⟩
  · rfl
  · rwa [List.dropLast_concat]

/-- A stop finds a place in a directory only, and goes on from one. -/
def Sound (t : Tree) : Stop → Prop
  | .at (.existing ..) => True
  | .at (.missing l _) => t.Housed l
  | .link directory _ rest =>
    t.node? directory = some .directory ∧ ∀ name ∈ rest, '/' ∉ name.toList

theorem sound_of_advance (h : t.WellFormed) (hl : t.node? l₀ = some .directory)
    (hnames : ∀ name ∈ names, '/' ∉ name.toList) {stop : Stop}
    (hadvance : t.advance follow l₀ names = .ok stop) : Sound t stop := by
  fun_induction Tree.advance t follow l₀ names with
  | case1 | case8 | case10 =>
    obtain rfl := Except.ok.inj hadvance
    trivial
  | case4 | case6 | case9 => cases hadvance
  | case2 _ _ _ _ ih => exact ih hl (List.forall_mem_cons.1 hnames).2 hadvance
  | case3 _ _ _ ih => exact ih (h.dropLast hl) (List.forall_mem_cons.1 hnames).2 hadvance
  | case5 l₀ name rest hname hdots _ _ _ =>
    obtain rfl := Except.ok.inj hadvance
    obtain ⟨hempty, hdot⟩ := not_or.1 hname
    exact ⟨l₀, name, rfl, hl, (List.forall_mem_cons.1 hnames).1, hempty, hdot, hdots⟩
  | case7 _ _ _ _ _ _ hnode ih => exact ih hnode (List.forall_mem_cons.1 hnames).2 hadvance
  | case11 =>
    obtain rfl := Except.ok.inj hadvance
    exact ⟨hl, (List.forall_mem_cons.1 hnames).2⟩

/-- By induction on the links that are followed: each is looked up from the directory that it is
in, or from the root. -/
theorem housed_of_leads (h : t.WellFormed) {links : Nat} {slash : Bool}
    (hleads : t.Leads follow (.missing l slash) links l₀ names)
    (hl : t.node? l₀ = some .directory) (hnames : ∀ name ∈ names, '/' ∉ name.toList) :
    t.Housed l := by
  induction hleads with
  | here hadvance => exact h.sound_of_advance hl hnames hadvance
  | @link _ _ _ _ _ text hadvance _ _ ih =>
    obtain ⟨hdirectory, hrest⟩ := h.sound_of_advance hl hnames hadvance
    refine ih ?_ fun name hmem => ?_
    · split
      · rfl
      · exact hdirectory
    · rcases List.mem_append.1 hmem with hmem | hmem
      · exact Path.noSlash_of_mem_components hmem
      · exact hrest name hmem

/-- There is a directory for the place that a path finds. -/
theorem housed_of_missing (h : t.WellFormed) {slash : Bool}
    (hresolve : t.resolve follow path = .ok (.missing l slash)) : t.Housed l := by
  refine h.housed_of_leads (resolve_eq_ok_iff.1 hresolve).2 ?_
    fun name => Path.noSlash_of_mem_components
  split
  · rfl
  · exact h.start

theorem housed_of_resolve (h : t.WellFormed) {target : Target}
    (hresolve : t.resolve follow path = .ok target) (hopens : Opens l target) : t.Housed l := by
  have hl := ((shown_of_resolve hresolve).writable hopens).ne_nil
  cases hopens with
  | file content =>
    cases shown_of_resolve hresolve with
    | existing hnode => exact (h.housed l _ hnode).resolve_left hl
  | place => exact h.housed_of_missing hresolve

/-- An entry comes where a file or nothing was. -/
theorem set (h : t.WellFormed) (hl : t.Writable l) (hhoused : t.Housed l) (n : Node) :
    (t.set l n).WellFormed := by
  have hkeeps : t.Keeps (t.set l n) := .set hl n
  refine ⟨hkeeps.node _ _ h.start (by simp), fun l' n' hnode => ?_⟩
  rw [node?_set hl.ne_nil] at hnode
  split at hnode
  · next heq => exact .inr (hkeeps.housed (heq ▸ hhoused))
  · exact (h.housed l' n' hnode).imp_right hkeeps.housed

theorem createDirectory (h : t.WellFormed) (hcreate : t.createDirectory path = .ok t') :
    t'.WellFormed := by
  obtain ⟨target, hentry, hcreate⟩ := bind_eq_ok_iff.1 hcreate
  cases target with
  | existing => cases hcreate
  | missing l slash =>
    obtain rfl := Except.ok.inj hcreate
    obtain ⟨slash', hresolve⟩ := resolve_of_resolveEntry hentry
    have hnone := (shown_of_resolve hresolve).node?_eq_none
    refine h.set (fun n hn => ?_) (h.housed_of_missing hresolve) _
    rw [hnone] at hn
    cases hn

theorem createDirectories (h : t.WellFormed) (path : String) :
    (t.createDirectories path).2.WellFormed :=
  createDirectoriesWith_induct (fun _ _ _ => createDirectory) h _ path

end WellFormed

end Tree

end ChassisCooling.Files
