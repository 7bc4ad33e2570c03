import ChassisCooling.Proofs.Files.Place

/-!
# Trees that grow

A path is followed through directories and links only, and it finds a place for an entry only where
nothing is. So a directory that was made is there, and it stays when directories are made elsewhere
and when files are written.

* `Tree.Grows`: everything is as it was, and what is new are directories.
* `Tree.createDirectories_grows`: making directories changes nothing else, also where it fails.
* `Tree.createDirectories_again`: a second time nothing is left to do, whatever was written since.
* `Tree.append_append`: adding to a file twice is adding once.
-/

namespace ChassisCooling.Files.Tree

variable {t t' t'' : Tree} {follow : Bool} {l l₀ : Location} {names : List String} {stop : Stop}
  {target : Target} {path : String}

theorem Keeps.isDirectory (h : t.Keeps t') (hdirectory : t.isDirectory path) :
    t'.isDirectory path := by
  obtain ⟨l, hresolve⟩ := isDirectory_iff.1 hdirectory
  exact isDirectory_iff.2 ⟨l, h.resolve hresolve (.directory t' l)⟩

/-! ## Places where nothing is -/

theorem ne_nil_of_node? (h : t.node? l = none) : l ≠ [] := by
  rintro rfl
  cases h

/-- The stop if the names go on with empty ones. -/
def Stop.before (ends : List String) : Stop → Stop
  | .at (.missing l slash) => .at (.missing l (slash || !ends.isEmpty))
  | .at target => .at target
  | .link directory target rest => .link directory target (rest ++ ends)

/-- The place for an entry is where the path leads, slashes at its end included. -/
theorem advance_append_ends {ends : List String} (hends : ends.all (· == ""))
    (h : t.advance false l₀ names = .ok stop)
    (hstop : ∀ target, stop = .at target → ∃ l slash, target = .missing l slash) :
    t.advance true l₀ (names ++ ends) = .ok (stop.before ends) := by
  fun_induction Tree.advance t false l₀ names with
  | case1 | case8 | case10 =>
    obtain rfl := Except.ok.inj h
    obtain ⟨_, _, heq⟩ := hstop _ rfl
    cases heq
  | case4 | case6 | case9 => cases h
  | case2 _ _ _ hname ih => rw [List.cons_append, Tree.advance, if_pos hname, ih h]
  | case3 _ _ hname ih => rw [List.cons_append, Tree.advance, if_neg hname, if_pos rfl, ih h]
  | case5 l₀ name rest hname hdots hlong hnode hrest =>
    obtain rfl := Except.ok.inj h
    rw [List.cons_append, Tree.advance, if_neg hname, if_neg hdots, if_neg hlong, hnode]
    have hall : (rest ++ ends).all (· == "") := by rw [List.all_append, hrest, hends]; rfl
    simp only [hall, if_true]
    cases rest <;> rfl
  | case7 _ _ _ hname hdots hlong hnode ih =>
    rw [List.cons_append, Tree.advance, if_neg hname, if_neg hdots, if_neg hlong, hnode]
    exact ih h
  | case11 _ _ _ hname hdots hlong target hnode hfollow =>
    obtain rfl := Except.ok.inj h
    rw [List.cons_append, Tree.advance, if_neg hname, if_neg hdots, if_neg hlong, hnode]
    simp only [not_true_eq_false, and_false, if_false]
    rfl

theorem Leads.append_ends {ends : List String} (hends : ends.all (· == "")) {links : Nat}
    {slash : Bool} (h : t.Leads false (.missing l slash) links l₀ names) :
    ∃ slash', t.Leads true (.missing l slash') links l₀ (names ++ ends) := by
  induction h with
  | here hadvance =>
    exact ⟨_, .here (advance_append_ends hends hadvance fun _ heq =>
      ⟨_, _, (Stop.at.inj heq).symm⟩)⟩
  | link hadvance htext _ ih =>
    obtain ⟨slash', hrest⟩ := ih
    rw [List.append_assoc] at hrest
    exact ⟨slash', .link (advance_append_ends hends hadvance (by simp)) htext hrest⟩

/-- The place for a new entry is where its path leads. -/
theorem resolve_of_resolveEntry {slash : Bool}
    (h : t.resolveEntry path = .ok (.missing l slash)) :
    ∃ slash', t.resolve true path = .ok (.missing l slash') := by
  obtain ⟨hpath, hleads⟩ := resolveNames_eq_ok_iff.1 h
  obtain ⟨ends, hnames, hends⟩ := Path.exists_eq_withoutEnd_append (Path.components path)
  obtain ⟨slash', hleads'⟩ := hleads.append_ends hends
  rw [← hnames] at hleads'
  exact ⟨slash', resolve_eq_ok_iff.2 ⟨hpath, hleads'⟩⟩

/-! ## Making directories -/

/-- The second tree has some more directories, where nothing was. -/
structure Grows (t t' : Tree) : Prop where
  start : t'.start = t.start
  node : ∀ l, t'.node? l = t.node? l ∨ t.node? l = none ∧ t'.node? l = some .directory

namespace Grows

theorem refl (t : Tree) : t.Grows t := ⟨rfl, fun _ => .inl rfl⟩

theorem trans (h : t.Grows t') (h' : t'.Grows t'') : t.Grows t'' := by
  refine ⟨h'.start.trans h.start, fun l => ?_⟩
  rcases h'.node l with heq' | ⟨hnone, hnew⟩
  · rw [heq']
    exact h.node l
  · rcases h.node l with heq | ⟨-, hdirectory⟩
    · exact .inr ⟨heq.symm.trans hnone, hnew⟩
    · rw [hdirectory] at hnone
      cases hnone

theorem set (hl : t.node? l = none) : t.Grows (t.set l .directory) := by
  refine ⟨rfl, fun l' => ?_⟩
  rw [node?_set (ne_nil_of_node? hl)]
  by_cases h : l' = l
  · rw [if_pos h, h]
    exact .inr ⟨hl, rfl⟩
  · rw [if_neg h]
    exact .inl rfl

theorem keeps (h : t.Grows t') : t.Keeps t' := by
  refine ⟨h.start, fun l n hn _ => ?_⟩
  rcases h.node l with heq | ⟨hnone, -⟩
  · exact heq.trans hn
  · rw [hn] at hnone
    cases hnone

end Grows

/-- Where nothing is, a directory can be made; it is one then. -/
theorem createDirectory_eq_ok (h : t.createDirectory path = .ok t') :
    t.Grows t' ∧ t'.isDirectory path ∧ ¬t.isDirectory path := by
  unfold createDirectory create at h
  rw [bind_eq_ok_iff] at h
  obtain ⟨target, hentry, h⟩ := h
  cases target with
  | existing => cases h
  | missing l slash =>
    obtain rfl := Except.ok.inj h
    obtain ⟨slash', hresolve⟩ := resolve_of_resolveEntry hentry
    have hnone := (shown_of_resolve hresolve).node?_eq_none
    have hgrows : t.Grows (t.set l .directory) := .set hnone
    have hnew : (t.set l .directory).node? l = some .directory := by
      rw [node?_set (ne_nil_of_node? hnone), if_pos rfl]
    refine ⟨hgrows, isDirectory_iff.2 ⟨l, hgrows.keeps.resolve hresolve (.made hnew)⟩, fun h => ?_⟩
    obtain ⟨l', hdirectory⟩ := isDirectory_iff.1 h
    rw [hresolve] at hdirectory
    cases hdirectory

theorem ensureDirectory_eq_ok (h : t.ensureDirectory path = .ok t') :
    t.Grows t' ∧ t'.isDirectory path := by
  unfold ensureDirectory at h
  split at h
  · next t₁ hcreate =>
    obtain rfl := Except.ok.inj h
    obtain ⟨hgrows, hdirectory, -⟩ := createDirectory_eq_ok hcreate
    exact ⟨hgrows, hdirectory⟩
  · split at h
    · next hdirectory =>
      obtain rfl := Except.ok.inj h
      exact ⟨.refl t, hdirectory⟩
    · cases h

/-- A directory that is there is left alone. -/
theorem ensureDirectory_of_isDirectory (h : t.isDirectory path) :
    t.ensureDirectory path = .ok t := by
  unfold ensureDirectory
  split
  · next t' hcreate => exact absurd h (createDirectory_eq_ok hcreate).2.2
  · rw [if_pos h]

/-- What holds however often a directory is made holds of several directories, also where making them
fails on the way. -/
theorem createDirectoriesWith_induct {p : Tree → Prop}
    (hstep : ∀ t t' path, p t → t.createDirectory path = .ok t' → p t') (ht : p t) (fuel : Nat)
    (path : String) : p (t.createDirectoriesWith fuel path).2 := by
  have hensure : ∀ t t' path, p t → t.ensureDirectory path = .ok t' → p t' := by
    intro t t' path ht h
    unfold ensureDirectory at h
    split at h
    · next hcreate =>
      obtain rfl := Except.ok.inj h
      exact hstep _ _ _ ht hcreate
    · split at h
      · exact Except.ok.inj h ▸ ht
      · cases h
  induction fuel generalizing path with
  | zero => exact ht
  | succ fuel ih =>
    unfold createDirectoriesWith
    split
    · exact ht
    split
    · next t₁ hmade => exact hensure _ _ _ ht hmade
    · split
      · split
        · exact ht
        · next parent _ =>
          have hparent := ih parent
          split
          · next t₁ hcreate =>
            rw [hcreate] at hparent
            exact hparent
          · next t₁ hcreate =>
            rw [hcreate] at hparent
            split
            · next t₂ hmade => exact hensure _ _ _ hparent hmade
            · exact hparent
      · exact ht

/-- Making directories changes nothing else, also where it fails on the way. -/
theorem createDirectories_grows (t : Tree) (path : String) :
    t.Grows (t.createDirectories path).2 :=
  createDirectoriesWith_induct (fun _ _ _ hgrows h => hgrows.trans (createDirectory_eq_ok h).1)
    (.refl t) _ path

theorem isDirectory_of_createDirectories (hpath : ¬path.isEmpty)
    (h : t.createDirectories path = (.ok (), t')) : t'.isDirectory path := by
  unfold createDirectories createDirectoriesWith at h
  rw [if_neg hpath] at h
  split at h
  · next t₁ hensure =>
    cases h
    exact (ensureDirectory_eq_ok hensure).2
  · split at h
    · split at h
      · cases h
      · split at h
        · cases h
        · split at h
          · next t₂ hensure =>
            cases h
            exact (ensureDirectory_eq_ok hensure).2
          · cases h
    · cases h

/-- Once directories were made, there is nothing left to do, as long as they are kept. -/
theorem createDirectories_again (h : t.createDirectories path = (.ok (), t'))
    (hkeeps : t'.Keeps t'') : t''.createDirectories path = (.ok (), t'') := by
  unfold createDirectories createDirectoriesWith
  by_cases hpath : path.isEmpty
  · rw [if_pos hpath]
  · have hdirectory := hkeeps.isDirectory (isDirectory_of_createDirectories hpath h)
    rw [if_neg hpath, ensureDirectory_of_isDirectory hdirectory]

/-! ## Adding to a file -/

theorem setEntry_setEntry (l : Location) (n n' : Node) (entries : List (Location × Node)) :
    setEntry l n' (setEntry l n entries) = setEntry l n' entries := by
  induction entries with
  | nil => exact if_pos rfl
  | cons e rest ih =>
    by_cases h : e.1 = l
    · simp only [setEntry, if_pos h, if_true]
    · simp only [setEntry, if_neg h, ih]

/-- Only the last node that was put at a location counts. -/
theorem set_set (t : Tree) (l : Location) (n n' : Node) : (t.set l n).set l n' = t.set l n' :=
  congrArg (Tree.mk · t.start) (setEntry_setEntry l n n' t.entries)

theorem openFile_of_resolve {content : ByteArray}
    (h : t.resolve true path = .ok (.existing l (.file content))) :
    t.openFile path = .ok (l, content) := by
  unfold openFile
  rw [h]
  rfl

theorem append_of_resolve {content : ByteArray}
    (h : t.resolve true path = .ok (.existing l (.file content))) (more : ByteArray) :
    t.append path more = .ok (t.set l (.file (content ++ more))) := by
  unfold append
  rw [openFile_of_resolve h]
  rfl

/-- What the file at a location holds; a file that is not there is empty. -/
def contentAt (t : Tree) (l : Location) : ByteArray :=
  match t.node? l with
  | some (.file content) => content
  | _ => .empty

theorem contentAt_eq_empty (h : t.node? l = none) : t.contentAt l = .empty := by
  unfold contentAt
  rw [h]

theorem Grows.contentAt_eq (h : t.Grows t') (l : Location) : t'.contentAt l = t.contentAt l := by
  unfold contentAt
  rcases h.node l with heq | ⟨hnone, hdirectory⟩
  · rw [heq]
  · rw [hnone, hdirectory]

theorem openFile_eq_contentAt {before : ByteArray} (h : t.openFile path = .ok (l, before)) :
    before = t.contentAt l := by
  obtain ⟨target, hresolve, hopens⟩ := openFile_eq_ok h
  have hshown := shown_of_resolve hresolve
  unfold openFile at h
  rw [hresolve] at h
  unfold contentAt
  cases hopens with
  | file content =>
    cases h
    cases hshown with
    | existing hnode => rw [hnode]
  | place hslash =>
    subst hslash
    cases h
    rw [hshown.node?_eq_none]

/-- Where a file was added to, and what it holds then. -/
theorem append_eq_ok {content : ByteArray} (h : t.append path content = .ok t') :
    ∃ l, t.Writable l ∧ t' = t.set l (.file (t.contentAt l ++ content)) ∧
      t'.resolve true path = .ok (.existing l (.file (t.contentAt l ++ content))) := by
  unfold append at h
  rw [bind_eq_ok_iff] at h
  obtain ⟨⟨l, before⟩, hopen, h⟩ := h
  obtain rfl := openFile_eq_contentAt hopen
  obtain ⟨target, hresolve, hopens⟩ := openFile_eq_ok hopen
  obtain rfl := Except.ok.inj h
  exact ⟨l, (shown_of_resolve hresolve).writable hopens, rfl, resolve_set hresolve hopens _⟩

theorem append_append (t : Tree) (path : String) (first second : ByteArray) :
    t.append path (first ++ second) = (t.append path first >>= (·.append path second)) := by
  unfold append
  cases hopen : t.openFile path with
  | error failure => rfl
  | ok place =>
    obtain ⟨l, before⟩ := place
    obtain ⟨target, hresolve, hopens⟩ := openFile_eq_ok hopen
    show Except.ok (t.set l (.file (before ++ (first ++ second)))) =
      (t.set l (.file (before ++ first))).append path second
    rw [append_of_resolve (resolve_set hresolve hopens _), set_set, ByteArray.append_assoc]

theorem appendText_append (t : Tree) (path first second : String) :
    t.appendText path (first ++ second) =
      (t.appendText path first >>= (·.appendText path second)) := by
  unfold appendText
  simp only [String.toUTF8_eq_toByteArray, String.toByteArray_append]
  exact append_append t path first.toByteArray second.toByteArray

end ChassisCooling.Files.Tree
