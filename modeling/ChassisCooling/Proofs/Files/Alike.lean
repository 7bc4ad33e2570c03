import ChassisCooling.Proofs.Files.Footprint

/-!
# Trees that are the same at some paths

Two trees may differ, and yet some paths lead to the same in both of them. To write to one of these
paths then ends in both trees alike, and what it leaves is the same at these paths again. Whatever
else is done to one of the trees does not show at them if it is done elsewhere.

* `Tree.SameAt`: one path leads to the same in both trees; `Tree.SameAt.set`: so it does once one
  file is written in both of them; `Tree.SameAt.join`: the paths that lead somewhere.
* `Tree.SameOn`: several paths, in trees without links.
* `Tree.SameOn.writeText`: one text, written in both trees.
* `Tree.SameOn.of_covers`: a change of one tree that leaves the paths' places alone.
-/

namespace ChassisCooling.Files

variable {l : Location}

/-! ## Places that are left alone -/

/-- Nothing happens at a location. -/
structure Footprint.LeavesAlone (fp : Footprint) (l : Location) : Prop where
  written : ¬fp.written l
  rewritten : ¬fp.rewritten l
  made : ¬fp.made l

theorem Footprint.Covers.node?_eq {fp : Footprint} {t t' : Tree} (h : fp.Covers t t')
    (hl : fp.LeavesAlone l) : t'.node? l = t.node? l := by
  by_contra hne
  cases h.change l hne with
  | written hwritten => exact hl.written hwritten
  | rewritten hrewritten => exact hl.rewritten hrewritten
  | made hmade => exact hl.made hmade

namespace Tree

variable {t t' u : Tree} {start : Location} {path : String} {paths : String → Prop}

/-! ## What a path finds after a file was written -/

/-- Something is there, or a file can be made there. -/
def Target.Usable : Target → Prop
  | .existing .. => True
  | .missing _ slash => slash = false

/-- What is found instead once a file was written. -/
def Target.afterWrite (l : Location) (content : ByteArray) : Target → Target
  | .existing l' (.file before) => .existing l' (.file (if l' = l then content else before))
  | .missing l' slash => if l' = l then .existing l' (.file content) else .missing l' slash
  | target => target

theorem Target.Usable.afterWrite {target : Target} (h : target.Usable) (l : Location)
    (content : ByteArray) : (target.afterWrite l content).Usable := by
  cases target with
  | existing l' n => cases n <;> trivial
  | missing l' slash =>
    unfold Target.afterWrite
    dsimp only
    split
    · trivial
    · exact h

theorem Shown.becomes_afterWrite {target : Target} (h : t.Shown target) (husable : target.Usable)
    (hl : t.Writable l) (content : ByteArray) :
    Becomes (t.set l (.file content)) target (target.afterWrite l content) := by
  have hset := node?_set (t := t) hl.ne_nil (.file content)
  cases h with
  | directory l' => exact .directory _ l'
  | @missing l' slash hnone =>
    obtain rfl : slash = false := husable
    unfold Target.afterWrite
    dsimp only
    split
    · next heq => exact .filled ((hset l').trans (if_pos heq))
    · next hne => exact .missing (((hset l').trans (if_neg hne)).trans hnone)
  | @existing l' n hnode =>
    cases n with
    | directory | link => exact .kept fun _ h => by cases h
    | file before =>
      refine .file ((hset l').trans ?_)
      split
      · rfl
      · exact hnode

/-! ## One path -/

/-- The path leads to the same in both trees, be it a place where a file can be made. -/
def SameAt (t t' : Tree) (path : String) : Prop :=
  ∃ target, target.Usable ∧ t.resolve true path = .ok target ∧ t'.resolve true path = .ok target

namespace SameAt

theorem symm (h : SameAt t t' path) : SameAt t' t path := by
  obtain ⟨target, husable, hresolve, hresolve'⟩ := h
  exact ⟨target, husable, hresolve', hresolve⟩

theorem resolve_eq (h : SameAt t t' path) : t.resolve true path = t'.resolve true path := by
  obtain ⟨target, -, hresolve, hresolve'⟩ := h
  rw [hresolve, hresolve']

theorem holds_eq (h : SameAt t t' path) : t.holds path = t'.holds path := by
  unfold holds
  rw [h.resolve_eq]

theorem readText_eq (h : SameAt t t' path) : t.readText path = t'.readText path := by
  unfold readText readBytes
  rw [h.resolve_eq]

/-- A name below a directory leads somewhere if it is not too long. -/
theorem join (ht : t.LinkFree) {base name : String} (hbase : t.isDirectory base)
    (hname : Path.Plain name) (hnul : '\x00' ∉ name.toList) (hshort : name.utf8ByteSize ≤ maxName)
    (hlong : (Path.join base name).utf8ByteSize ≤ maxPath) :
    SameAt t t (Path.join base name) := by
  obtain ⟨l, hresolve⟩ := isDirectory_iff.1 hbase
  obtain ⟨-, hbaseNul, -⟩ := (resolve_eq_ok_iff.1 hresolve).1
  have hplain : ¬(name = "" ∨ name = ".") := not_or.2 ⟨hname.ne_empty, hname.ne_dot⟩
  obtain ⟨target, husable, hadvance⟩ : ∃ target, target.Usable ∧
      t.advance true l [name] = .ok (.at target) := by
    rw [advance, if_neg hplain, if_neg hname.ne_dots, if_neg (Nat.not_lt.2 hshort)]
    cases hnode : t.node? (l ++ [name]) with
    | none => exact ⟨.missing (l ++ [name]) false, rfl, rfl⟩
    | some n =>
      cases n with
      | file content => exact ⟨.existing (l ++ [name]) (.file content), trivial, rfl⟩
      | directory => exact ⟨.existing (l ++ [name]) .directory, trivial, rfl⟩
      | link target => exact absurd hnode (ht _ target)
  have hjoin : t.resolve true (Path.join base name) = .ok target := by
    refine resolve_eq_ok_iff.2 ⟨⟨?_, ?_, Nat.not_lt.2 hlong⟩, .here ?_⟩
    · obtain ⟨front, heq⟩ := Path.exists_join_eq base name
      rw [heq]
      simp [hname.ne_empty]
    · simp only [List.contains_iff_mem] at hbaseNul ⊢
      intro h
      rcases Path.mem_join h with h | h | h
      · exact hbaseNul h
      · exact absurd h (by decide)
      · exact hnul h
    · rw [Path.isAbsolute_join base hname, advance_join hname (ht.advance_of_resolve hresolve)]
      exact hadvance
  exact ⟨target, husable, hjoin, hjoin⟩

/-- One file is written in both trees, wherever that is. -/
theorem set (h : SameAt t t' path) (hl : t.Writable l) (hl' : t'.Writable l)
    (content : ByteArray) :
    SameAt (t.set l (.file content)) (t'.set l (.file content)) path := by
  obtain ⟨target, husable, hresolve, hresolve'⟩ := h
  have hbecomes := (shown_of_resolve hresolve).becomes_afterWrite husable hl content
  have hbecomes' := (shown_of_resolve hresolve').becomes_afterWrite husable hl' content
  exact ⟨_, husable.afterWrite l content, (Keeps.set hl _).resolve hresolve hbecomes,
    (Keeps.set hl' _).resolve hresolve' hbecomes'⟩

/-- One of the trees changes somewhere else. -/
theorem of_covers (h : SameAt t t' path) (ht : t.LinkFree) {fp : Footprint}
    (hcovers : fp.Covers t u) (halone : fp.LeavesAlone (Path.place t.start path)) :
    SameAt u t' path := by
  obtain ⟨target, husable, hresolve, hresolve'⟩ := h
  have hsame : u.node? target.location = t.node? target.location := by
    rw [(found_of_resolve ht hresolve).location_eq]
    exact hcovers.node?_eq halone
  have hbecomes := (shown_of_resolve hresolve).becomes hsame
  exact ⟨target, husable, (hcovers.keeps ht).resolve hresolve hbecomes, hresolve'⟩

end SameAt

/-! ## Several paths -/

/-- Two trees without links where some paths lead to the same. Relative ones start at one place in
both trees. -/
structure SameOn (start : Location) (paths : String → Prop) (t t' : Tree) : Prop where
  linkFree : t.LinkFree
  linkFree' : t'.LinkFree
  start_eq : t.start = start
  start_eq' : t'.start = start
  sameAt : ∀ path, paths path → SameAt t t' path

namespace SameOn

theorem symm (h : SameOn start paths t t') : SameOn start paths t' t :=
  ⟨h.linkFree', h.linkFree, h.start_eq', h.start_eq, fun path hpath => (h.sameAt path hpath).symm⟩

theorem set (h : SameOn start paths t t') (hl : t.Writable l) (hl' : t'.Writable l)
    (content : ByteArray) :
    SameOn start paths (t.set l (.file content)) (t'.set l (.file content)) where
  linkFree := h.linkFree.set hl.ne_nil fun _ h => by cases h
  linkFree' := h.linkFree'.set hl'.ne_nil fun _ h => by cases h
  start_eq := h.start_eq
  start_eq' := h.start_eq'
  sameAt path hpath := (h.sameAt path hpath).set hl hl' content

/-- The paths that a text was not written to may lead to its file as well. -/
theorem writeText (h : SameOn start paths t t') (hpath : paths path) (text : String) :
    EndAlike (SameOn start paths) (t.writeText path text) (t'.writeText path text) := by
  obtain ⟨target, husable, hresolve, hresolve'⟩ := h.sameAt path hpath
  have hopen : ∀ l, Opens l target →
      SameOn start paths (t.set l (.file text.toUTF8)) (t'.set l (.file text.toUTF8)) :=
    fun l hopens => h.set ((shown_of_resolve hresolve).writable hopens)
      ((shown_of_resolve hresolve').writable hopens) text.toUTF8
  unfold Tree.writeText write openFile
  rw [hresolve, hresolve']
  cases target with
  | existing l n =>
    cases n with
    | file before => exact .ok (hopen l (.file before))
    | directory | link => exact .error _
  | missing l slash =>
    obtain rfl : slash = false := husable
    exact .ok (hopen l (.place rfl))

/-- One of the trees changes, but not in the places of the paths. -/
theorem of_covers (h : SameOn start paths t t') {fp : Footprint} (hcovers : fp.Covers t u)
    (halone : ∀ path, paths path → fp.LeavesAlone (Path.place start path)) :
    SameOn start paths u t' where
  linkFree := hcovers.linkFree h.linkFree
  linkFree' := h.linkFree'
  start_eq := hcovers.start.trans h.start_eq
  start_eq' := h.start_eq'
  sameAt path hpath :=
    (h.sameAt path hpath).of_covers h.linkFree hcovers (h.start_eq.symm ▸ halone path hpath)

end SameOn

end Tree

end ChassisCooling.Files
