import ChassisCooling.Proofs.Files.Place

/-!
# Footprints

What may happen to a tree, said by locations: files are written in some places, files that are
there already in others, and directories are made in others yet. Nothing is ever removed, so a file
stays a file and a directory a directory.

* `Footprint.Covers`: two trees differ as a footprint allows; `Footprint.Covers.trans`.
* `Tree.HasText`: a path leads to a file with a text, and still does while the text is there.
* `Tree.createDirectories_covers`: missing directories are made on the way only.
-/

namespace ChassisCooling.Files

/-- Where files may be written, where files may be written that are there already, and where
directories may be made. -/
structure Footprint where
  written : Location → Prop
  rewritten : Location → Prop
  made : Location → Prop

namespace Footprint

/-- Nothing may happen. -/
def nothing : Footprint := ⟨fun _ => False, fun _ => False, fun _ => False⟩

/-- What either of two footprints allows. -/
def union (fp fp' : Footprint) : Footprint where
  written l := fp.written l ∨ fp'.written l
  rewritten l := fp.rewritten l ∨ fp'.rewritten l
  made l := fp.made l ∨ fp'.made l

variable {fp fp' : Footprint} {t t' t'' : Tree} {l : Location}

/-- What happened at a location. -/
inductive Change (fp : Footprint) (t t' : Tree) (l : Location) : Prop where
  | written (hl : fp.written l) (before : t.Writable l)
      (after : ∃ content, t'.node? l = some (.file content)) : Change fp t t' l
  | rewritten (hl : fp.rewritten l) (before : ∃ content, t.node? l = some (.file content))
      (after : ∃ content, t'.node? l = some (.file content)) : Change fp t t' l
  | made (hl : fp.made l) (before : t.node? l = none) (after : t'.node? l = some .directory) :
      Change fp t t' l

/-- Wherever two trees differ, the footprint allows it. -/
structure Covers (fp : Footprint) (t t' : Tree) : Prop where
  start : t'.start = t.start
  change : ∀ l, t'.node? l ≠ t.node? l → fp.Change t t' l

namespace Change

/-- A change at a file leaves a file. -/
theorem file (h : fp.Change t t' l) {content : ByteArray}
    (hnode : t.node? l = some (.file content)) : ∃ content, t'.node? l = some (.file content) := by
  cases h with
  | written _ _ after => exact after
  | rewritten _ _ after => exact after
  | made _ before _ => cases before.symm.trans hnode

theorem not_directory (h : fp.Change t t' l) : t.node? l ≠ some .directory := by
  intro hnode
  cases h with
  | written _ before _ =>
    obtain ⟨content, heq⟩ := before _ hnode
    cases heq
  | rewritten _ before _ =>
    obtain ⟨content, heq⟩ := before
    cases heq.symm.trans hnode
  | made _ before _ => cases before.symm.trans hnode

theorem mono (h : fp.Change t t' l) (hwritten : ∀ l, fp.written l → fp'.written l)
    (hrewritten : ∀ l, fp.rewritten l → fp'.rewritten l) (hmade : ∀ l, fp.made l → fp'.made l) :
    fp'.Change t t' l := by
  cases h with
  | written hl before after => exact .written (hwritten l hl) before after
  | rewritten hl before after => exact .rewritten (hrewritten l hl) before after
  | made hl before after => exact .made (hmade l hl) before after

end Change

namespace Covers

theorem refl (fp : Footprint) (t : Tree) : fp.Covers t t := ⟨rfl, fun _ h => absurd rfl h⟩

theorem mono (h : fp.Covers t t') (hwritten : ∀ l, fp.written l → fp'.written l)
    (hrewritten : ∀ l, fp.rewritten l → fp'.rewritten l) (hmade : ∀ l, fp.made l → fp'.made l) :
    fp'.Covers t t' :=
  ⟨h.start, fun l hl => (h.change l hl).mono hwritten hrewritten hmade⟩

theorem union_left (h : fp.Covers t t') (fp' : Footprint) : (fp.union fp').Covers t t' :=
  h.mono (fun _ => .inl) (fun _ => .inl) fun _ => .inl

theorem union_right (h : fp'.Covers t t') (fp : Footprint) : (fp.union fp').Covers t t' :=
  h.mono (fun _ => .inr) (fun _ => .inr) fun _ => .inr

theorem directory (h : fp.Covers t t') (hnode : t.node? l = some .directory) :
    t'.node? l = some .directory := by
  by_contra hne
  exact (h.change l fun heq => hne (heq.trans hnode)).not_directory hnode

/-- What is there stays there, though a file may change. -/
theorem stays (h : fp.Covers t t') (l : Location) (n : Node) (hn : t.node? l = some n) :
    ∃ n', t'.node? l = some n' := by
  by_cases hsame : t'.node? l = t.node? l
  · exact ⟨n, hsame.trans hn⟩
  · cases h.change l hsame with
    | written _ _ after => exact after.imp' _ fun _ => id
    | rewritten _ _ after => exact after.imp' _ fun _ => id
    | made _ _ after => exact ⟨_, after⟩

/-- Of two changes at one location the first says what was there, and the second leaves a file where
the first did. -/
theorem trans (h : fp.Covers t t') (h' : fp.Covers t' t'') : fp.Covers t t'' := by
  refine ⟨h'.start.trans h.start, fun l hl => ?_⟩
  by_cases hfirst : t'.node? l = t.node? l
  · have hsecond := h'.change l fun heq => hl (heq.trans hfirst)
    cases hsecond with
    | written hl before after =>
      exact .written hl (fun n hn => before n (hfirst.trans hn)) after
    | rewritten hl before after => exact .rewritten hl (hfirst ▸ before) after
    | made hl before after => exact .made hl (hfirst ▸ before) after
  have hlater : ∀ {content}, t'.node? l = some (.file content) →
      ∃ content, t''.node? l = some (.file content) := by
    intro content hfile
    by_cases hsame : t''.node? l = t'.node? l
    · exact ⟨content, hsame.trans hfile⟩
    · exact (h'.change l hsame).file hfile
  cases h.change l hfirst with
  | written hl before after => exact .written hl before (hlater after.choose_spec)
  | rewritten hl before after => exact .rewritten hl before (hlater after.choose_spec)
  | made hl before after => exact .made hl before (h'.directory after)

theorem linkFree (h : fp.Covers t t') (ht : t.LinkFree) : t'.LinkFree := by
  intro l target hlink
  by_cases hsame : t'.node? l = t.node? l
  · exact ht l target (hsame.symm.trans hlink)
  · cases h.change l hsame with
    | written _ _ after =>
      obtain ⟨content, hfile⟩ := after
      cases hlink.symm.trans hfile
    | rewritten _ _ after =>
      obtain ⟨content, hfile⟩ := after
      cases hlink.symm.trans hfile
    | made _ _ after => cases hlink.symm.trans after

/-- The change of one location. -/
theorem set (hl : l ≠ []) {n : Node} (h : fp.Change t (t.set l n) l) :
    fp.Covers t (t.set l n) := by
  refine ⟨rfl, fun l' hl' => ?_⟩
  rw [Tree.node?_set hl] at hl'
  split at hl'
  · next heq => exact heq ▸ h
  · exact absurd rfl hl'

/-! ## Paths to files -/

theorem keeps (h : fp.Covers t t') (ht : t.LinkFree) : t.Keeps t' := by
  refine ⟨h.start, fun l n hn hfile => ?_⟩
  cases n with
  | file content => exact absurd rfl (hfile content)
  | directory => exact h.directory hn
  | link target => exact absurd hn (ht l target)

/-- A path that led to a file leads to what is there now. -/
theorem resolve_file (h : fp.Covers t t') (ht : t.LinkFree) {path : String}
    {content content' : ByteArray}
    (hresolve : t.resolve true path = .ok (.existing l (.file content)))
    (hnode : t'.node? l = some (.file content')) :
    t'.resolve true path = .ok (.existing l (.file content')) :=
  (h.keeps ht).resolve_file hnode hresolve (.file content)

end Covers

end Footprint

namespace Path

/-- A path and those above it, name by name. -/
inductive Above (path : String) : String → Prop where
  | self : Above path path
  | parent {p q : String} (h : Above path p) (hq : parent? p = some q) : Above path q

end Path

namespace Tree

variable {t t' : Tree} {path text : String}

/-! ## Texts of files -/

/-- The path leads to a file at its place, which holds a text. -/
def HasText (t : Tree) (path text : String) : Prop :=
  t.resolve true path = .ok (.existing (Path.place t.start path) (.file text.toUTF8))

theorem HasText.readText_eq (h : t.HasText path text) : t.readText path = .ok text :=
  readText_of_resolve h

theorem HasText.node?_eq (h : t.HasText path text) (ht : t.LinkFree) :
    t.node? (Path.place t.start path) = some (.file text.toUTF8) := by
  cases found_of_resolve ht h with
  | existing hnode => exact hnode

/-- The text stays while its place holds it. -/
theorem HasText.of_covers {fp : Footprint} (h : t.HasText path text) (ht : t.LinkFree)
    (hcovers : fp.Covers t t')
    (hnode : t'.node? (Path.place t.start path) = some (.file text.toUTF8)) :
    t'.HasText path text := by
  unfold HasText
  rw [hcovers.start]
  exact hcovers.resolve_file ht h hnode

/-- The text stays where nothing may be written. -/
theorem HasText.of_not_written {fp : Footprint} (h : t.HasText path text) (ht : t.LinkFree)
    (hcovers : fp.Covers t t') (hwritten : ¬fp.written (Path.place t.start path))
    (hrewritten : ¬fp.rewritten (Path.place t.start path)) : t'.HasText path text := by
  have hfile := h.node?_eq ht
  refine h.of_covers ht hcovers ?_
  by_contra hne
  cases hcovers.change _ fun heq => hne (heq.trans hfile) with
  | written hl => exact hwritten hl
  | rewritten hl => exact hrewritten hl
  | made _ before => cases before.symm.trans hfile

theorem hasText_of_writeText (ht : t.LinkFree) (h : t.writeText path text = .ok t') :
    t'.HasText path text := by
  obtain ⟨⟨l, before⟩, hopen, h⟩ := bind_eq_ok_iff.1 h
  obtain ⟨target, hresolve, hopens⟩ := openFile_eq_ok hopen
  obtain ⟨rfl, -⟩ := openFile_place ht hopen
  obtain rfl := Except.ok.inj h
  exact resolve_set hresolve hopens text.toUTF8

/-! ## Making directories -/

/-- Directories where paths above a path lead. -/
def directoriesAbove (start : Location) (path : String) : Footprint where
  written _ := False
  rewritten _ := False
  made l := ∃ p, Path.Above path p ∧ l = Path.place start p

theorem ensureDirectory_covers (ht : t.LinkFree) {top : String} (hpath : Path.Above top path)
    (h : t.ensureDirectory path = .ok t') : (directoriesAbove t.start top).Covers t t' := by
  unfold ensureDirectory at h
  split at h
  · next t'' hcreate =>
    obtain rfl := Except.ok.inj h
    obtain ⟨hnone, rfl⟩ := createDirectory_place ht hcreate
    have hl : Path.place t.start path ≠ [] := by
      intro hroot
      rw [hroot] at hnone
      cases hnone
    refine .set hl (.made ⟨path, hpath, rfl⟩ hnone ?_)
    rw [node?_set hl, if_pos rfl]
  · split at h
    · obtain rfl := Except.ok.inj h
      exact .refl _ t
    · cases h

theorem createDirectoriesWith_covers (ht : t.LinkFree) {top : String} (hpath : Path.Above top path)
    (fuel : Nat) :
    (directoriesAbove t.start top).Covers t (t.createDirectoriesWith fuel path).2 := by
  induction fuel generalizing path with
  | zero => exact .refl _ t
  | succ fuel ih =>
    unfold createDirectoriesWith
    split
    · exact .refl _ t
    split
    · next hmade => exact ensureDirectory_covers ht hpath hmade
    split
    · -- The path above is made first, and then this one.
      split
      · exact .refl _ t
      · next parent hparent =>
        have habove := ih (.parent hpath hparent)
        split
        · next failure t' heq =>
          rw [heq] at habove
          exact habove
        · next t' heq =>
          rw [heq] at habove
          split
          · next t'' hmade =>
            have hlast := ensureDirectory_covers (habove.linkFree ht) hpath hmade
            rw [habove.start] at hlast
            exact habove.trans hlast
          · exact habove
    · exact .refl _ t

theorem createDirectories_covers (ht : t.LinkFree) (path : String) :
    (directoriesAbove t.start path).Covers t (t.createDirectories path).2 :=
  createDirectoriesWith_covers ht .self _

end Tree

end ChassisCooling.Files
