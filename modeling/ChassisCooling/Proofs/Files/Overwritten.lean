import ChassisCooling.Proofs.Files.Elsewhere
import ChassisCooling.Proofs.Files.WellFormed

/-!
# Files that get one text

Several paths are written to in turn, most of them with one text. A path that was written keeps that
text as long as none of the others leads to its file. Links are allowed, so where the others lead is
asked of the tree in the end, which all of them have left their marks on.

* `Tree.Spares`: every file is as it was, or holds the text, or one of the others leads to it;
  `Tree.Spares.trans`: over several changes.
* `Tree.Wrote`: the text was written, and its file was spared since; `Tree.Wrote.readText_eq`: so it
  is still there.
-/

namespace ChassisCooling.Files.Tree

variable {t t' t'' : Tree} {l : Location} {path text : String} {others : String → Prop}

theorem Keeps.refl (t : Tree) : t.Keeps t := ⟨rfl, fun _ _ hn _ => hn⟩

theorem Keeps.trans (h : t.Keeps t') (h' : t'.Keeps t'') : t.Keeps t'' :=
  ⟨h'.start.trans h.start, fun l n hn hfile => h'.node l n (h.node l n hn hfile) hfile⟩

/-- What may have become of the content of a file: nothing, the text, or whatever was written to one
of the others, which leads to the file now. -/
def Spared (t' : Tree) (text : String) (others : String → Prop) (l : Location)
    (before after : ByteArray) : Prop :=
  after = before ∨ after = text.toUTF8 ∨
    ∃ path, others path ∧ t'.resolve true path = .ok (.existing l (.file after))

/-- Files stay files, and each of them is spared. A well-formed tree stays well-formed. -/
structure Spares (text : String) (others : String → Prop) (t t' : Tree) : Prop where
  keeps : t.Keeps t'
  wellFormed : t.WellFormed → t'.WellFormed
  file : ∀ l before, t.node? l = some (.file before) →
    ∃ after, t'.node? l = some (.file after) ∧ t'.Spared text others l before after

namespace Spares

theorem refl (text : String) (others : String → Prop) (t : Tree) : Spares text others t t :=
  ⟨.refl t, id, fun _ before hnode => ⟨before, hnode, .inl rfl⟩⟩

/-- A path that leads to a file still does so when the file was changed again. -/
theorem trans (h : Spares text others t t') (h' : Spares text others t' t'') :
    Spares text others t t'' := by
  refine ⟨h.keeps.trans h'.keeps, h'.wellFormed ∘ h.wellFormed, fun l before hnode => ?_⟩
  obtain ⟨between, hbetween, hspared⟩ := h.file l before hnode
  obtain ⟨after, hafter, hspared'⟩ := h'.file l between hbetween
  refine ⟨after, hafter, ?_⟩
  rcases hspared' with rfl | hlater
  · rcases hspared with hsame | htext | ⟨path, hpath, hresolve⟩
    · exact .inl hsame
    · exact .inr (.inl htext)
    · exact .inr (.inr ⟨path, hpath, h'.keeps.resolve_file hafter hresolve (.file _)⟩)
  · exact .inr hlater

/-- A path was written to. -/
theorem set {target : Target} (hresolve : t.resolve true path = .ok target)
    (hopens : Opens l target) {content : ByteArray}
    (h : ∀ before, (t.set l (.file content)).Spared text others l before content) :
    Spares text others t (t.set l (.file content)) := by
  have hl := (shown_of_resolve hresolve).writable hopens
  refine ⟨.set hl _, fun ht => ht.set hl (ht.housed_of_resolve hresolve hopens) _,
    fun l' before hnode => ?_⟩
  rw [node?_set hl.ne_nil]
  by_cases heq : l' = l
  · rw [if_pos heq]
    exact ⟨content, rfl, heq ▸ h before⟩
  · rw [if_neg heq]
    exact ⟨before, hnode, .inl rfl⟩

theorem of_writeText (h : t.writeText path text = .ok t') : Spares text others t t' := by
  obtain ⟨target, l, hresolve, hopens, rfl⟩ := write_eq_ok h
  exact set hresolve hopens fun _ => .inr (.inl rfl)

/-- Anything may be written to one of the others. -/
theorem of_write_other {content : ByteArray} (hpath : others path)
    (h : t.write path content = .ok t') : Spares text others t t' := by
  obtain ⟨target, l, hresolve, hopens, rfl⟩ := write_eq_ok h
  exact set hresolve hopens fun _ =>
    .inr (.inr ⟨path, hpath, resolve_set hresolve hopens content⟩)

/-- Adding to a file is writing it anew. -/
theorem of_append_other {content : ByteArray} (hpath : others path)
    (h : t.append path content = .ok t') : Spares text others t t' := by
  obtain ⟨⟨l, before⟩, hopen, hset⟩ := bind_eq_ok_iff.1 h
  exact of_write_other hpath (bind_eq_ok_iff.2 ⟨⟨l, before⟩, hopen, hset⟩)

theorem of_createDirectories (text : String) (others : String → Prop) (t : Tree) (path : String) :
    Spares text others t (t.createDirectories path).2 := by
  have hgrows := createDirectories_grows t path
  refine ⟨hgrows.keeps, fun ht => ht.createDirectories path,
    fun l before hnode => ⟨before, ?_, .inl rfl⟩⟩
  rcases hgrows.node l with heq | ⟨hnone, -⟩
  · exact heq.trans hnode
  · rw [hnode] at hnone
    cases hnone

end Spares

/-- The text was written to the path's file, which was spared since. -/
def Wrote (text : String) (others : String → Prop) (path : String) (t' : Tree) : Prop :=
  ∃ t l, t.resolve true path = .ok (.existing l (.file text.toUTF8)) ∧ Spares text others t t'

namespace Wrote

theorem of_writeText (h : t.writeText path text = .ok t') : Wrote text others path t' := by
  obtain ⟨l, hresolve⟩ := resolve_of_write h
  exact ⟨t', l, hresolve, .refl text others t'⟩

theorem trans (h : Wrote text others path t) (h' : Spares text others t t') :
    Wrote text others path t' := by
  obtain ⟨t₀, l, hresolve, hspares⟩ := h
  exact ⟨t₀, l, hresolve, hspares.trans h'⟩

/-- The text is still there, unless one of the others leads to its file. -/
theorem readText_eq (h : Wrote text others path t)
    (hothers : ∀ other, others other → t.Apart path other) : t.readText path = .ok text := by
  obtain ⟨t₀, l, hresolve, hspares⟩ := h
  have hnode : t₀.node? l = some (.file text.toUTF8) := by
    cases shown_of_resolve hresolve with
    | existing hnode => exact hnode
  obtain ⟨after, hafter, hspared⟩ := hspares.file l _ hnode
  have hnow := hspares.keeps.resolve_file hafter hresolve (.file _)
  rcases hspared with rfl | rfl | ⟨other, hother, hleads⟩
  · exact readText_of_resolve hnow
  · exact readText_of_resolve hnow
  · exact absurd rfl (hothers other hother _ _ hnow hleads)

end Wrote

end ChassisCooling.Files.Tree
