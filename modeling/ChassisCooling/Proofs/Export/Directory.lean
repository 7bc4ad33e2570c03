import ChassisCooling.Export.Directory
import ChassisCooling.Proofs.Files.Footprint

/-!
# Where exported rows go

The rows of a zone go to one file; the directories on the way to it are made if they are missing.

* `Export.exists_place_zonePath`: the name of the file.
* `Export.footprint`: the file and the directories.
* `Export.appendRows_covers`: nothing else is changed.
-/

namespace ChassisCooling.Export

open Files (Tree Footprint Location)
open Files.Path (place)

/-- Whatever the zone's name, its file has a name with the suffix at its end. -/
theorem exists_place_zonePath (start : Location) (directory zone : String) :
    ∃ above before, place start (zonePath directory zone) = above ++ [before ++ fileSuffix] := by
  obtain ⟨front, hjoin⟩ := Files.Path.exists_join_eq directory (zone ++ fileSuffix)
  unfold zonePath
  rw [hjoin, ← String.append_assoc]
  exact Files.Path.exists_place_append (by decide) (by decide) start (front ++ zone)

/-- The file of the zone may be written, and the directories that lead to it may be made. -/
def footprint (start : Location) (directory zone : String) : Footprint :=
  { Tree.directoriesAbove start directory with
    written := fun l => l = place start (zonePath directory zone) }

/-- Also where rows cannot be added, nothing else is changed. -/
theorem appendRows_covers {t : Tree} (ht : t.LinkFree) (directory zone : String)
    (rows : List Row) :
    (footprint t.start directory zone).Covers t (appendRows directory zone rows t).2 := by
  have hmade : (footprint t.start directory zone).Covers t (t.createDirectories directory).2 :=
    (Tree.createDirectories_covers ht directory).mono (fun _ h => h.elim) (fun _ h => h)
      fun _ h => h
  unfold appendRows
  split
  · exact .refl _ t
  dsimp only
  split
  · next failure t₁ hcreate =>
    rw [hcreate] at hmade
    exact hmade
  · next t₁ hcreate =>
    rw [hcreate] at hmade
    split
    · next t₂ happend =>
      obtain ⟨hwritable, content, rfl⟩ := Tree.appendText_place (hmade.linkFree ht) happend
      rw [hmade.start] at hwritable ⊢
      have hl := hwritable.ne_nil
      refine hmade.trans (.set hl (.written rfl hwritable ?_))
      exact ⟨content, (Tree.node?_set hl _ _).trans (if_pos rfl)⟩
    · exact hmade

end ChassisCooling.Export
