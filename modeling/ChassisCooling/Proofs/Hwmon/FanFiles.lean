import ChassisCooling.Proofs.Files.Footprint
import ChassisCooling.Proofs.Hwmon.Discovery

/-!
# The files of a fan

A fan channel has two files: the duty cycle is written whenever the speed is set, and who controls
the fan is written once, if there is a file for it. Their names tell them apart: of all files that
the control loop writes, only those that say who controls a fan have an underscore in their names.

* `FanChannel.footprint`: where setting the speed of several fans may change something.
* `FanChannel.SetsSpeed`: it changes nothing elsewhere, and puts one text everywhere but into the
  files that say who controls a fan.
* `FanChannel.setSpeed_setsSpeed`: one fan.
* `FanChannel.Indexed.not_rewritten_dutyPath`: the two kinds of files are apart.
* `Hwmon.indexed_of_discover`: so they are for discovered fans.
-/

namespace ChassisCooling.Hwmon

open Files (Tree Footprint Location)
open Files.Path (join place Plain)

namespace FanChannel

variable {c c₁ c₂ : FanChannel} {all : List FanChannel} {t t' t'' : Tree} {start : Location}
  {speed : Single}

/-- A speed as the text of its duty cycle. -/
def dutyText (speed : Single) : String := toString (DutyCycle.ofPercent speed).toNat

/-- Channels of the same files. -/
structure SameFiles (c c' : FanChannel) : Prop where
  dutyPath : c'.dutyPath = c.dutyPath
  enablePath : c'.enablePath = c.enablePath

theorem sameFiles_takeControl (c : FanChannel) (t : Tree) : c.SameFiles (c.takeControl t).2.1 := by
  unfold takeControl
  split
  · exact ⟨rfl, rfl⟩
  split
  · split <;> exact ⟨rfl, rfl⟩
  · exact ⟨rfl, rfl⟩

theorem sameFiles_setSpeed (c : FanChannel) (speed : Single) (t : Tree) :
    c.SameFiles (c.setSpeed speed t).2.1 := by
  have hfiles := sameFiles_takeControl c t
  unfold setSpeed
  split
  · next heq =>
    rw [heq] at hfiles
    exact hfiles
  · next heq =>
    rw [heq] at hfiles
    dsimp only
    split <;> exact hfiles

/-- The duty cycles may be written, and who controls a fan, if there is a file for it. -/
def footprint (start : Location) (all : List FanChannel) : Footprint where
  written l := ∃ c ∈ all, l = place start c.dutyPath
  rewritten l := ∃ c ∈ all, l = place start c.enablePath
  made _ := False

/-- Nothing is changed but files of the channels, and those of duty cycles hold the speed if they
are changed. -/
structure SetsSpeed (speed : Single) (all : List FanChannel) (t t' : Tree) : Prop where
  covers : (footprint t.start all).Covers t t'
  text : ∀ l, ¬(footprint t.start all).rewritten l →
    t'.node? l = t.node? l ∨ t'.node? l = some (.file (dutyText speed).toUTF8)

namespace SetsSpeed

theorem refl (speed : Single) (all : List FanChannel) (t : Tree) : SetsSpeed speed all t t :=
  ⟨.refl _ t, fun _ _ => .inl rfl⟩

theorem trans (h : SetsSpeed speed all t t') (h' : SetsSpeed speed all t' t'') :
    SetsSpeed speed all t t'' := by
  obtain ⟨hcovers, htext⟩ := h
  obtain ⟨hcovers', htext'⟩ := h'
  rw [hcovers.start] at hcovers' htext'
  refine ⟨hcovers.trans hcovers', fun l hl => ?_⟩
  rcases htext' l hl with hsame | hset
  · rw [hsame]
    exact htext l hl
  · exact .inr hset

/-- A duty cycle that was set is not set to anything else. -/
theorem hasText (h : SetsSpeed speed all t t') (ht : t.LinkFree) {path : String}
    (hpath : t.HasText path (dutyText speed))
    (happart : ¬(footprint t.start all).rewritten (place t.start path)) :
    t'.HasText path (dutyText speed) := by
  refine hpath.of_covers ht h.covers ?_
  rcases h.text _ happart with hsame | hset
  · exact hsame.trans (hpath.node?_eq ht)
  · exact hset

end SetsSpeed

/-! ## One fan -/

theorem takeControl_setsSpeed (ht : t.LinkFree) (hmem : c ∈ all) (hfiles : c.SameFiles c₁)
    (speed : Single) {result : Except Error Unit} (h : c₁.takeControl t = (result, c₂, t')) :
    c.SameFiles c₂ ∧ SetsSpeed speed all t t' := by
  unfold takeControl at h
  split at h
  · cases h
    exact ⟨hfiles, .refl speed all t⟩
  split at h
  · next hholds =>
    split at h
    · next t'' hwrite =>
      cases h
      have hfile := Tree.exists_file_of_holds ht hholds hwrite
      obtain ⟨hwritable, rfl⟩ := Tree.writeText_place ht hwrite
      refine ⟨⟨hfiles.dutyPath, hfiles.enablePath⟩, ?_⟩
      rw [hfiles.enablePath] at hfile hwritable ⊢
      have hl := hwritable.ne_nil
      refine ⟨.set hl (.rewritten ⟨c, hmem, rfl⟩ hfile ?_), fun l hne => ?_⟩
      · exact ⟨_, (Tree.node?_set hl _ _).trans (if_pos rfl)⟩
      · rw [Tree.node?_set hl, if_neg fun heq => hne ⟨c, hmem, heq⟩]
        exact .inl rfl
    · cases h
      exact ⟨hfiles, .refl speed all t⟩
  · cases h
    exact ⟨⟨hfiles.dutyPath, hfiles.enablePath⟩, .refl speed all t⟩

/-- Where setting a speed succeeds, the file of the duty cycle holds it. -/
theorem setSpeed_setsSpeed (ht : t.LinkFree) (hmem : c ∈ all) (hfiles : c.SameFiles c₁)
    {result : Except Error Unit} (h : c₁.setSpeed speed t = (result, c₂, t')) :
    c.SameFiles c₂ ∧ SetsSpeed speed all t t' ∧
      (result = .ok () → t'.HasText c.dutyPath (dutyText speed)) := by
  unfold setSpeed at h
  split at h
  · next e c₃ t₁ htake =>
    cases h
    obtain ⟨hfiles, hsets⟩ := takeControl_setsSpeed ht hmem hfiles speed htake
    exact ⟨hfiles, hsets, fun heq => by cases heq⟩
  · next c₃ t₁ htake =>
    obtain ⟨hfiles, hsets⟩ := takeControl_setsSpeed ht hmem hfiles speed htake
    have ht₁ := hsets.covers.linkFree ht
    dsimp only at h
    split at h
    · next t₂ hwrite =>
      cases h
      have htext := Tree.hasText_of_writeText ht₁ hwrite
      obtain ⟨hwritable, rfl⟩ := Tree.writeText_place ht₁ hwrite
      rw [hfiles.dutyPath] at hwritable htext ⊢
      have hl := hwritable.ne_nil
      refine ⟨hfiles, hsets.trans ⟨.set hl (.written ⟨c, hmem, rfl⟩ hwritable ?_), fun l _ => ?_⟩,
        fun _ => htext⟩
      · exact ⟨_, (Tree.node?_set hl _ _).trans (if_pos rfl)⟩
      · rw [Tree.node?_set hl]
        split
        · exact .inr rfl
        · exact .inl rfl
    · cases h
      exact ⟨hfiles, hsets, fun heq => by cases heq⟩

/-! ## Names of files -/

theorem not_mem_toString {c : Char} (hc : ¬c.isDigit) (n : Nat) : c ∉ (toString n).toList := by
  intro h
  have hdigits : (toString n).toList = Nat.toDigits 10 n := Nat.toList_repr
  rw [hdigits] at h
  exact hc (Nat.isDigit_of_mem_toDigits (by decide) (by decide) h)

/-- The name of a duty cycle's file has neither slashes nor dots nor underscores. -/
theorem not_mem_dutyName {c : Char} (hstem : c ∉ "pwm".toList) (hc : ¬c.isDigit) (index : Nat) :
    c ∉ ("pwm" ++ toString index).toList := by
  rw [String.toList_append, List.mem_append, not_or]
  exact ⟨hstem, not_mem_toString hc index⟩

/-- The same for a name with a text behind the number. -/
theorem not_mem_numberedName {c : Char} {before after : String} (hbefore : c ∉ before.toList)
    (hafter : c ∉ after.toList) (hc : ¬c.isDigit) (index : Nat) :
    c ∉ (before ++ toString index ++ after).toList := by
  rw [String.toList_append, String.toList_append, List.mem_append, List.mem_append]
  rintro ((h | h) | h)
  · exact hbefore h
  · exact not_mem_toString hc index h
  · exact hafter h

theorem plain_dutyName (index : Nat) : Plain ("pwm" ++ toString index) :=
  .of_head (not_mem_dutyName (by decide) (by decide) index) (c := 'p') (by simp) (by decide)

theorem plain_enableName (index : Nat) : Plain ("pwm" ++ toString index ++ "_enable") :=
  .of_head (not_mem_numberedName (by decide) (by decide) (by decide) index) (c := 'p') (by simp)
    (by decide)

/-- The name of a chip is no part of its channels' paths. -/
theorem dutyPath_ofIndex (chip directory : String) (index : Nat) :
    (ofIndex chip directory index).dutyPath = join directory ("pwm" ++ toString index) :=
  rfl

theorem place_dutyPath (start : Location) (chip directory : String) (index : Nat) :
    place start (ofIndex chip directory index).dutyPath =
      place start directory ++ ["pwm" ++ toString index] :=
  Files.Path.place_join start directory (plain_dutyName index)

theorem place_enablePath (start : Location) (chip directory : String) (index : Nat) :
    place start (ofIndex chip directory index).enablePath =
      place start directory ++ ["pwm" ++ toString index ++ "_enable"] :=
  Files.Path.place_join start directory (plain_enableName index)

/-- The two files of a channel have different names in one directory. -/
theorem place_enablePath_ne (start : Location) (chip directory : String) (index : Nat) :
    place start (ofIndex chip directory index).enablePath ≠
      place start (ofIndex chip directory index).dutyPath := by
  rw [place_enablePath, place_dutyPath]
  intro h
  have hnames := List.singleton_inj.1 (List.append_cancel_left h)
  have hmem : '_' ∈ ("pwm" ++ toString index ++ "_enable").toList := by
    rw [String.toList_append, List.mem_append]
    exact .inr (by decide)
  rw [hnames] at hmem
  exact not_mem_dutyName (by decide) (by decide) index hmem

/-- The last name has a character in it. -/
def LastHas (c : Char) (l : Location) : Prop := ∃ name, l.getLast? = some name ∧ c ∈ name.toList

theorem lastHas_concat_iff {c : Char} {l : Location} {name : String} :
    LastHas c (l ++ [name]) ↔ c ∈ name.toList := by
  unfold LastHas
  simp

/-- Every channel is that of some number in some directory. -/
def Indexed (all : List FanChannel) : Prop :=
  ∀ c ∈ all, ∃ chip directory index, c = ofIndex chip directory index

theorem Indexed.not_lastHas_dutyPath (hall : Indexed all) (hc : c ∈ all) (start : Location)
    {x : Char} (hstem : x ∉ "pwm".toList) (hx : ¬x.isDigit) :
    ¬LastHas x (place start c.dutyPath) := by
  obtain ⟨chip, directory, index, rfl⟩ := hall c hc
  rw [place_dutyPath, lastHas_concat_iff]
  exact not_mem_dutyName hstem hx index

theorem Indexed.lastHas_of_rewritten (hall : Indexed all) {l : Location}
    (h : (footprint start all).rewritten l) : LastHas '_' l := by
  obtain ⟨channel, hmem, rfl⟩ := h
  obtain ⟨chip, directory, index, rfl⟩ := hall channel hmem
  rw [place_enablePath, lastHas_concat_iff, String.toList_append, List.mem_append]
  exact .inr (by decide)

/-- No file of a duty cycle says who controls a fan. -/
theorem Indexed.not_rewritten_dutyPath (hall : Indexed all) (hc : c ∈ all) :
    ¬(footprint start all).rewritten (place start c.dutyPath) := fun h =>
  hall.not_lastHas_dutyPath hc start (by decide) (by decide) (hall.lastHas_of_rewritten h)

end FanChannel

/-! ## Discovered fans -/

theorem indexed_of_discover {t : Tree} {root : String} {inventory : Inventory}
    (h : discover t root = .ok inventory) : FanChannel.Indexed inventory.fans := by
  intro c hc
  obtain ⟨e, -, index, -, rfl⟩ := (mem_fans_iff h).1 hc
  exact ⟨_, _, index, rfl⟩

end ChassisCooling.Hwmon
