import ChassisCooling.Proofs.Files.Order
import ChassisCooling.Proofs.Hwmon.ChannelName
import ChassisCooling.Proofs.Text.ByteOrder
import Mathlib.Data.List.Nodup
import Mathlib.Data.List.Pairwise
import Mathlib.Data.List.Perm.Basic

/-!
# Discovery finds every channel once, in any order of the directories

The files of all chips are gone through directory by directory. Directories that name their entries
in another order give the same files in another order. Sorting the channels by name undoes this if
no two of them have one name.

* `Hwmon.ChipFile.LiesBelow`, `Hwmon.ChipFile.StandsFor`: the files of chips, and the channels they
  stand for.
* `Hwmon.mem_fans_iff`, `Hwmon.mem_thermals_iff`: what discovery finds.
* `Hwmon.Catalogue`: one channel for every file of a kind, by name.
* `Hwmon.discover_of_reordered`: discovery gives the same catalogues for every order of the
  directories.
-/

namespace ChassisCooling.Hwmon

open Files (Tree)
open Files.Path (join)

/-! ## Files of chips -/

/-- A chip's directory and a file in it, by name. -/
structure ChipFile where
  chip : String
  file : String
  deriving DecidableEq

namespace ChipFile

variable {α : Type} {t : Tree} {root : String}

/-- The chip's directory is named below the root, and the file in the chip's directory. -/
structure LiesBelow (t : Tree) (root : String) (e : ChipFile) : Prop where
  chip : ∃ chips, t.names root = .ok chips ∧ e.chip ∈ chips
  file : ∃ files, t.names (join root e.chip) = .ok files ∧ e.file ∈ files

/-- The channel of a file whose name has a number between two texts. -/
def channel? (before after : String) (channel : String → String → Nat → α) (t : Tree)
    (root : String) (e : ChipFile) : Option α :=
  let directory := join root e.chip
  (channelIndex before after e.file).map (channel (chipName t directory e.chip) directory)

/-- The file is there, and its name has a number between two texts: it stands for that channel of
its chip. -/
def StandsFor (before after : String) (channel : String → String → Nat → α) (t : Tree)
    (root : String) (e : ChipFile) (a : α) : Prop :=
  e.LiesBelow t root ∧ ∃ index, Numbered before after index e.file ∧
    a = channel (chipName t (join root e.chip) e.chip) (join root e.chip) index

theorem standsFor_iff {before after : String} {channel : String → String → Nat → α} {e : ChipFile}
    {a : α} (hafter : ∀ c ∈ after.toList.head?, ¬c.isDigit) :
    e.StandsFor before after channel t root a ↔
      e.LiesBelow t root ∧ e.channel? before after channel t root = some a := by
  unfold StandsFor channel?
  rw [Option.map_eq_some_iff]
  exact and_congr_right' (exists_congr fun index =>
    and_congr (channelIndex_eq_some_iff hafter).symm eq_comm)

/-- The files of one chip; a chip that cannot be read has none. -/
def ofChip (t : Tree) (root chip : String) : List ChipFile :=
  match t.names (join root chip) with
  | .ok files => files.map (ChipFile.mk chip)
  | .error _ => []

/-- The files of all chips, in the order of the directories. -/
def below (t : Tree) (root : String) (chips : List String) : List ChipFile :=
  (chips.filter fun chip => t.isDirectory (join root chip)).flatMap (ofChip t root)

theorem mem_ofChip_iff {chip : String} {e : ChipFile} :
    e ∈ ofChip t root chip ↔
      e.chip = chip ∧ ∃ files, t.names (join root chip) = .ok files ∧ e.file ∈ files := by
  unfold ofChip
  constructor
  · intro h
    split at h
    · next files hfiles =>
      obtain ⟨file, hfile, rfl⟩ := List.mem_map.1 h
      exact ⟨rfl, files, hfiles, hfile⟩
    · cases h
  · rintro ⟨rfl, files, hfiles, hfile⟩
    rw [hfiles]
    exact List.mem_map.2 ⟨e.file, hfile, rfl⟩

theorem mem_below_iff {chips : List String} (hchips : t.names root = .ok chips) {e : ChipFile} :
    e ∈ below t root chips ↔ e.LiesBelow t root := by
  unfold below
  rw [List.mem_flatMap]
  constructor
  · rintro ⟨chip, hchip, he⟩
    obtain ⟨rfl, hfile⟩ := mem_ofChip_iff.1 he
    exact ⟨⟨chips, hchips, (List.mem_filter.1 hchip).1⟩, hfile⟩
  · rintro ⟨⟨chips', hchips', hmem⟩, hfile⟩
    obtain rfl := Except.ok.inj (hchips.symm.trans hchips')
    obtain ⟨files, hfiles, -⟩ := id hfile
    exact ⟨e.chip, List.mem_filter.2 ⟨hmem, Tree.isDirectory_of_names hfiles⟩,
      mem_ofChip_iff.2 ⟨rfl, hfile⟩⟩

/-- Directories name no entry twice, so no file is found twice. -/
theorem nodup_below (hdistinct : t.Distinct) {chips : List String}
    (hchips : t.names root = .ok chips) : (below t root chips).Nodup := by
  unfold below
  rw [List.nodup_flatMap]
  constructor
  · intro chip _
    unfold ofChip
    split
    · next files hfiles =>
      refine (hdistinct.nodup_names hfiles).map fun file file' heq => ?_
      exact congrArg ChipFile.file heq
    · exact List.nodup_nil
  · refine ((hdistinct.nodup_names hchips).filter _).imp ?_
    intro chip chip' hne e he he'
    exact hne ((mem_ofChip_iff.1 he).1.symm.trans (mem_ofChip_iff.1 he').1)

end ChipFile

/-! ## The order of the directories -/

section Reordered

variable {t t' : Tree} {root : String}

theorem readLabel_of_reordered (h : t.Reordered t') (hdistinct : t.Distinct) (path : String) :
    readLabel t' path = readLabel t path := by
  unfold readLabel
  rw [h.readText_eq hdistinct]

theorem chipName_of_reordered (h : t.Reordered t') (hdistinct : t.Distinct)
    (directory entry : String) : chipName t' directory entry = chipName t directory entry := by
  unfold chipName
  rw [readLabel_of_reordered h hdistinct]

theorem readMillidegrees_of_reordered (h : t.Reordered t') (hdistinct : t.Distinct)
    (path : String) : readMillidegrees t' path = readMillidegrees t path := by
  unfold readMillidegrees readNumber
  rw [h.readText_eq hdistinct]

theorem describedAt_of_reordered (h : t.Reordered t') (hdistinct : t.Distinct) :
    ThermalChannel.describedAt t' = ThermalChannel.describedAt t := by
  funext chip directory index
  unfold ThermalChannel.describedAt
  simp only [readLabel_of_reordered h hdistinct, readMillidegrees_of_reordered h hdistinct]

theorem channel?_of_reordered {α : Type} {before after : String}
    {channel : String → String → Nat → α} (h : t.Reordered t') (hdistinct : t.Distinct) :
    ChipFile.channel? before after channel t' root =
      ChipFile.channel? before after channel t root := by
  funext e
  unfold ChipFile.channel?
  simp only [chipName_of_reordered h hdistinct]

theorem ofChip_of_reordered (h : t.Reordered t') (hdistinct : t.Distinct) (chip : String) :
    (ChipFile.ofChip t root chip).Perm (ChipFile.ofChip t' root chip) := by
  unfold ChipFile.ofChip
  cases hfiles : t.names (join root chip) with
  | ok files =>
    obtain ⟨files', hfiles', hperm⟩ := h.names hdistinct hfiles
    rw [hfiles']
    exact hperm.map _
  | error failure =>
    cases hfiles' : t'.names (join root chip) with
    | error _ => exact .refl _
    | ok files' =>
      obtain ⟨files, hfiles'', -⟩ := (h.symm).names (h.distinct hdistinct) hfiles'
      cases hfiles.symm.trans hfiles''

theorem below_of_reordered (h : t.Reordered t') (hdistinct : t.Distinct)
    {chips chips' : List String} (hchips : chips.Perm chips') :
    (ChipFile.below t root chips).Perm (ChipFile.below t' root chips') := by
  unfold ChipFile.below
  simp only [h.isDirectory_eq hdistinct]
  exact (hchips.filter _).flatMap fun chip _ => ofChip_of_reordered h hdistinct chip

end Reordered

/-! ## Sorting by name -/

section Sorted

variable {α : Type} {name : α → String} {channels channels' : List α}

/-- Channels of different names are strictly in order. -/
theorem pairwise_lt_sorted (h : channels.Pairwise fun a b => name a ≠ name b) :
    (channels.mergeSort fun a b => name a ≤ name b).Pairwise fun a b => name a < name b := by
  have hsorted : (channels.mergeSort fun a b => name a ≤ name b).Pairwise
      fun a b => name a ≤ name b := by
    have htrans : ∀ a b c : α, decide (name a ≤ name b) → decide (name b ≤ name c) →
        decide (name a ≤ name c) := by
      intro a b c hab hbc
      exact decide_eq_true (String.le_trans (of_decide_eq_true hab) (of_decide_eq_true hbc))
    have htotal : ∀ a b : α, decide (name a ≤ name b) || decide (name b ≤ name a) := by
      intro a b
      simpa using String.le_total (name a) (name b)
    exact (List.pairwise_mergeSort htrans htotal channels).imp of_decide_eq_true
  have hne := (List.mergeSort_perm channels fun a b => name a ≤ name b).symm.pairwise h
    fun hab => Ne.symm hab
  refine (hsorted.and hne).imp fun ⟨hle, hne⟩ => ?_
  exact String.not_le.1 fun hge => hne (String.le_antisymm hle hge)

/-- The order in which channels were found does not matter. -/
theorem sorted_eq_of_perm (h : channels.Pairwise fun a b => name a ≠ name b)
    (hperm : channels.Perm channels') :
    (channels'.mergeSort fun a b => name a ≤ name b) =
      channels.mergeSort fun a b => name a ≤ name b := by
  have h' := hperm.pairwise h fun hab => Ne.symm hab
  refine List.Perm.eq_of_pairwise (fun a b _ _ hab hba => ?_) (pairwise_lt_sorted h')
    (pairwise_lt_sorted h) ?_
  · exact absurd (String.lt_trans hab hba) (String.lt_irrefl _)
  · exact (List.mergeSort_perm _ _).trans (hperm.symm.trans (List.mergeSort_perm _ _).symm)

end Sorted

/-! ## One channel for every file -/

section Catalogue

variable {α : Type} {name : α → String} {stands : ChipFile → α → Prop}

/-- No two files stand for channels of one name. -/
def NamedApart (name : α → String) (stands : ChipFile → α → Prop) : Prop :=
  ∀ e e' a a', stands e a → stands e' a' → name a = name a' → e = e'

/-- One channel for every file that stands for one and no other channel, in the order of the bytes
of their names. -/
structure Catalogue (name : α → String) (stands : ChipFile → α → Prop) (channels : List α) :
    Prop where
  increasing : channels.Pairwise fun a b => Text.bytes (name a) < Text.bytes (name b)
  each : ∀ e a, stands e a → ∃! i : Nat, ∃ b, channels[i]? = some b ∧ stands e b
  only : ∀ a ∈ channels, ∃! e, stands e a

variable {files : List ChipFile} {channel? : ChipFile → Option α}

theorem NamedApart.pairwise (hnames : NamedApart name stands)
    (hstands : ∀ e a, stands e a ↔ e ∈ files ∧ channel? e = some a) (hnodup : files.Nodup) :
    (files.filterMap channel?).Pairwise fun a b => name a ≠ name b := by
  rw [List.pairwise_filterMap]
  refine hnodup.pairwise_of_forall_ne ?_
  intro e he e' he' hne a ha a' ha' heq
  exact hne (hnames e e' a a' ((hstands e a).2 ⟨he, ha⟩) ((hstands e' a').2 ⟨he', ha'⟩) heq)

/-- It is enough to look at the channels that were found. -/
theorem namedApart_of_nodup (hstands : ∀ e a, stands e a ↔ e ∈ files ∧ channel? e = some a)
    (h : ((files.filterMap channel?).map name).Nodup) : NamedApart name stands := by
  unfold List.Nodup at h
  rw [List.pairwise_map, List.pairwise_filterMap] at h
  intro e e' a a' ha ha' heq
  obtain ⟨he, ha⟩ := (hstands e a).1 ha
  obtain ⟨he', ha'⟩ := (hstands e' a').1 ha'
  by_contra hne
  have hsymm : Std.Symm fun e e' =>
      ∀ b, channel? e = some b → ∀ b', channel? e' = some b' → name b ≠ name b' :=
    ⟨fun e e' h b hb b' hb' => (h b' hb' b hb).symm⟩
  exact h.forall he he' hne a ha a' ha' heq

theorem NamedApart.catalogue (hnames : NamedApart name stands)
    (hstands : ∀ e a, stands e a ↔ e ∈ files ∧ channel? e = some a) (hnodup : files.Nodup) :
    Catalogue name stands ((files.filterMap channel?).mergeSort fun a b => name a ≤ name b) := by
  have hlt := pairwise_lt_sorted (hnames.pairwise hstands hnodup)
  have hmem : ∀ a, a ∈ (files.filterMap channel?).mergeSort (fun a b => name a ≤ name b) ↔
      ∃ e, stands e a := by
    intro a
    rw [(List.mergeSort_perm _ _).mem_iff, List.mem_filterMap]
    simp only [hstands]
  generalize (files.filterMap channel?).mergeSort (fun a b => name a ≤ name b) = channels at *
  have hchannels : channels.Nodup := by
    refine hlt.imp ?_
    rintro a _ hlt rfl
    exact String.lt_irrefl _ hlt
  refine ⟨hlt.imp Text.bytes_lt_of_lt, fun e a ha => ?_, fun a ha => ?_⟩
  · obtain ⟨i, hi⟩ := List.mem_iff_getElem?.1 ((hmem a).2 ⟨e, ha⟩)
    refine ⟨i, ⟨a, hi, ha⟩, ?_⟩
    rintro j ⟨b, hj, hb⟩
    obtain rfl : b = a :=
      Option.some.inj (((hstands e b).1 hb).2.symm.trans ((hstands e a).1 ha).2)
    obtain ⟨hlength, -⟩ := List.getElem?_eq_some_iff.1 hj
    exact (List.getElem?_inj hlength hchannels).1 (hj.trans hi.symm)
  · obtain ⟨e, he⟩ := (hmem a).1 ha
    exact ⟨e, he, fun e' he' => hnames e' e a a he' he rfl⟩

end Catalogue

/-! ## Discovery -/

variable {t t' : Tree} {root : String}

/-- The input of a temperature channel, which the chip's files describe. -/
def ChipFile.IsThermal (t : Tree) (root : String) (e : ChipFile) (c : ThermalChannel) : Prop :=
  e.StandsFor "temp" "_input" (ThermalChannel.describedAt t) t root c

def ChipFile.IsFan (t : Tree) (root : String) (e : ChipFile) (c : FanChannel) : Prop :=
  e.StandsFor "pwm" "" FanChannel.ofIndex t root c

theorem ChipFile.isThermal_iff {chips : List String} (hchips : t.names root = .ok chips)
    (e : ChipFile) (c : ThermalChannel) :
    e.IsThermal t root c ↔ e ∈ below t root chips ∧
      e.channel? "temp" "_input" (ThermalChannel.describedAt t) t root = some c := by
  rw [mem_below_iff hchips]
  refine standsFor_iff fun c hc => ?_
  obtain rfl : '_' = c := Option.some.inj hc
  decide

theorem ChipFile.isFan_iff {chips : List String} (hchips : t.names root = .ok chips)
    (e : ChipFile) (c : FanChannel) :
    e.IsFan t root c ↔ e ∈ below t root chips ∧
      e.channel? "pwm" "" FanChannel.ofIndex t root = some c := by
  rw [mem_below_iff hchips]
  exact standsFor_iff fun c hc => nomatch hc

/-- The channels of a chip are those of its files. -/
theorem chipChannels_eq (t : Tree) (root chip : String) :
    chipChannels t (join root chip) chip = {
      fans := (ChipFile.ofChip t root chip).filterMap
        (ChipFile.channel? "pwm" "" FanChannel.ofIndex t root)
      thermals := (ChipFile.ofChip t root chip).filterMap
        (ChipFile.channel? "temp" "_input" (ThermalChannel.describedAt t) t root) } := by
  unfold chipChannels ChipFile.ofChip
  cases t.names (join root chip) with
  | error failure => rfl
  | ok files =>
    simp only [List.filterMap_map]
    rfl

/-- All channels, found file by file. -/
theorem discover_eq {chips : List String} (hchips : t.names root = .ok chips) :
    discover t root = .ok {
      fans := ((ChipFile.below t root chips).filterMap
          (ChipFile.channel? "pwm" "" FanChannel.ofIndex t root)).mergeSort
        fun a b => a.name ≤ b.name
      thermals := ((ChipFile.below t root chips).filterMap
          (ChipFile.channel? "temp" "_input" (ThermalChannel.describedAt t) t root)).mergeSort
        fun a b => a.name ≤ b.name } := by
  unfold discover Hwmon.chips ChipFile.below
  rw [if_neg (not_not_intro (Tree.isDirectory_of_names hchips)), hchips]
  simp only [bind, Except.bind, Except.mapError, List.flatMap_map, chipChannels_eq,
    List.filterMap_flatMap]
  rfl

theorem isDirectory_of_discover {inventory : Inventory} (h : discover t root = .ok inventory) :
    t.isDirectory root := by
  by_contra hroot
  unfold discover at h
  rw [if_pos hroot] at h
  cases h

theorem exists_discover_of_isDirectory (h : t.isDirectory root) :
    ∃ inventory, discover t root = .ok inventory := by
  obtain ⟨chips, hchips⟩ := Tree.exists_names_of_isDirectory h
  exact ⟨_, discover_eq hchips⟩

/-- The fans of an inventory are those of the files below the root. -/
theorem mem_fans_iff {inventory : Inventory} (h : discover t root = .ok inventory)
    {c : FanChannel} : c ∈ inventory.fans ↔ ∃ e : ChipFile, e.IsFan t root c := by
  obtain ⟨chips, hchips⟩ := Tree.exists_names_of_isDirectory (isDirectory_of_discover h)
  rw [discover_eq hchips] at h
  obtain rfl := Except.ok.inj h
  rw [(List.mergeSort_perm _ _).mem_iff, List.mem_filterMap]
  exact exists_congr fun e => (ChipFile.isFan_iff hchips e c).symm

theorem mem_thermals_iff {inventory : Inventory} (h : discover t root = .ok inventory)
    {c : ThermalChannel} : c ∈ inventory.thermals ↔ ∃ e : ChipFile, e.IsThermal t root c := by
  obtain ⟨chips, hchips⟩ := Tree.exists_names_of_isDirectory (isDirectory_of_discover h)
  rw [discover_eq hchips] at h
  obtain rfl := Except.ok.inj h
  rw [(List.mergeSort_perm _ _).mem_iff, List.mem_filterMap]
  exact exists_congr fun e => (ChipFile.isThermal_iff hchips e c).symm

/-- The channels of some chips, in the order of their files. -/
def Inventory.listed (t : Tree) (root : String) (chips : List String) : Inventory where
  fans := (ChipFile.below t root chips).filterMap
    (ChipFile.channel? "pwm" "" FanChannel.ofIndex t root)
  thermals := (ChipFile.below t root chips).filterMap
    (ChipFile.channel? "temp" "_input" (ThermalChannel.describedAt t) t root)

instance : DecidableEq Inventory := fun a b =>
  decidable_of_iff (a.fans = b.fans ∧ a.thermals = b.thermals) (Inventory.mk.injEq ..).to_iff.symm

/-- Nothing is left to sort if that is the order of their names. -/
theorem discover_of_listed {chips : List String} {inventory : Inventory}
    (hchips : t.names root = .ok chips) (hlisted : Inventory.listed t root chips = inventory)
    (hfans : inventory.fans.Pairwise fun a b => a.name ≤ b.name)
    (hthermals : inventory.thermals.Pairwise fun a b => a.name ≤ b.name) :
    discover t root = .ok inventory := by
  obtain rfl := hlisted
  have hfans' := List.mergeSort_of_pairwise (hfans.imp fun h => decide_eq_true h)
  have hthermals' := List.mergeSort_of_pairwise (hthermals.imp fun h => decide_eq_true h)
  unfold Inventory.listed at hfans' hthermals' ⊢
  rw [discover_eq hchips, hfans', hthermals']

/-- Directories may name their entries in any order: the same channels are found, one for every
file of a channel, in the order of their names. -/
theorem discover_of_reordered (hroot : t.isDirectory root) (hdistinct : t.Distinct)
    (hreordered : t.Reordered t')
    (hfans : NamedApart FanChannel.name (ChipFile.IsFan t root))
    (hthermals : NamedApart ThermalChannel.name (ChipFile.IsThermal t root)) :
    ∃ inventory, discover t root = .ok inventory ∧ discover t' root = .ok inventory ∧
      Catalogue FanChannel.name (ChipFile.IsFan t root) inventory.fans ∧
      Catalogue ThermalChannel.name (ChipFile.IsThermal t root) inventory.thermals := by
  obtain ⟨chips, hchips⟩ := Tree.exists_names_of_isDirectory hroot
  obtain ⟨chips', hchips', hperm⟩ := hreordered.names hdistinct hchips
  have hnodup := ChipFile.nodup_below hdistinct hchips
  have hfiles : (ChipFile.below t root chips).Perm (ChipFile.below t' root chips') :=
    below_of_reordered hreordered hdistinct hperm
  have hfan := ChipFile.isFan_iff hchips
  have hthermal := ChipFile.isThermal_iff hchips
  refine ⟨_, discover_eq hchips, ?_, hfans.catalogue hfan hnodup,
    hthermals.catalogue hthermal hnodup⟩
  rw [discover_eq hchips', describedAt_of_reordered hreordered hdistinct,
    channel?_of_reordered hreordered hdistinct, channel?_of_reordered hreordered hdistinct,
    sorted_eq_of_perm (hfans.pairwise hfan hnodup) (hfiles.filterMap _),
    sorted_eq_of_perm (hthermals.pairwise hthermal hnodup) (hfiles.filterMap _)]

/-- Two chips below `/class`, one of them by a link. -/
def linkedChips : Tree where
  entries := [
    (["class"], .directory),
    (["class", "hwmon1"], .link "../chip"),
    (["class", "hwmon0"], .directory),
    (["class", "hwmon0", "temp1_input"], .file "40000".toUTF8),
    (["chip"], .directory),
    (["chip", "pwm1"], .file "128".toUTF8),
    (["chip", "temp2_input"], .file "45000".toUTF8),
    (["chip", "temp2_label"], .file "Outlet air".toUTF8),
    (["chip", "temp4294967296_input"], .file "1".toUTF8),
    (["chip", "name"], .file "nct".toUTF8)]
  start := []

theorem discover_linkedChips_reversed :
    ∃ inventory, discover linkedChips "/class" = .ok inventory ∧
      discover { linkedChips with entries := linkedChips.entries.reverse } "/class" =
        .ok inventory ∧
      Catalogue FanChannel.name (ChipFile.IsFan linkedChips "/class") inventory.fans ∧
      Catalogue ThermalChannel.name (ChipFile.IsThermal linkedChips "/class")
        inventory.thermals := by
  have hchips : linkedChips.names "/class" = .ok ["hwmon1", "hwmon0"] := by decide +kernel
  refine discover_of_reordered (by decide +kernel) (by unfold Tree.Distinct; decide +kernel)
    ⟨rfl, (List.reverse_perm _).symm⟩ ?_ ?_
  · exact namedApart_of_nodup (ChipFile.isFan_iff hchips) (by decide +kernel)
  · exact namedApart_of_nodup (ChipFile.isThermal_iff hchips) (by decide +kernel)

end ChassisCooling.Hwmon
