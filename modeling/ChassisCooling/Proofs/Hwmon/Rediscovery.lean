import ChassisCooling.Proofs.Files.Elsewhere
import ChassisCooling.Proofs.Files.WellFormed
import ChassisCooling.Proofs.Hwmon.DutyCycle

/-!
# Fans that are found again

In a well-formed tree without links, what the control loop writes makes no new fan: a directory that
it makes is no fan, and a file is one only if it is the duty cycle of a fan that was known before.
So whoever looks for fans later finds the known ones and no others.

* `Tree.isDirectory_join`: a directory below a path that was a directory already.
* `Hwmon.FansBelow`: the fans below a root are known; `Hwmon.FansBelow.of_covers`: they stay so.
* `Hwmon.FansBelow.exists_firstReadable`: the first fan that can be read is a known one.
-/

namespace ChassisCooling

open Files.Path (join place Plain)

namespace Files.Tree

variable {t t' : Tree} {l : Location} {base name : String}

/-- A directory names what is in it. -/
theorem mem_namesAt_iff : name ∈ t.namesAt l ↔ ∃ n, t.node? (l ++ [name]) = some n := by
  have hname : ∀ e : Location × Node,
      (if e.1.dropLast = l then e.1.getLast? else none) = some name ↔ e.1 = l ++ [name] := by
    intro e
    constructor
    · intro h
      rw [Option.ite_none_right_eq_some] at h
      rw [← List.dropLast_append_getLast? name h.2, h.1]
    · intro h
      rw [h, List.dropLast_concat, if_pos rfl, List.getLast?_concat]
  unfold namesAt
  rw [List.mem_filterMap]
  simp only [hname]
  constructor
  · rintro ⟨e, he, heq⟩
    unfold node?
    rw [if_neg (by simp), ← Option.ne_none_iff_exists', ne_eq, List.lookup_eq_none_iff]
    intro h
    simpa [heq] using h e he
  · rintro ⟨n, hn⟩
    exact ⟨(l ++ [name], n), mem_entries_of_node? (by simp) hn, rfl⟩

/-! ## Paths below paths -/

/-- A directory below a path, if a later tree has it and it is there already. -/
theorem isDirectory_join (ht : t.LinkFree) (ht' : t'.LinkFree) (hkeeps : t.Keeps t')
    (hname : Plain name) (hbase : t.isDirectory base) (hlater : t'.isDirectory (join base name))
    (hnode : t.node? (place t.start base ++ [name]) = some .directory) :
    t.isDirectory (join base name) := by
  obtain ⟨l, hbase⟩ := isDirectory_iff.1 hbase
  obtain ⟨l', hlater⟩ := isDirectory_iff.1 hlater
  have hl : l = place t.start base := (found_of_resolve ht hbase).location_eq
  rw [← hl] at hnode
  have hnow := ht.advance_of_resolve hbase
  have hthen := ht'.advance_of_resolve (hkeeps.resolve hbase (.directory ..))
  have hjoin := ht'.advance_of_resolve hlater
  rw [Path.isAbsolute_join base hname, advance_join hname hthen] at hjoin
  have hshort : ¬maxName < name.utf8ByteSize := by
    intro hlong
    rw [Tree.advance, if_neg (not_or.2 ⟨hname.ne_empty, hname.ne_dot⟩), if_neg hname.ne_dots,
      if_pos hlong] at hjoin
    cases hjoin
  refine isDirectory_iff.2 ⟨l ++ [name], resolve_eq_ok_iff.2
    ⟨(resolve_eq_ok_iff.1 hlater).1, .here ?_⟩⟩
  rw [Path.isAbsolute_join base hname, advance_join hname hnow, Tree.advance,
    if_neg (not_or.2 ⟨hname.ne_empty, hname.ne_dot⟩), if_neg hname.ne_dots, if_neg hshort, hnode]
  rfl

end Files.Tree

namespace Hwmon

open Files (Tree Footprint Location)

variable {t t' : Tree} {root : String} {channels : List FanChannel} {fp : Footprint}

/-- The name of a duty cycle's file has the number of its channel in it. -/
theorem numbered_dutyName {index : Nat} (h : index < UInt32.size) :
    Numbered "pwm" "" index ("pwm" ++ toString index) := by
  have hdigits : (toString index).toList = Nat.toDigits 10 index := Nat.toList_repr
  refine ⟨(toString index).toList, ?_, fun c hc => ?_, ?_, h, ?_⟩
  · rw [hdigits]
    exact Nat.toDigits_ne_nil
  · exact isDigit_iff.1 (Text.isDigit_of_mem_toString hc)
  · rw [hdigits]
    exact Nat.ofDigitChars_toDigits (by decide) (by decide)
  · rw [String.ofList_toList, String.append_empty]

/-! ## Later trees -/

/-- A directory of a tree without links names what is at its place. -/
theorem exists_names_of_node? (hfree : t.LinkFree) {path name : String} (h : t.isDirectory path)
    {n : Files.Node} (hnode : t.node? (place t.start path ++ [name]) = some n) :
    ∃ names, t.names path = .ok names ∧ name ∈ names := by
  obtain ⟨l, hresolve⟩ := Tree.isDirectory_iff.1 h
  obtain rfl : l = place t.start path := (Tree.found_of_resolve hfree hresolve).location_eq
  exact ⟨_, Tree.names_eq_ok_iff.2 ⟨_, hresolve, rfl⟩, Tree.mem_namesAt_iff.2 ⟨n, hnode⟩⟩

/-- A file of a chip is still there in a tree that has all that was there before. -/
theorem ChipFile.LiesBelow.later {e : ChipFile} (h : e.LiesBelow t root) (hkeeps : t.Keeps t')
    (hstays : ∀ l n, t.node? l = some n → ∃ n', t'.node? l = some n') : e.LiesBelow t' root := by
  have hnames : ∀ {path : String} {names : List String} {name : String},
      t.names path = .ok names → name ∈ names →
        ∃ names', t'.names path = .ok names' ∧ name ∈ names' := by
    intro path names name hnames hmem
    obtain ⟨l, hresolve, rfl⟩ := Tree.names_eq_ok_iff.1 hnames
    obtain ⟨n, hn⟩ := Tree.mem_namesAt_iff.1 hmem
    exact ⟨_, Tree.names_eq_ok_iff.2 ⟨l, hkeeps.resolve hresolve (.directory ..), rfl⟩,
      Tree.mem_namesAt_iff.2 (hstays _ n hn)⟩
  obtain ⟨⟨chips, hchips, hchip⟩, files, hfiles, hfile⟩ := h
  exact ⟨hnames hchips hchip, hnames hfiles hfile⟩

/-- The names of chips are plain. -/
theorem ChipFile.LiesBelow.plain {e : ChipFile} (h : e.LiesBelow t root) (hwell : t.WellFormed) :
    Plain e.chip := by
  obtain ⟨⟨chips, hchips, hchip⟩, -⟩ := h
  obtain ⟨l, -, rfl⟩ := Tree.names_eq_ok_iff.1 hchips
  obtain ⟨n, hn⟩ := Tree.mem_namesAt_iff.1 hchip
  obtain ⟨above, name, heq, -, hname⟩ := (hwell.housed _ n hn).resolve_left (by simp)
  rw [List.singleton_inj.1 (List.append_inj' heq rfl).2]
  exact hname

/-- If there is a file for the duty cycle of a fan that is found later, that fan is found already:
the directory of its chip is there, since the file is in it. -/
theorem exists_isFan_of_later (hfree : t.LinkFree) (hwell : t.WellFormed) (hfree' : t'.LinkFree)
    (hwell' : t'.WellFormed) (hkeeps : t.Keeps t') (hroot : t.isDirectory root) {e : ChipFile}
    {fan : FanChannel} (he : e.IsFan t' root fan) {content : ByteArray}
    (hfile : t.node? (place t.start fan.dutyPath) = some (.file content)) :
    ∃ (e' : ChipFile) (fan' : FanChannel), e'.IsFan t root fan' ∧
      fan'.dutyPath = fan.dutyPath := by
  obtain ⟨hbelow, index, hindex, rfl⟩ := he
  have hchip := hbelow.plain hwell'
  obtain ⟨-, files, hfiles, -⟩ := hbelow
  have hlater : t'.isDirectory (join root e.chip) := Tree.isDirectory_of_names hfiles
  rw [FanChannel.place_dutyPath] at hfile
  have hdirectory : t.node? (place t.start root ++ [e.chip]) = some .directory := by
    obtain ⟨above, name, heq, habove, -⟩ := (hwell.housed _ _ hfile).resolve_left (by simp)
    rw [← Files.Path.place_join _ _ hchip, (List.append_inj' heq rfl).1]
    exact habove
  have hnow := Tree.isDirectory_join hfree hfree' hkeeps hchip hroot hlater hdirectory
  refine ⟨⟨e.chip, "pwm" ++ toString index⟩, _,
    ⟨⟨exists_names_of_node? hfree hroot hdirectory, exists_names_of_node? hfree hnow hfile⟩,
      index, numbered_dutyName ?_, rfl⟩, ?_⟩
  · obtain ⟨-, -, -, -, hlt, -⟩ := hindex
    exact hlt
  · rw [FanChannel.dutyPath_ofIndex, FanChannel.dutyPath_ofIndex]

/-! ## Known fans -/

/-- A well-formed tree without links, in which the fans below a root are known: all of them are
found, and a fan that is found is one of them if there is a file for its duty cycle. -/
structure FansBelow (root : String) (channels : List FanChannel) (t : Tree) : Prop where
  linkFree : t.LinkFree
  wellFormed : t.WellFormed
  known : ∃ inventory, discover t root = .ok inventory ∧
    (∀ channel ∈ channels, ∃ fan ∈ inventory.fans, fan.dutyPath = channel.dutyPath) ∧
    ∀ fan ∈ inventory.fans,
      (∃ content, t.node? (place t.start fan.dutyPath) = some (.file content)) →
        ∃ channel ∈ channels, place t.start channel.dutyPath = place t.start fan.dutyPath

theorem fansBelow_of_discover (hfree : t.LinkFree) (hwell : t.WellFormed) {inventory : Inventory}
    (h : discover t root = .ok inventory) : FansBelow root inventory.fans t :=
  ⟨hfree, hwell, inventory, h, fun fan hfan => ⟨fan, hfan, rfl⟩, fun fan hfan _ => ⟨fan, hfan, rfl⟩⟩

namespace FansBelow

/-- Whatever is written, no other fan comes up if files of that kind of name are written for known
fans only. -/
theorem of_covers (h : FansBelow root channels t) (hcovers : fp.Covers t t')
    (hwell : t'.WellFormed)
    (hwritten : ∀ above (index : Nat), fp.written (above ++ ["pwm" ++ toString index]) →
      ∃ channel ∈ channels, place t.start channel.dutyPath = above ++ ["pwm" ++ toString index]) :
    FansBelow root channels t' := by
  obtain ⟨inventory, hdiscover, hall, honly⟩ := h.known
  have hkeeps := hcovers.keeps h.linkFree
  have hfree := hcovers.linkFree h.linkFree
  have hroot := isDirectory_of_discover hdiscover
  obtain ⟨inventory', hdiscover'⟩ := exists_discover_of_isDirectory (hkeeps.isDirectory hroot)
  refine ⟨hfree, hwell, inventory', hdiscover', fun channel hmem => ?_, fun fan hfan hfile => ?_⟩
  · obtain ⟨fan, hfan, hpath⟩ := hall channel hmem
    obtain ⟨e, hbelow, index, hindex, rfl⟩ := (mem_fans_iff hdiscover).1 hfan
    refine ⟨_, (mem_fans_iff hdiscover').2 ⟨e, hbelow.later hkeeps hcovers.stays, index, hindex,
      rfl⟩, ?_⟩
    rw [← hpath, FanChannel.dutyPath_ofIndex, FanChannel.dutyPath_ofIndex]
  · rw [hkeeps.start] at hfile ⊢
    obtain ⟨content, hfile⟩ := hfile
    obtain ⟨e, he⟩ := (mem_fans_iff hdiscover').1 hfan
    have hbefore : (∃ content, t.node? (place t.start fan.dutyPath) = some (.file content)) →
        ∃ channel ∈ channels, place t.start channel.dutyPath = place t.start fan.dutyPath := by
      rintro ⟨content, hfile⟩
      obtain ⟨e', fan', he', hpath⟩ :=
        exists_isFan_of_later h.linkFree h.wellFormed hfree hwell hkeeps hroot he hfile
      rw [← hpath] at hfile ⊢
      exact honly fan' ((mem_fans_iff hdiscover).2 ⟨e', he'⟩) ⟨content, hfile⟩
    by_cases hsame : t'.node? (place t.start fan.dutyPath) = t.node? (place t.start fan.dutyPath)
    · exact hbefore ⟨content, hsame.symm.trans hfile⟩
    cases hcovers.change _ hsame with
    | rewritten _ before _ => exact hbefore before
    | made _ _ after => cases hfile.symm.trans after
    | written hl _ _ =>
      obtain ⟨-, index, -, rfl⟩ := he
      rw [FanChannel.place_dutyPath] at hl ⊢
      exact hwritten _ index hl

/-- If all known fans show a duty cycle, the first fan that can be read shows it, since it is one of
them. -/
theorem exists_firstReadable (h : FansBelow root channels t) (hsome : channels ≠ []) {v : UInt8}
    (hshown : ∀ channel ∈ channels, channel.duty? t = some v) :
    ∃ inventory first, discover t root = .ok inventory ∧
      FanChannel.firstReadable? t inventory.fans = some first ∧
      ∃ channel ∈ channels, t.resolve true channel.dutyPath = t.resolve true first.dutyPath := by
  obtain ⟨inventory, hdiscover, hall, honly⟩ := h.known
  obtain ⟨channel, hmem⟩ := List.exists_mem_of_ne_nil channels hsome
  obtain ⟨fan, hfan, hpath⟩ := hall channel hmem
  have hreadable : (fan.duty? t).isSome := by
    rw [FanChannel.duty?_congr hpath, hshown channel hmem]
    rfl
  have hfound : (FanChannel.firstReadable? t inventory.fans).isSome :=
    List.find?_isSome.2 ⟨fan, hfan, hreadable⟩
  obtain ⟨first, hfirst⟩ := Option.isSome_iff_exists.1 hfound
  refine ⟨inventory, first, hdiscover, hfirst, ?_⟩
  have hplace : ∀ {c : FanChannel}, (c.duty? t).isSome → ∃ content,
      t.resolve true c.dutyPath =
          .ok (.existing (place t.start c.dutyPath) (.file content)) ∧
        t.node? (place t.start c.dutyPath) = some (.file content) := by
    intro c hc
    obtain ⟨l, content, hresolve⟩ := FanChannel.exists_resolve_of_duty? hc
    have hfoundAt := Tree.found_of_resolve h.linkFree hresolve
    obtain rfl : l = place t.start c.dutyPath := hfoundAt.location_eq
    cases hfoundAt with
    | existing hnode => exact ⟨content, hresolve, hnode⟩
  obtain ⟨hmemFirst, hreadableFirst⟩ := FanChannel.mem_of_firstReadable? hfirst
  obtain ⟨content, hresolve, hnode⟩ := hplace hreadableFirst
  obtain ⟨known, hknown, heq⟩ := honly first hmemFirst ⟨content, hnode⟩
  obtain ⟨content', hresolve', hnode'⟩ := hplace (c := known) (by rw [hshown known hknown]; rfl)
  rw [heq, hnode] at hnode'
  cases hnode'
  exact ⟨known, hknown, by rw [hresolve', hresolve, heq]⟩

end FansBelow

end Hwmon

end ChassisCooling
