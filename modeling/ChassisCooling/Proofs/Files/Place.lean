import ChassisCooling.Proofs.Files.Tree

/-!
# Places in trees without links

Where there are no links, the names of a path alone say where it leads: an empty name or a dot
stays, two dots go back, and any other name goes one step down.

* `Path.place`: where a path leads.
* `Path.place_join`: a name below a path.
* `Path.exists_place_append`: the name that a path ends in.
* `Tree.found_of_resolve`: a tree without links agrees.
* `Tree.advance_join`: a name below a path is followed from where the path leads.
-/

namespace ChassisCooling.Files

namespace Path

/-- Where names lead from a location. -/
def follow (l : Location) : List String → Location
  | [] => l
  | name :: rest =>
    if name = "" ∨ name = "." then follow l rest
    else if name = ".." then follow l.dropLast rest
    else follow (l ++ [name]) rest

/-- Where a path leads, if relative ones start at a location. -/
def place (start : Location) (path : String) : Location :=
  follow (if isAbsolute path then [] else start) (components path)

theorem follow_cons (l : Location) (name : String) (rest : List String) :
    follow l (name :: rest) =
      if name = "" ∨ name = "." then follow l rest
      else if name = ".." then follow l.dropLast rest
      else follow (l ++ [name]) rest :=
  rfl

theorem follow_append (l : Location) (names rest : List String) :
    follow l (names ++ rest) = follow (follow l names) rest := by
  induction names generalizing l with
  | nil => rfl
  | cons name names ih =>
    rw [List.cons_append, follow_cons, follow_cons]
    split
    · exact ih l
    split
    · exact ih l.dropLast
    · exact ih (l ++ [name])

theorem follow_of_all_empty (l : Location) {names : List String} (h : names.all (· == "")) :
    follow l names = l := by
  induction names with
  | nil => rfl
  | cons name names ih =>
    rw [List.all_cons, Bool.and_eq_true, beq_iff_eq] at h
    rw [follow, if_pos (.inl h.1), ih h.2]

theorem exists_eq_withoutEnd_append (names : List String) :
    ∃ ends, names = withoutEnd names ++ ends ∧ ends.all (· == "") := by
  refine ⟨(names.reverse.takeWhile (· == "")).reverse, ?_, ?_⟩
  · unfold withoutEnd
    rw [← List.reverse_append, List.takeWhile_append_dropWhile, List.reverse_reverse]
  · rw [List.all_reverse]
    exact List.all_takeWhile

/-- Slashes at the end lead nowhere. -/
theorem follow_withoutEnd (l : Location) (names : List String) :
    follow l (withoutEnd names) = follow l names := by
  obtain ⟨ends, hnames, hempty⟩ := exists_eq_withoutEnd_append names
  conv_rhs => rw [hnames]
  rw [follow_append, follow_of_all_empty _ hempty]

/-- A name that goes one step down. -/
structure Plain (name : String) : Prop where
  noSlash : '/' ∉ name.toList
  ne_empty : name ≠ ""
  ne_dot : name ≠ "."
  ne_dots : name ≠ ".."

theorem Plain.of_head {name : String} (hslash : '/' ∉ name.toList) {c : Char}
    (hhead : name.toList.head? = some c) (hc : c ≠ '.') : Plain name := by
  refine ⟨hslash, ?_, ?_, ?_⟩
  · rintro rfl
    cases hhead
  · rintro rfl
    exact hc (Option.some.inj hhead).symm
  · rintro rfl
    exact hc (Option.some.inj hhead).symm

theorem follow_plain {name : String} (h : Plain name) (l : Location) :
    follow l [name] = l ++ [name] := by
  rw [follow, if_neg (not_or.2 ⟨h.ne_empty, h.ne_dot⟩), if_neg h.ne_dots]
  rfl

/-! ## Paths below paths -/

theorem splitOn_ne_nil (sep : Char) (cs : List Char) : splitOn sep cs ≠ [] := by
  cases cs with
  | nil => simp [splitOn]
  | cons c cs =>
    unfold splitOn
    split
    · simp
    · split <;> simp

theorem splitOn_of_not_mem {sep : Char} {cs : List Char} (h : sep ∉ cs) :
    splitOn sep cs = [cs] := by
  induction cs with
  | nil => rfl
  | cons c cs ih =>
    rw [List.mem_cons, not_or] at h
    rw [splitOn, if_neg (Ne.symm h.1), ih h.2]

theorem splitOn_append_cons (sep : Char) (xs ys : List Char) :
    splitOn sep (xs ++ sep :: ys) = splitOn sep xs ++ splitOn sep ys := by
  induction xs with
  | nil =>
    show splitOn sep (sep :: ys) = [] :: splitOn sep ys
    rw [splitOn, if_pos rfl]
  | cons c xs ih =>
    rw [List.cons_append, splitOn, splitOn, ih]
    split
    · rfl
    · cases hxs : splitOn sep xs with
      | nil => exact absurd hxs (splitOn_ne_nil sep xs)
      | cons part parts => rfl

theorem components_append_slash (base path : String) :
    components (base ++ "/" ++ path) = components base ++ components path := by
  have hchars : (base ++ "/" ++ path).toList = base.toList ++ '/' :: path.toList := by simp
  unfold components
  rw [hchars, splitOn_append_cons, List.map_append]

theorem components_of_plain {name : String} (h : Plain name) : components name = [name] := by
  unfold components
  rw [splitOn_of_not_mem h.noSlash, List.map_singleton, String.ofList_toList]

theorem isAbsolute_of_plain {name : String} (h : Plain name) : isAbsolute name = false := by
  unfold isAbsolute
  cases hname : name.toList with
  | nil => rfl
  | cons c cs =>
    have hc : c ≠ '/' := fun heq => h.noSlash (by simp [hname, heq])
    simpa using hc

theorem isAbsolute_append {base : String} (h : base ≠ "") (path : String) :
    isAbsolute (base ++ path) = isAbsolute base := by
  unfold isAbsolute
  rw [String.toList_append]
  cases hbase : base.toList with
  | nil => exact absurd (String.toList_eq_nil_iff.1 hbase) h
  | cons c cs => rfl

/-- The names of a path below a base are those of the base and one more; an empty name at the end of
the base, which a slash leaves there, is dropped. -/
theorem components_join (base : String) {name : String} (h : Plain name) :
    ∃ front, (components base = front ∨ components base = front ++ [""]) ∧
      components (join base name) = front ++ [name] := by
  unfold join
  rw [isAbsolute_of_plain h]
  by_cases hempty : base = ""
  · subst hempty
    rw [if_pos (.inr rfl), components_of_plain h]
    exact ⟨[], .inr rfl, rfl⟩
  have hbase : ¬(false ∨ base.isEmpty) := by simpa using hempty
  rw [if_neg hbase]
  split
  · next hslash =>
    -- The slash at the end of the base is the one before the name.
    obtain ⟨front, rfl⟩ : ∃ front, base = front ++ "/" := by
      obtain ⟨cs, hcs⟩ := List.getLast?_eq_some_iff.1 hslash
      exact ⟨String.ofList cs, String.toList_inj.1 (by simp [hcs])⟩
    have hcomponents : components (front ++ "/") = components front ++ [""] := by
      have := components_append_slash front ""
      rwa [String.append_empty] at this
    rw [components_append_slash, components_of_plain h]
    exact ⟨_, .inr hcomponents, rfl⟩
  · rw [components_append_slash, components_of_plain h]
    exact ⟨_, .inl rfl, rfl⟩

theorem isAbsolute_join (base : String) {name : String} (h : Plain name) :
    isAbsolute (join base name) = isAbsolute base := by
  unfold join
  rw [isAbsolute_of_plain h]
  by_cases hempty : base = ""
  · rw [if_pos (.inr (by simp [hempty])), isAbsolute_of_plain h, hempty]
    rfl
  rw [if_neg (by simpa using hempty)]
  split
  · exact isAbsolute_append hempty name
  · rw [String.append_assoc, isAbsolute_append hempty]

/-- A name below a path leads one step further down. -/
theorem place_join (start : Location) (base : String) {name : String} (h : Plain name) :
    place start (join base name) = place start base ++ [name] := by
  obtain ⟨front, hbase, hjoin⟩ := components_join base h
  unfold place
  rw [isAbsolute_join base h, hjoin, follow_append, follow_plain h]
  rcases hbase with heq | heq
  · rw [heq]
  · rw [heq, follow_append]
    rfl

/-- What holds no separator goes to the end of the last part. -/
theorem exists_splitOn_append {sep : Char} {cs : List Char} (h : sep ∉ cs) (xs : List Char) :
    ∃ parts last, splitOn sep xs = parts ++ [last] ∧
      splitOn sep (xs ++ cs) = parts ++ [last ++ cs] ∧ sep ∉ last := by
  induction xs with
  | nil => exact ⟨[], [], rfl, splitOn_of_not_mem h, List.not_mem_nil⟩
  | cons c xs ih =>
    obtain ⟨parts, last, hxs, happend, hlast⟩ := ih
    rw [List.cons_append, splitOn, splitOn, hxs, happend]
    by_cases hc : c = sep
    · rw [if_pos hc, if_pos hc]
      exact ⟨[] :: parts, last, rfl, rfl, hlast⟩
    · rw [if_neg hc, if_neg hc]
      cases parts with
      | nil => exact ⟨[], c :: last, rfl, rfl, by simp [Ne.symm hc, hlast]⟩
      | cons part parts => exact ⟨(c :: part) :: parts, last, rfl, rfl, hlast⟩

theorem mem_join {c : Char} {base path : String} (h : c ∈ (join base path).toList) :
    c ∈ base.toList ∨ c = '/' ∨ c ∈ path.toList := by
  unfold join at h
  split at h
  · exact .inr (.inr h)
  split at h
  · rw [String.toList_append, List.mem_append] at h
    exact h.imp_right .inr
  · rw [String.toList_append, String.toList_append, List.append_assoc, List.mem_append,
      List.mem_append] at h
    exact h.imp_right (.imp_left List.mem_singleton.1)

theorem exists_join_eq (base path : String) : ∃ front, join base path = front ++ path := by
  unfold join
  split
  · exact ⟨"", by simp⟩
  split
  · exact ⟨base, rfl⟩
  · exact ⟨base ++ "/", rfl⟩

/-- A path that ends in a longer text without slashes leads to a name that ends in it. -/
theorem exists_place_append {name : String} (hslash : '/' ∉ name.toList) (hlong : 2 < name.length)
    (start : Location) (front : String) :
    ∃ above before, place start (front ++ name) = above ++ [before ++ name] := by
  obtain ⟨parts, last, -, happend, hlast⟩ := exists_splitOn_append hslash front.toList
  have hcomponents : components (front ++ name) =
      parts.map String.ofList ++ [String.ofList last ++ name] := by
    unfold components
    rw [String.toList_append, happend]
    simp
  have hlength : ∀ short : String, short.length ≤ 2 → String.ofList last ++ name ≠ short := by
    rintro short hshort rfl
    rw [String.length_append] at hshort
    omega
  have hplain : Plain (String.ofList last ++ name) :=
    ⟨by simp [hslash, hlast], hlength "" (by decide), hlength "." (by decide),
      hlength ".." (by decide)⟩
  unfold place
  rw [hcomponents, follow_append, follow_plain hplain]
  exact ⟨_, _, rfl⟩

end Path

namespace Tree

variable {t : Tree} {follow : Bool} {l : Location} {names : List String} {path : String}
  {target : Target}

/-- No link is anywhere. -/
def LinkFree (t : Tree) : Prop := ∀ l target, t.node? l ≠ some (.link target)

theorem mem_entries_of_node? {n : Node} (hl : l ≠ []) (h : t.node? l = some n) :
    (l, n) ∈ t.entries := by
  unfold node? at h
  rw [if_neg hl] at h
  exact mem_of_lookup h

theorem linkFree_of_entries (h : ∀ e ∈ t.entries, ∀ target, e.2 ≠ .link target) : t.LinkFree := by
  intro l target hlink
  by_cases hl : l = []
  · rw [hl] at hlink
    cases hlink
  · exact h _ (mem_entries_of_node? hl hlink) target rfl

/-- What a path to a location finds. One that goes no step down finds a directory where it
starts. -/
inductive Found (t : Tree) (l : Location) : Target → Prop where
  | start : Found t l (.existing l .directory)
  | existing {n : Node} (h : t.node? l = some n) : Found t l (.existing l n)
  | missing {slash : Bool} (h : t.node? l = none) : Found t l (.missing l slash)

theorem Found.location_eq (h : t.Found l target) : target.location = l := by
  cases h <;> rfl

theorem found_of_advance (ht : t.LinkFree) {stop : Stop}
    (h : t.advance follow l names = .ok stop) :
    ∃ target, stop = .at target ∧ t.Found (Path.follow l names) target := by
  fun_induction advance t follow l names with
  | case1 l => exact ⟨_, (Except.ok.inj h).symm, .start⟩
  | case2 l name rest hname ih =>
    rw [Path.follow_cons, if_pos hname]
    exact ih h
  | case3 l rest hname ih =>
    rw [Path.follow_cons, if_neg hname, if_pos rfl]
    exact ih h
  | case4 => cases h
  | case5 l name rest hname hdots _ hnode hrest =>
    rw [Path.follow_cons, if_neg hname, if_neg hdots, Path.follow_of_all_empty _ hrest]
    exact ⟨_, (Except.ok.inj h).symm, .missing hnode⟩
  | case6 => cases h
  | case7 l name rest hname hdots _ _ ih =>
    rw [Path.follow_cons, if_neg hname, if_neg hdots]
    exact ih h
  | case8 l name rest hname hdots _ content hnode hrest =>
    rw [List.isEmpty_iff.1 hrest, Path.follow_cons, if_neg hname, if_neg hdots]
    exact ⟨_, (Except.ok.inj h).symm, .existing hnode⟩
  | case9 => cases h
  | case10 _ _ _ _ _ _ target hnode => exact absurd hnode (ht _ target)
  | case11 _ _ _ _ _ _ target hnode => exact absurd hnode (ht _ target)

theorem Leads.found (ht : t.LinkFree) {links : Nat} (h : t.Leads follow target links l names) :
    t.Found (Path.follow l names) target := by
  cases h with
  | here hadvance =>
    obtain ⟨target', heq, hfound⟩ := found_of_advance ht hadvance
    cases heq
    exact hfound
  | link hadvance =>
    obtain ⟨target', heq, -⟩ := found_of_advance ht hadvance
    cases heq

theorem found_of_resolveNames (ht : t.LinkFree)
    (h : t.resolveNames follow path names = .ok target) :
    t.Found (Path.follow (if Path.isAbsolute path then [] else t.start) names) target :=
  (resolveNames_eq_ok_iff.1 h).2.found ht

/-- A path leads to its place. -/
theorem found_of_resolve (ht : t.LinkFree) (h : t.resolve follow path = .ok target) :
    t.Found (Path.place t.start path) target :=
  found_of_resolveNames ht h

theorem found_of_resolveEntry (ht : t.LinkFree) (h : t.resolveEntry path = .ok target) :
    t.Found (Path.place t.start path) target := by
  have hfound := found_of_resolveNames ht h
  rwa [Path.follow_withoutEnd] at hfound

/-! ## Changes at a place -/

theorem LinkFree.set (ht : t.LinkFree) (hl : l ≠ []) {n : Node} (hn : ∀ target, n ≠ .link target) :
    (t.set l n).LinkFree := by
  intro l' target
  rw [node?_set hl]
  split
  · intro heq
    exact hn target (Option.some.inj heq)
  · exact ht l' target

/-- A file that can be opened is at its place, or nothing is there. -/
theorem openFile_place (ht : t.LinkFree) {before : ByteArray}
    (h : t.openFile path = .ok (l, before)) :
    l = Path.place t.start path ∧ t.Writable l := by
  obtain ⟨target, hresolve, hopens⟩ := openFile_eq_ok h
  have hfound := found_of_resolve ht hresolve
  have hwritable := (shown_of_resolve hresolve).writable hopens
  refine ⟨?_, hwritable⟩
  cases hopens <;> cases hfound <;> rfl

/-- A file is written at its place. -/
theorem writeText_place (ht : t.LinkFree) {t' : Tree} {text : String}
    (h : t.writeText path text = .ok t') :
    t.Writable (Path.place t.start path) ∧
      t' = t.set (Path.place t.start path) (.file text.toUTF8) := by
  obtain ⟨⟨l, before⟩, hopen, h⟩ := bind_eq_ok_iff.1 h
  obtain ⟨rfl, hwritable⟩ := openFile_place ht hopen
  exact ⟨hwritable, (Except.ok.inj h).symm⟩

/-- A file that is there and can be written is a file before. -/
theorem exists_file_of_holds (ht : t.LinkFree) (hholds : t.holds path) {t' : Tree} {text : String}
    (h : t.writeText path text = .ok t') :
    ∃ content, t.node? (Path.place t.start path) = some (.file content) := by
  unfold holds at hholds
  obtain ⟨⟨l, before⟩, hopen, -⟩ := bind_eq_ok_iff.1 h
  obtain ⟨target, hresolve, hopens⟩ := openFile_eq_ok hopen
  rw [hresolve] at hholds
  cases hopens with
  | place => cases hholds
  | file content =>
    cases found_of_resolve ht hresolve with
    | existing hnode => exact ⟨content, hnode⟩

theorem appendText_place (ht : t.LinkFree) {t' : Tree} {text : String}
    (h : t.appendText path text = .ok t') :
    t.Writable (Path.place t.start path) ∧
      ∃ content, t' = t.set (Path.place t.start path) (.file content) := by
  obtain ⟨⟨l, before⟩, hopen, h⟩ := bind_eq_ok_iff.1 h
  obtain ⟨rfl, hwritable⟩ := openFile_place ht hopen
  exact ⟨hwritable, _, (Except.ok.inj h).symm⟩

/-- A directory is made at its place, where nothing was. -/
theorem createDirectory_place (ht : t.LinkFree) {t' : Tree} (h : t.createDirectory path = .ok t') :
    t.node? (Path.place t.start path) = none ∧ t' = t.set (Path.place t.start path) .directory := by
  obtain ⟨target, hresolve, h⟩ := bind_eq_ok_iff.1 h
  cases found_of_resolveEntry ht hresolve with
  | start => cases h
  | existing => cases h
  | missing hnode => exact ⟨hnode, (Except.ok.inj h).symm⟩

/-! ## Paths below paths -/

/-- Names that lead to a directory are followed by the others from there. -/
theorem advance_append {l₀ : Location}
    (h : t.advance follow l₀ names = .ok (.at (.existing l .directory)))
    (rest : List String) : t.advance follow l₀ (names ++ rest) = t.advance follow l rest := by
  fun_induction advance t follow l₀ names with
  | case1 =>
    cases h
    rfl
  | case2 _ _ _ hname ih => rw [List.cons_append, advance, if_pos hname, ih h]
  | case3 _ _ hname ih => rw [List.cons_append, advance, if_neg hname, if_pos rfl, ih h]
  | case7 _ _ _ hname hdots hlong hnode ih =>
    rw [List.cons_append, advance, if_neg hname, if_neg hdots, if_neg hlong, hnode]
    exact ih h
  | case4 | case5 | case6 | case8 | case9 | case10 | case11 => cases h

/-- A slash at the end of a path to a directory does nothing. -/
theorem advance_of_slash {l₀ : Location}
    (h : t.advance follow l₀ (names ++ [""]) = .ok (.at (.existing l .directory))) :
    t.advance follow l₀ names = .ok (.at (.existing l .directory)) := by
  fun_induction advance t follow l₀ names with
  | case1 =>
    rw [List.nil_append, advance, if_pos (.inl rfl)] at h
    exact h
  | case2 _ _ _ hname ih =>
    rw [List.cons_append, advance, if_pos hname] at h
    exact ih h
  | case3 _ _ hname ih =>
    rw [List.cons_append, advance, if_neg hname, if_pos rfl] at h
    exact ih h
  | case7 _ _ _ hname hdots hlong hnode ih =>
    rw [List.cons_append, advance, if_neg hname, if_neg hdots, if_neg hlong, hnode] at h
    exact ih h
  | case4 _ _ _ hname hdots hlong =>
    rw [List.cons_append, advance, if_neg hname, if_neg hdots, if_pos hlong] at h
    cases h
  | case5 _ _ _ hname hdots hlong hnode hrest | case6 _ _ _ hname hdots hlong hnode hrest =>
    rw [List.cons_append, advance, if_neg hname, if_neg hdots, if_neg hlong, hnode] at h
    simp [hrest] at h
  | case8 _ _ _ hname hdots hlong _ hnode | case9 _ _ _ hname hdots hlong _ hnode
  | case10 _ _ _ hname hdots hlong _ hnode | case11 _ _ _ hname hdots hlong _ hnode =>
    rw [List.cons_append, advance, if_neg hname, if_neg hdots, if_neg hlong, hnode] at h
    simp at h

/-- A name below a path is followed from where the path leads. -/
theorem advance_join {l₀ : Location} {base name : String} (hname : Path.Plain name)
    (h : t.advance follow l₀ (Path.components base) = .ok (.at (.existing l .directory))) :
    t.advance follow l₀ (Path.components (Path.join base name)) = t.advance follow l [name] := by
  obtain ⟨front, hbase, hjoin⟩ := Path.components_join base hname
  rw [hjoin]
  refine advance_append ?_ [name]
  rcases hbase with heq | heq
  · rwa [heq] at h
  · rw [heq] at h
    exact advance_of_slash h

/-- Without links a path is followed without stopping. -/
theorem LinkFree.advance_of_resolve (ht : t.LinkFree) (h : t.resolve follow path = .ok target) :
    t.advance follow (if Path.isAbsolute path then [] else t.start) (Path.components path) =
      .ok (.at target) := by
  cases (resolve_eq_ok_iff.1 h).2 with
  | here hadvance => exact hadvance
  | link hadvance =>
    obtain ⟨target', heq, -⟩ := found_of_advance ht hadvance
    cases heq

end Tree

end ChassisCooling.Files
