import ChassisCooling.Files.Tree
import ChassisCooling.Proofs.Lookup
import ChassisCooling.Proofs.Success

/-!
# Files that were written

A path is followed through directories and links only. A file can be written where there is a file
or nothing, so no path that leads to the file runs through the place that is written to, and the
same path leads there afterwards.

* `Tree.Leads`: how a walk arrives, link by link; `Tree.walk_eq_ok_iff`: so does the one that runs.
* `Tree.Keeps`: all directories and links are still there; `Tree.Keeps.resolve`: so a path leads to
  what has become of what it led to.
* `Tree.readText_of_writeText`, `Tree.holds_of_writeText`: a file that was written is there and
  holds what was written.
-/

namespace ChassisCooling.Files.Tree

variable {t t' : Tree} {follow : Bool} {l : Location} {content : ByteArray} {path : String}

theorem lookup_setEntry (l l' : Location) (n : Node) (entries : List (Location × Node)) :
    (setEntry l n entries).lookup l' = if l' = l then some n else entries.lookup l' := by
  induction entries with
  | nil => exact lookup_cons_eq_ite (l, n) l' []
  | cons e rest ih =>
    rw [lookup_cons_eq_ite e]
    unfold setEntry
    split
    · next heq =>
      rw [lookup_cons_eq_ite, heq]
      split <;> rfl
    · next hne =>
      rw [lookup_cons_eq_ite, ih]
      by_cases h : l' = l
      · subst h
        rw [if_pos rfl, if_neg (Ne.symm hne), if_pos rfl]
      · rw [if_neg h, if_neg h]

/-- Where a file can be written: there is a file or nothing. -/
def Writable (t : Tree) (l : Location) : Prop :=
  ∀ n, t.node? l = some n → ∃ content, n = .file content

theorem Writable.ne_nil (h : t.Writable l) : l ≠ [] := by
  rintro rfl
  obtain ⟨content, hnode⟩ := h .directory rfl
  cases hnode

theorem node?_set (hl : l ≠ []) (n : Node) (l' : Location) :
    (t.set l n).node? l' = if l' = l then some n else t.node? l' := by
  unfold node? set
  rw [lookup_setEntry]
  by_cases hroot : l' = []
  · rw [if_pos hroot, if_pos hroot, if_neg (hroot ▸ Ne.symm hl)]
  · rw [if_neg hroot, if_neg hroot]

/-- What is no file stays, whatever comes where a file can be written. -/
theorem node?_set_of_ne_file (hl : t.Writable l) {l' : Location} {n : Node}
    (hn : t.node? l' = some n) (hfile : ∀ content, n ≠ .file content) (new : Node) :
    (t.set l new).node? l' = some n := by
  rw [node?_set hl.ne_nil, if_neg, hn]
  rintro rfl
  obtain ⟨content, rfl⟩ := hl n hn
  exact hfile content rfl

/-- A file or the place for one. -/
inductive Opens (l : Location) : Target → Prop where
  | file (content : ByteArray) : Opens l (.existing l (.file content))
  | place {slash : Bool} (h : slash = false) : Opens l (.missing l slash)

/-- Where a path leads, whether something is there or not. -/
def Target.location : Target → Location
  | .existing l _ => l
  | .missing l _ => l

theorem Opens.location_eq {target : Target} (h : Opens l target) : target.location = l := by
  cases h <;> rfl

theorem openFile_eq_ok {before : ByteArray} (h : t.openFile path = .ok (l, before)) :
    ∃ target, t.resolve true path = .ok target ∧ Opens l target := by
  unfold openFile at h
  rw [bind_eq_ok_iff] at h
  obtain ⟨target, hresolve, h⟩ := h
  refine ⟨target, hresolve, ?_⟩
  cases target with
  | existing l' n =>
    cases n with
    | file content =>
      obtain ⟨rfl, rfl⟩ := Prod.mk.inj (Except.ok.inj h)
      exact .file content
    | directory => cases h
    | link target => cases h
  | missing l' slash =>
    cases slash with
    | true => cases h
    | false =>
      obtain ⟨rfl, -⟩ := Prod.mk.inj (Except.ok.inj h)
      exact .place rfl

/-! ## Following a path to the file -/

/-- What a path finds is there, and where it finds a place nothing is. The directory that it starts
from is taken for granted. -/
inductive Shown (t : Tree) : Target → Prop where
  | directory (l : Location) : Shown t (.existing l .directory)
  | existing {l : Location} {n : Node} (h : t.node? l = some n) : Shown t (.existing l n)
  | missing {l : Location} {slash : Bool} (h : t.node? l = none) : Shown t (.missing l slash)

theorem Shown.node?_eq_none {slash : Bool} (h : t.Shown (.missing l slash)) :
    t.node? l = none := by
  cases h with
  | missing hnone => exact hnone

theorem Shown.writable {target : Target} (h : t.Shown target) (hopens : Opens l target) :
    t.Writable l := by
  intro n hn
  cases hopens with
  | file content =>
    cases h with
    | existing hnode => exact ⟨content, Option.some.inj (hn.symm.trans hnode)⟩
  | place =>
    rw [h.node?_eq_none] at hn
    cases hn

theorem shown_of_advance {l₀ : Location} {names : List String} {target : Target}
    (h : t.advance follow l₀ names = .ok (.at target)) : t.Shown target := by
  fun_induction advance t follow l₀ names with
  | case1 =>
    cases h
    exact .directory _
  | case2 _ _ _ _ ih | case3 _ _ _ ih | case7 _ _ _ _ _ _ _ ih => exact ih h
  | case5 _ _ _ _ _ _ hnode =>
    cases h
    exact .missing hnode
  | case8 _ _ _ _ _ _ _ hnode | case10 _ _ _ _ _ _ _ hnode =>
    cases h
    exact .existing hnode
  | case4 | case6 | case9 | case11 => cases h

/-- A walk arrives where its names lead, or goes on from a link if it may follow one more. -/
inductive Leads (t : Tree) (follow : Bool) (target : Target) :
    Nat → Location → List String → Prop where
  | here {links : Nat} {l : Location} {names : List String}
      (hadvance : t.advance follow l names = .ok (.at target)) :
      Leads t follow target links l names
  | link {links : Nat} {l directory : Location} {names rest : List String} {text : String}
      (hadvance : t.advance follow l names = .ok (.link directory text rest))
      (htext : ¬text.isEmpty)
      (hrest : Leads t follow target links (if Path.isAbsolute text then [] else directory)
        (Path.components text ++ rest)) :
      Leads t follow target (links + 1) l names

theorem walk_eq_ok_iff {links : Nat} {l₀ : Location} {names : List String} {target : Target} :
    t.walk follow links l₀ names = .ok target ↔ t.Leads follow target links l₀ names := by
  constructor
  · intro h
    induction links generalizing l₀ names with
    | zero =>
      rw [walk.eq_def, bind_eq_ok_iff] at h
      obtain ⟨stop, hadvance, h⟩ := h
      cases stop with
      | «at» target' =>
        obtain rfl := Except.ok.inj h
        exact .here hadvance
      | link directory text rest => cases h
    | succ links ih =>
      rw [walk.eq_def, bind_eq_ok_iff] at h
      obtain ⟨stop, hadvance, h⟩ := h
      cases stop with
      | «at» target' =>
        obtain rfl := Except.ok.inj h
        exact .here hadvance
      | link directory text rest =>
        simp only at h
        split at h
        · cases h
        · next htext => exact .link hadvance htext (ih h)
  · intro h
    induction h with
    | here hadvance =>
      rw [walk.eq_def, bind_eq_ok_iff]
      exact ⟨_, hadvance, rfl⟩
    | link hadvance htext _ ih =>
      rw [walk.eq_def, bind_eq_ok_iff]
      refine ⟨_, hadvance, ?_⟩
      simp only [if_neg htext]
      exact ih

theorem Leads.shown {links : Nat} {l₀ : Location} {names : List String} {target : Target}
    (h : t.Leads follow target links l₀ names) : t.Shown target := by
  induction h with
  | here hadvance => exact shown_of_advance hadvance
  | link _ _ _ ih => exact ih

/-- Directories and links of the first tree are in the second. -/
structure Keeps (t t' : Tree) : Prop where
  start : t'.start = t.start
  node : ∀ l n, t.node? l = some n → (∀ content, n ≠ .file content) → t'.node? l = some n

theorem Keeps.set (hl : t.Writable l) (n : Node) : t.Keeps (t.set l n) :=
  ⟨rfl, fun _ _ hn hfile => node?_set_of_ne_file hl hn hfile n⟩

/-- What a path finds later where it found something, or a place for it. -/
inductive Becomes (t' : Tree) : Target → Target → Prop where
  | kept {l : Location} {n : Node} (h : ∀ content, n ≠ .file content) :
      Becomes t' (.existing l n) (.existing l n)
  | file {l : Location} {before after : ByteArray} (h : t'.node? l = some (.file after)) :
      Becomes t' (.existing l (.file before)) (.existing l (.file after))
  | missing {l : Location} {slash : Bool} (h : t'.node? l = none) :
      Becomes t' (.missing l slash) (.missing l slash)
  | filled {l : Location} {content : ByteArray} (h : t'.node? l = some (.file content)) :
      Becomes t' (.missing l false) (.existing l (.file content))
  | made {l : Location} {slash : Bool} (h : t'.node? l = some .directory) :
      Becomes t' (.missing l slash) (.existing l .directory)

theorem Becomes.directory (t' : Tree) (l : Location) :
    Becomes t' (.existing l .directory) (.existing l .directory) :=
  .kept fun _ h => by cases h

theorem Opens.becomes {target : Target} (h : Opens l target)
    (hnode : t'.node? l = some (.file content)) :
    Becomes t' target (.existing l (.file content)) := by
  cases h with
  | file before => exact .file hnode
  | place hslash => exact hslash ▸ .filled hnode

/-- Where nothing has changed, a path finds what it found. -/
theorem Shown.becomes {target : Target} (h : t.Shown target)
    (hsame : t'.node? target.location = t.node? target.location) : Becomes t' target target := by
  cases h with
  | directory l => exact .directory t' l
  | missing hnone => exact .missing (hsame.trans hnone)
  | @existing l n hnode =>
    cases n with
    | file content => exact .file (hsame.trans hnode)
    | directory | link => exact .kept fun _ h => by cases h

/-- The same for a stop. Links are still there. -/
inductive Stop.Becomes (t' : Tree) : Stop → Stop → Prop where
  | at {target target' : Target} (h : Tree.Becomes t' target target') :
      Stop.Becomes t' (.at target) (.at target')
  | link {directory : Location} {text : String} {rest : List String} :
      Stop.Becomes t' (.link directory text rest) (.link directory text rest)

theorem advance_of_all_empty (t : Tree) (follow : Bool) (l : Location) {names : List String}
    (h : names.all (· == "")) :
    t.advance follow l names = .ok (.at (.existing l .directory)) := by
  induction names with
  | nil => rfl
  | cons name names ih =>
    rw [List.all_cons, Bool.and_eq_true, beq_iff_eq] at h
    rw [advance, if_pos (.inl h.1), ih h.2]

/-- Directories and links on the way are kept, so the end alone decides. -/
theorem Keeps.advance (h : t.Keeps t') {l₀ : Location} {names : List String} {stop stop' : Stop}
    (hadvance : t.advance follow l₀ names = .ok stop) (hstop : stop.Becomes t' stop') :
    t'.advance follow l₀ names = .ok stop' := by
  fun_induction Tree.advance t follow l₀ names with
  | case1 =>
    obtain rfl := Except.ok.inj hadvance
    obtain ⟨⟨-⟩⟩ := hstop
    rfl
  | case2 _ _ _ hname ih => rw [Tree.advance, if_pos hname, ih hadvance]
  | case3 _ _ hname ih => rw [Tree.advance, if_neg hname, if_pos rfl, ih hadvance]
  | case4 => cases hadvance
  | case5 l₀ name rest hname hdots hlong _ hrest =>
    obtain rfl := Except.ok.inj hadvance
    rw [Tree.advance, if_neg hname, if_neg hdots, if_neg hlong]
    generalize hslash : (!rest.isEmpty) = slash at hstop
    cases hstop with
    | «at» hend =>
      cases hend with
      | missing hnode =>
        rw [hnode]
        simp only [hrest, if_true]
      | filled hnode =>
        rw [hnode]
        have hempty : rest.isEmpty := by simpa using hslash
        simp only [hempty, if_true]
      | made hnode =>
        rw [hnode]
        exact advance_of_all_empty t' follow _ hrest
  | case6 => cases hadvance
  | case7 _ _ _ hname hdots hlong hdirectory ih =>
    rw [Tree.advance, if_neg hname, if_neg hdots, if_neg hlong, h.node _ _ hdirectory (by simp)]
    exact ih hadvance
  | case8 l₀ name rest hname hdots hlong content' _ hrest =>
    obtain rfl := Except.ok.inj hadvance
    rw [Tree.advance, if_neg hname, if_neg hdots, if_neg hlong]
    cases hstop with
    | «at» hend =>
      cases hend with
      | kept hfile => exact absurd rfl (hfile content')
      | file hnode =>
        rw [hnode]
        simp only [hrest, if_true]
  | case9 => cases hadvance
  | case10 l₀ name rest hname hdots hlong target hlink hfollow =>
    obtain rfl := Except.ok.inj hadvance
    rw [Tree.advance, if_neg hname, if_neg hdots, if_neg hlong, h.node _ _ hlink (by simp)]
    cases hstop with
    | «at» hend =>
      cases hend
      simp only [if_pos hfollow]
  | case11 _ _ _ hname hdots hlong target hlink hfollow =>
    obtain rfl := Except.ok.inj hadvance
    rw [Tree.advance, if_neg hname, if_neg hdots, if_neg hlong, h.node _ _ hlink (by simp)]
    cases hstop
    simp only [if_neg hfollow]

theorem Keeps.leads (h : t.Keeps t') {links : Nat} {l₀ : Location} {names : List String}
    {target target' : Target} (hleads : t.Leads follow target links l₀ names)
    (htarget : Becomes t' target target') : t'.Leads follow target' links l₀ names := by
  induction hleads with
  | here hadvance => exact .here (h.advance hadvance (.at htarget))
  | link hadvance htext _ ih => exact .link (h.advance hadvance .link) htext ih

theorem resolveNames_eq_ok_iff {names : List String} {target : Target} :
    t.resolveNames follow path names = .ok target ↔
      (¬path.isEmpty ∧ ¬path.toList.contains '\x00' ∧ ¬maxPath < path.utf8ByteSize) ∧
        t.Leads follow target maxLinks (if Path.isAbsolute path then [] else t.start) names := by
  unfold resolveNames
  rw [← walk_eq_ok_iff]
  by_cases hempty : path.isEmpty
  · rw [if_pos hempty]
    exact ⟨fun h => (by cases h), fun h => absurd hempty h.1.1⟩
  rw [if_neg hempty]
  by_cases hnul : path.toList.contains '\x00'
  · rw [if_pos hnul]
    exact ⟨fun h => (by cases h), fun h => absurd hnul h.1.2.1⟩
  rw [if_neg hnul]
  by_cases hlong : maxPath < path.utf8ByteSize
  · rw [if_pos hlong]
    exact ⟨fun h => (by cases h), fun h => absurd hlong h.1.2.2⟩
  · rw [if_neg hlong]
    exact ⟨fun h => ⟨⟨hempty, hnul, hlong⟩, h⟩, fun h => h.2⟩

theorem resolve_eq_ok_iff {target : Target} :
    t.resolve follow path = .ok target ↔
      (¬path.isEmpty ∧ ¬path.toList.contains '\x00' ∧ ¬maxPath < path.utf8ByteSize) ∧
        t.Leads follow target maxLinks (if Path.isAbsolute path then [] else t.start)
          (Path.components path) :=
  resolveNames_eq_ok_iff

theorem shown_of_resolve {target : Target} (h : t.resolve follow path = .ok target) :
    t.Shown target :=
  (resolve_eq_ok_iff.1 h).2.shown

theorem Keeps.resolve (h : t.Keeps t') {target target' : Target}
    (hresolve : t.resolve follow path = .ok target) (htarget : Becomes t' target target') :
    t'.resolve follow path = .ok target' := by
  obtain ⟨hpath, hleads⟩ := resolve_eq_ok_iff.1 hresolve
  rw [← h.start] at hleads
  exact resolve_eq_ok_iff.2 ⟨hpath, h.leads hleads htarget⟩

/-- A path to a file, or to the place for one, leads to the file that is there later. -/
theorem Keeps.resolve_file (h : t.Keeps t') (hnode : t'.node? l = some (.file content))
    {target : Target} (hresolve : t.resolve follow path = .ok target) (hopens : Opens l target) :
    t'.resolve follow path = .ok (.existing l (.file content)) :=
  h.resolve hresolve (hopens.becomes hnode)

theorem resolve_set {target : Target} (h : t.resolve follow path = .ok target)
    (hopens : Opens l target) (content : ByteArray) :
    (t.set l (.file content)).resolve follow path = .ok (.existing l (.file content)) := by
  have hl := (shown_of_resolve h).writable hopens
  have hnode : (t.set l (.file content)).node? l = some (.file content) := by
    rw [node?_set hl.ne_nil, if_pos rfl]
  exact (Keeps.set hl _).resolve_file hnode h hopens

/-! ## Writing and looking -/

theorem isDirectory_iff :
    t.isDirectory path ↔ ∃ l, t.resolve true path = .ok (.existing l .directory) := by
  unfold isDirectory
  constructor
  · intro h
    split at h
    · next l hresolve => exact ⟨l, hresolve⟩
    · cases h
  · rintro ⟨l, hresolve⟩
    rw [hresolve]

theorem write_eq_ok (h : t.write path content = .ok t') :
    ∃ target l, t.resolve true path = .ok target ∧ Opens l target ∧
      t' = t.set l (.file content) := by
  unfold write at h
  rw [bind_eq_ok_iff] at h
  obtain ⟨⟨l, before⟩, hopen, h⟩ := h
  obtain ⟨target, hresolve, hopens⟩ := openFile_eq_ok hopen
  exact ⟨target, l, hresolve, hopens, (Except.ok.inj h).symm⟩

/-- The path of a file that was written leads to it. -/
theorem resolve_of_write (h : t.write path content = .ok t') :
    ∃ l, t'.resolve true path = .ok (.existing l (.file content)) := by
  obtain ⟨target, l, hresolve, hopens, rfl⟩ := write_eq_ok h
  exact ⟨l, resolve_set hresolve hopens content⟩

theorem readText_of_resolve {text : String}
    (h : t.resolve true path = .ok (.existing l (.file text.toUTF8))) :
    t.readText path = .ok text := by
  have hdecode : String.fromUTF8? text.toUTF8 = some text := dif_pos text.isValidUTF8
  unfold readText readBytes
  simp only [h, bind, Except.bind, pure, Except.pure, hdecode]

/-- What can be read is a file. -/
theorem exists_resolve_of_readText {text : String} (h : t.readText path = .ok text) :
    ∃ l content, t.resolve true path = .ok (.existing l (.file content)) := by
  obtain ⟨content, hbytes, -⟩ := bind_eq_ok_iff.1 h
  obtain ⟨target, hresolve, hcontent⟩ := bind_eq_ok_iff.1 hbytes
  cases target with
  | missing => cases hcontent
  | existing l n =>
    cases n with
    | file content' => exact ⟨l, content', hresolve⟩
    | directory | link => cases hcontent

theorem readText_of_writeText {text : String} (h : t.writeText path text = .ok t') :
    t'.readText path = .ok text := by
  obtain ⟨l, hresolve⟩ := resolve_of_write h
  exact readText_of_resolve hresolve

theorem holds_of_writeText {text : String} (h : t.writeText path text = .ok t') :
    t'.holds path := by
  obtain ⟨l, hresolve⟩ := resolve_of_write h
  unfold holds
  rw [hresolve]

end ChassisCooling.Files.Tree
