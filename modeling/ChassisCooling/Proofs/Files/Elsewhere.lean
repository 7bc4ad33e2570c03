import ChassisCooling.Proofs.Files.Place

/-!
# Files that are written elsewhere

A path that does not lead to the place where a file is written leads where it led before. If it led
nowhere, it still does, though perhaps for another reason: a name on its way may have become a file.

* `Tree.toOption_resolve_set`: a path that leads elsewhere.
* `Tree.shown`: the text at a path, if anything is there.
* `Tree.Apart`: two paths that do not lead to one place, so that a write to one of them leaves alone
  what the other one shows.
-/

namespace ChassisCooling.Files.Tree

variable {t t' : Tree} {follow : Bool} {l l₀ : Location} {names : List String}
  {path other : String}

theorem toOption_advance_set (hl : t.Writable l) (content : ByteArray)
    (helsewhere : ∀ target, t.advance follow l₀ names = .ok (.at target) → target.location ≠ l) :
    ((t.set l (.file content)).advance follow l₀ names).toOption =
      (t.advance follow l₀ names).toOption := by
  have hother : ∀ l', l' ≠ l → (t.set l (.file content)).node? l' = t.node? l' := fun l' hne => by
    rw [node?_set hl.ne_nil, if_neg hne]
  have hkept : ∀ l' n, t.node? l' = some n → (∀ content, n ≠ .file content) →
      (t.set l (.file content)).node? l' = some n := fun _ _ hn hfile =>
    node?_set_of_ne_file hl hn hfile _
  fun_induction advance t follow l₀ names with
  | case1 => rfl
  | case2 _ _ _ hname ih => rw [advance, if_pos hname, ih helsewhere]
  | case3 _ _ hname ih => rw [advance, if_neg hname, if_pos rfl, ih helsewhere]
  | case4 _ _ _ hname hdots hlong => rw [advance, if_neg hname, if_neg hdots, if_pos hlong]
  | case5 l₀ name rest hname hdots hlong hnode hrest =>
    have hne : l₀ ++ [name] ≠ l := helsewhere _ rfl
    rw [advance, if_neg hname, if_neg hdots, if_neg hlong, hother _ hne, hnode]
    simp only [hrest, if_true]
  | case6 l₀ name rest hname hdots hlong hnode hrest =>
    rw [advance, if_neg hname, if_neg hdots, if_neg hlong]
    by_cases hhere : l₀ ++ [name] = l
    · -- The missing name has become a file, and no path runs through a file.
      rw [node?_set hl.ne_nil, if_pos hhere]
      cases rest with
      | nil => simp at hrest
      | cons => rfl
    · rw [hother _ hhere, hnode]
      simp only [hrest]
      rfl
  | case7 _ _ _ hname hdots hlong hnode ih =>
    rw [advance, if_neg hname, if_neg hdots, if_neg hlong, hkept _ _ hnode (by simp)]
    exact ih helsewhere
  | case8 l₀ name rest hname hdots hlong content' hnode hrest =>
    have hne : l₀ ++ [name] ≠ l := helsewhere _ rfl
    rw [advance, if_neg hname, if_neg hdots, if_neg hlong, hother _ hne, hnode]
    simp only [hrest, if_true]
  | case9 l₀ name rest hname hdots hlong content' hnode hrest =>
    rw [advance, if_neg hname, if_neg hdots, if_neg hlong]
    by_cases hhere : l₀ ++ [name] = l
    · rw [node?_set hl.ne_nil, if_pos hhere]
      simp only [hrest]
      rfl
    · rw [hother _ hhere, hnode]
      simp only [hrest]
      rfl
  | case10 _ _ _ hname hdots hlong target hnode hfollow =>
    rw [advance, if_neg hname, if_neg hdots, if_neg hlong, hkept _ _ hnode (by simp)]
    simp only [if_pos hfollow]
  | case11 _ _ _ hname hdots hlong target hnode hfollow =>
    rw [advance, if_neg hname, if_neg hdots, if_neg hlong, hkept _ _ hnode (by simp)]
    simp only [if_neg hfollow]

theorem toOption_walk_set (hl : t.Writable l) (content : ByteArray) {links : Nat}
    (helsewhere : ∀ target, t.Leads follow target links l₀ names → target.location ≠ l) :
    ((t.set l (.file content)).walk follow links l₀ names).toOption =
      (t.walk follow links l₀ names).toOption := by
  induction links generalizing l₀ names with
  | zero =>
    have hadvance := toOption_advance_set hl content fun target h => helsewhere target (.here h)
    rw [walk.eq_def, walk.eq_def]
    exact toOption_bind_eq hadvance fun stop _ => by cases stop <;> rfl
  | succ links ih =>
    have hadvance := toOption_advance_set hl content fun target h => helsewhere target (.here h)
    rw [walk.eq_def, walk.eq_def t]
    refine toOption_bind_eq hadvance fun stop hstop => ?_
    cases stop with
    | «at» target => rfl
    | link directory text rest =>
      simp only
      split
      · rfl
      · next htext => exact ih fun target h => helsewhere target (.link hstop htext h)

/-- A path that leads elsewhere. -/
theorem toOption_resolve_set (hl : t.Writable l) (content : ByteArray)
    (helsewhere : ∀ target, t.resolve follow path = .ok target → target.location ≠ l) :
    ((t.set l (.file content)).resolve follow path).toOption =
      (t.resolve follow path).toOption := by
  refine Option.ext fun target => ?_
  rw [toOption_eq_some_iff, toOption_eq_some_iff, resolve_eq_ok_iff, resolve_eq_ok_iff]
  refine and_congr_right fun hpath => ?_
  rw [← walk_eq_ok_iff, ← walk_eq_ok_iff, ← toOption_eq_some_iff, ← toOption_eq_some_iff]
  have hwalk := toOption_walk_set hl content fun target h =>
    helsewhere target (resolve_eq_ok_iff.2 ⟨hpath, h⟩)
  exact hwalk ▸ Iff.rfl

/-! ## What a path shows -/

/-- The text that a path shows, if anything is there. -/
def shown (t : Tree) (path : String) : Option (Except Failure String) :=
  if t.holds path then some (t.readText path) else none

theorem shown_eq_none (h : ¬t.holds path) : t.shown path = none := if_neg h

theorem shown_eq_some (h : t.holds path) : t.shown path = some (t.readText path) := if_pos h

theorem shown_congr (h : (t'.resolve true path).toOption = (t.resolve true path).toOption) :
    t'.shown path = t.shown path := by
  unfold shown holds readText readBytes
  cases hresolve : t.resolve true path with
  | ok target =>
    rw [hresolve] at h
    rw [toOption_eq_some_iff.1 h]
  | error failure =>
    cases hresolve' : t'.resolve true path with
    | ok target =>
      rw [hresolve, hresolve'] at h
      cases h
    | error => rfl

theorem shown_of_writeText {text : String} (h : t.writeText path text = .ok t') :
    t'.shown path = some (.ok text) := by
  rw [shown_eq_some (holds_of_writeText h), readText_of_writeText h]

/-- Two paths do not lead to one place. -/
def Apart (t : Tree) (path other : String) : Prop :=
  ∀ target target', t.resolve true path = .ok target → t.resolve true other = .ok target' →
    target.location ≠ target'.location

theorem Apart.symm (h : t.Apart path other) : t.Apart other path := fun target target' ho hp =>
  (h target' target hp ho).symm

theorem Apart.toOption_resolve_eq {text : String} (h : t.Apart path other)
    (hwrite : t.writeText other text = .ok t') :
    (t'.resolve true path).toOption = (t.resolve true path).toOption := by
  obtain ⟨target', l, hresolve, hopens, rfl⟩ := write_eq_ok hwrite
  refine toOption_resolve_set ((shown_of_resolve hresolve).writable hopens) _ fun target ht => ?_
  rw [← hopens.location_eq]
  exact h target target' ht hresolve

/-- Writing to one of the two leaves the other as it is. -/
theorem Apart.shown_eq {text : String} (h : t.Apart path other)
    (hwrite : t.writeText other text = .ok t') : t'.shown path = t.shown path :=
  shown_congr (h.toOption_resolve_eq hwrite)

/-- Writing to one of the two leaves them apart. -/
theorem Apart.of_writeText {text : String} (h : t.Apart path other)
    (hwrite : t.writeText path text = .ok t') : t'.Apart path other := by
  have hother := h.symm.toOption_resolve_eq hwrite
  obtain ⟨target, l, hresolve, hopens, rfl⟩ := write_eq_ok hwrite
  intro now target' hnow htarget'
  rw [resolve_set hresolve hopens] at hnow
  obtain rfl := Except.ok.inj hnow
  rw [toOption_eq_some_iff.2 htarget'] at hother
  show l ≠ target'.location
  rw [← hopens.location_eq]
  exact h target target' hresolve (toOption_eq_some_iff.1 hother.symm)

/-- Without links, the names alone tell paths apart. -/
theorem LinkFree.apart (ht : t.LinkFree)
    (hplace : Path.place t.start path ≠ Path.place t.start other) : t.Apart path other := by
  intro target target' htarget htarget'
  rw [(found_of_resolve ht htarget).location_eq, (found_of_resolve ht htarget').location_eq]
  exact hplace

end ChassisCooling.Files.Tree
