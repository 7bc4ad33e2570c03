import Mathlib.Data.List.Forall2

/-!
# Lists and options that are related element by element

Two lists are compared by `List.Forall₂`, two options by `Option.Rel`. The lemmas carry a relation
through a `map` or a `zipWith`, and compose, turn and look into such comparisons.
-/

namespace ChassisCooling

variable {α β γ δ : Type} {R : α → β → Prop}

theorem map_eq_map_of_forall₂ {f : α → γ} {g : β → γ} {xs : List α} {ys : List β}
    (h : List.Forall₂ R xs ys) (hfg : ∀ x y, R x y → f x = g y) : xs.map f = ys.map g := by
  induction h with
  | nil => rfl
  | cons hxy _ ih => rw [List.map_cons, List.map_cons, hfg _ _ hxy, ih]

theorem forall₂_map_of_forall₂ {S : γ → δ → Prop} {f : α → γ} {g : β → δ} {xs : List α}
    {ys : List β} (h : List.Forall₂ R xs ys) (hfg : ∀ x y, R x y → S (f x) (g y)) :
    List.Forall₂ S (xs.map f) (ys.map g) :=
  List.rel_map (fun _ _ hxy => hfg _ _ hxy) h

theorem forall₂_of_common {S : γ → α → Prop} {T : γ → β → Prop} {as : List γ} {xs : List α}
    {ys : List β} (h : List.Forall₂ S as xs) (h' : List.Forall₂ T as ys)
    (hR : ∀ a x y, S a x → T a y → R x y) : List.Forall₂ R xs ys := by
  induction h generalizing ys with
  | nil =>
    cases h'
    exact .nil
  | cons hx _ ih =>
    cases h' with
    | cons hy h' => exact .cons (hR _ _ _ hx hy) (ih h')

theorem forall₂_trans {R : α → α → Prop} (hR : ∀ x y z, R x y → R y z → R x z)
    {xs ys zs : List α} (h : List.Forall₂ R xs ys) (h' : List.Forall₂ R ys zs) :
    List.Forall₂ R xs zs := by
  have hturned : List.Forall₂ (fun y x => R x y) ys xs := h.flip
  exact forall₂_of_common hturned h' fun y x z hxy hyz => hR x y z hxy hyz

theorem exists_of_forall₂_of_mem {xs : List α} {ys : List β} {x : α} (h : List.Forall₂ R xs ys)
    (hx : x ∈ xs) : ∃ y ∈ ys, R x y := by
  induction h with
  | nil => cases hx
  | @cons a b _ _ hr _ ih =>
    rcases List.mem_cons.1 hx with rfl | hx
    · exact ⟨b, List.mem_cons_self, hr⟩
    · obtain ⟨y, hy, hxy⟩ := ih hx
      exact ⟨y, List.mem_cons_of_mem b hy, hxy⟩

theorem forall₂_symm {R : α → α → Prop} (hR : ∀ x y, R x y → R y x) {xs ys : List α}
    (h : List.Forall₂ R xs ys) : List.Forall₂ R ys xs :=
  (h.imp hR).flip

theorem rel_map_of_rel {S : γ → δ → Prop} {f : α → γ} {g : β → δ} {o : Option α} {o' : Option β}
    (h : Option.Rel R o o') (hfg : ∀ x y, R x y → S (f x) (g y)) :
    Option.Rel S (o.map f) (o'.map g) := by
  cases h with
  | none => exact .none
  | some hxy => exact .some (hfg _ _ hxy)

/-! ## Lists put together element by element -/

theorem exists_mem_zipWith {f : α → β → γ} {xs : List α} {ys : List β}
    (h : List.Forall₂ R xs ys) {y : β} (hy : y ∈ ys) :
    ∃ x ∈ xs, R x y ∧ f x y ∈ List.zipWith f xs ys := by
  induction h with
  | nil => cases hy
  | @cons x y' _ _ hxy _ ih =>
    rcases List.mem_cons.1 hy with rfl | hy
    · exact ⟨x, List.mem_cons_self, hxy, List.mem_cons_self⟩
    · obtain ⟨x', hx', hr, hmem⟩ := ih hy
      exact ⟨x', List.mem_cons_of_mem x hx', hr, List.mem_cons_of_mem _ hmem⟩

theorem of_mem_zipWith {f : α → β → γ} {xs : List α} {ys : List β} (h : List.Forall₂ R xs ys)
    {z : γ} (hz : z ∈ List.zipWith f xs ys) : ∃ x ∈ xs, ∃ y ∈ ys, R x y ∧ z = f x y := by
  induction h with
  | nil => cases hz
  | @cons x y _ _ hxy _ ih =>
    rcases List.mem_cons.1 hz with rfl | hz
    · exact ⟨x, List.mem_cons_self, y, List.mem_cons_self, hxy, rfl⟩
    · obtain ⟨x', hx', y', hy', hr, rfl⟩ := ih hz
      exact ⟨x', List.mem_cons_of_mem x hx', y', List.mem_cons_of_mem y hy', hr, rfl⟩

theorem forall₂_zipWith_right {S : α → δ → Prop} {f : β → γ → δ} {xs : List α} {ys : List β}
    {zs : List γ} (h : List.Forall₂ R xs ys) (hlength : zs.length = ys.length)
    (hf : ∀ x y z, R x y → S x (f y z)) : List.Forall₂ S xs (List.zipWith f ys zs) := by
  induction h generalizing zs with
  | nil => exact .nil
  | cons hxy _ ih =>
    obtain ⟨z, zs, rfl⟩ := List.exists_cons_of_length_eq_add_one hlength
    exact .cons (hf _ _ z hxy) (ih (Nat.succ.inj hlength))

end ChassisCooling
