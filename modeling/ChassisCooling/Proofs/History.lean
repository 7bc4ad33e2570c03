import ChassisCooling.History
import Mathlib.Data.List.Forall2

/-!
# What histories hold

Recording appends a sample and may drop the oldest one, so the newest sample is always the one
recorded last, and nothing but what was recorded is ever held.

* `getLast?_keepNewest`: the end of a list keeps the last element.
* `AllNumbers`: samples none of which is not-a-number.
* `Holds`: what is left of a log in a stream whose capacity may have changed all the time.
* `History.lastMeasured_recordMeasured`, `lastCommanded_recordCommanded`: the newest samples.
* `History.Alike`: histories of the same logs, which may reach back differently far.
* `History.Reaches`: a history that comes of another one while the commands of a log are recorded.
-/

namespace ChassisCooling

theorem mem_of_mem_keepNewest {α : Type} {n : Nat} {xs : List α} {x : α}
    (h : x ∈ keepNewest n xs) : x ∈ xs :=
  List.mem_of_mem_drop h

theorem getLast?_keepNewest {α : Type} {n : Nat} (hn : 0 < n) (xs : List α) :
    (keepNewest n xs).getLast? = xs.getLast? := by
  unfold keepNewest
  by_cases hxs : xs = []
  · rw [hxs, List.drop_nil]
  · have hlen := List.length_pos_iff.2 hxs
    rw [List.getLast?_drop, if_neg (by omega)]

theorem reverse_keepNewest {α : Type} (n : Nat) (xs : List α) :
    (keepNewest n xs).reverse = xs.reverse.take n :=
  List.take_reverse.symm

theorem keepNewest_keepNewest {α : Type} (m n : Nat) (xs : List α) :
    keepNewest m (keepNewest n xs) = keepNewest (min m n) xs := by
  rw [← List.reverse_inj, reverse_keepNewest, reverse_keepNewest, reverse_keepNewest,
    List.take_take]

theorem keepNewest_succ_concat {α : Type} (n : Nat) (xs : List α) (x : α) :
    keepNewest (n + 1) (xs ++ [x]) = keepNewest n xs ++ [x] := by
  rw [← List.reverse_inj, reverse_keepNewest, List.reverse_concat, List.reverse_concat,
    List.take_succ_cons, reverse_keepNewest]

theorem keepNewest_concat_eq {α : Type} {n : Nat} {xs ys : List α}
    (h : keepNewest n xs = keepNewest n ys) (x : α) :
    keepNewest n (xs ++ [x]) = keepNewest n (ys ++ [x]) := by
  cases n with
  | zero =>
    rw [keepNewest, keepNewest, Nat.sub_zero, Nat.sub_zero, List.drop_length, List.drop_length]
  | succ n =>
    have hfewer : keepNewest n xs = keepNewest n ys := by
      have := congrArg (keepNewest n) h
      rwa [keepNewest_keepNewest, keepNewest_keepNewest, Nat.min_eq_left (Nat.le_succ n)] at this
    rw [keepNewest_succ_concat, keepNewest_succ_concat, hfewer]

theorem keepNewest_of_length_le {α : Type} {n : Nat} {xs : List α} (h : xs.length ≤ n) :
    keepNewest n xs = xs := by
  unfold keepNewest
  rw [Nat.sub_eq_zero_of_le h, List.drop_zero]

/-- No sample is not-a-number. -/
def AllNumbers (samples : List Sample) : Prop := ∀ s ∈ samples, s.value.isNaN = false

theorem AllNumbers.nil : AllNumbers [] := by
  intro s hs
  cases hs

theorem AllNumbers.keepNewest {samples : List Sample} (h : AllNumbers samples) (n : Nat) :
    AllNumbers (keepNewest n samples) :=
  fun s hs => h s (mem_of_mem_keepNewest hs)

theorem AllNumbers.concat {samples : List Sample} (h : AllNumbers samples) (now : Timestamp)
    {value : Single} (hv : value.isNaN = false) : AllNumbers (samples ++ [⟨now, value⟩]) := by
  intro s hs
  rw [List.mem_append, List.mem_singleton] at hs
  rcases hs with hs | rfl
  · exact h s hs
  · exact hv

theorem AllNumbers.getLast? {samples : List Sample} (h : AllNumbers samples) {value : Single}
    (hv : samples.getLast?.map Sample.value = some value) : value.isNaN = false := by
  obtain ⟨s, hs, rfl⟩ := Option.map_eq_some_iff.1 hv
  exact h s (List.mem_of_getLast? hs)

/-! ## Logs -/

/-- A stream holds the newest samples of a log, down to the least capacity at least. It may hold
fewer than its own capacity, which may have grown since. -/
def Holds (log xs : List Sample) : Prop :=
  ∃ n, minHistoryCapacity ≤ n ∧ xs = keepNewest n log

namespace Holds

variable {log xs ys : List Sample}

theorem nil : Holds [] [] := ⟨minHistoryCapacity, Nat.le_refl _, rfl⟩

theorem refl (xs : List Sample) : Holds xs xs :=
  ⟨max minHistoryCapacity xs.length, Nat.le_max_left .., (keepNewest_of_length_le
    (Nat.le_max_right ..)).symm⟩

theorem keepNewest (h : Holds log xs) {capacity : Nat} (hc : minHistoryCapacity ≤ capacity) :
    Holds log (ChassisCooling.keepNewest capacity xs) := by
  obtain ⟨n, hn, rfl⟩ := h
  exact ⟨min capacity n, Nat.le_min.2 ⟨hc, hn⟩, keepNewest_keepNewest capacity n log⟩

theorem append_singleton (h : Holds log xs) (x : Sample) : Holds (log ++ [x]) (xs ++ [x]) := by
  obtain ⟨n, hn, rfl⟩ := h
  exact ⟨n + 1, Nat.le_succ_of_le hn, (keepNewest_succ_concat n log x).symm⟩

theorem concat (h : Holds log xs) {capacity : Nat} (hc : minHistoryCapacity ≤ capacity)
    (x : Sample) : Holds (log ++ [x]) (ChassisCooling.keepNewest capacity (xs ++ [x])) :=
  (h.append_singleton x).keepNewest hc

theorem getElem?_reverse_eq (h : Holds log xs) {i : Nat} (hi : i < minHistoryCapacity) :
    xs.reverse[i]? = log.reverse[i]? := by
  obtain ⟨n, hn, rfl⟩ := h
  rw [reverse_keepNewest, List.getElem?_take_of_lt (Nat.lt_of_lt_of_le hi hn)]

theorem getLast?_eq (h : Holds log xs) : xs.getLast? = log.getLast? := by
  obtain ⟨n, hn, rfl⟩ := h
  exact getLast?_keepNewest (Nat.lt_of_lt_of_le (by decide) hn) log

theorem keepNewest_eq (h : Holds log xs) :
    ChassisCooling.keepNewest minHistoryCapacity xs =
      ChassisCooling.keepNewest minHistoryCapacity log := by
  obtain ⟨n, hn, rfl⟩ := h
  rw [keepNewest_keepNewest, Nat.min_eq_left hn]

end Holds

/-- Of two streams one is the end of the other, and neither lacks the newest samples, down to the
least capacity. -/
structure SameButReach (xs ys : List Sample) : Prop where
  suffix : xs <:+ ys ∨ ys <:+ xs
  newest : keepNewest minHistoryCapacity xs = keepNewest minHistoryCapacity ys

theorem Holds.sameButReach {log xs ys : List Sample} (hx : Holds log xs) (hy : Holds log ys) :
    SameButReach xs ys := by
  refine ⟨?_, hx.keepNewest_eq.trans hy.keepNewest_eq.symm⟩
  obtain ⟨m, -, rfl⟩ := hx
  obtain ⟨n, -, rfl⟩ := hy
  exact List.suffix_or_suffix_of_suffix (List.drop_suffix ..) (List.drop_suffix ..)

namespace History

theorem capacity_pos (h : History) : 0 < h.capacity := by
  have := h.min_le_capacity
  unfold minHistoryCapacity at this
  omega

theorem lastMeasured_recordMeasured (h : History) (now : Timestamp) (value : Single) :
    (h.recordMeasured now value).lastMeasured = some value := by
  show (keepNewest h.capacity (h.measured ++ [⟨now, value⟩])).getLast?.map Sample.value = _
  rw [getLast?_keepNewest h.capacity_pos, List.getLast?_concat]
  rfl

theorem lastCommanded_recordCommanded (h : History) (now : Timestamp) (value : Single) :
    (h.recordCommanded now value).lastCommanded = some value := by
  show (keepNewest h.capacity (h.commanded ++ [⟨now, value⟩])).getLast?.map Sample.value = _
  rw [getLast?_keepNewest h.capacity_pos, List.getLast?_concat]
  rfl

theorem lastCommanded_setCapacity (h : History) (capacity : Nat) :
    (h.setCapacity capacity).lastCommanded = h.lastCommanded := by
  show (keepNewest (h.setCapacity capacity).capacity h.commanded).getLast?.map Sample.value = _
  rw [getLast?_keepNewest (h.setCapacity capacity).capacity_pos]
  rfl

/-- Histories of one name that hold what is left of the same two logs. -/
structure Alike (h h' : History) : Prop where
  name : h.name = h'.name
  measured : ∃ log, Holds log h.measured ∧ Holds log h'.measured
  commanded : ∃ log, Holds log h.commanded ∧ Holds log h'.commanded

/-- Histories of one name that differ in how far back they reach at most. -/
structure SameButReach (h h' : History) : Prop where
  name : h.name = h'.name
  measured : ChassisCooling.SameButReach h.measured h'.measured
  commanded : ChassisCooling.SameButReach h.commanded h'.commanded

namespace Alike

variable {h h' : History}

theorem refl (h : History) : h.Alike h :=
  ⟨rfl, ⟨h.measured, .refl _, .refl _⟩, ⟨h.commanded, .refl _, .refl _⟩⟩

theorem symm (ha : h.Alike h') : h'.Alike h :=
  ⟨ha.name.symm, ha.measured.imp fun _ => And.symm, ha.commanded.imp fun _ => And.symm⟩

theorem empty (name : String) (capacity capacity' : Nat) :
    (History.empty name capacity).Alike (.empty name capacity') :=
  ⟨rfl, ⟨[], .nil, .nil⟩, ⟨[], .nil, .nil⟩⟩

/-- New histories are alike whatever capacity is asked for. -/
theorem create {name : String} {capacity capacity' : Nat}
    (hc : History.create name capacity = .ok h) (hc' : History.create name capacity' = .ok h') :
    h.Alike h' := by
  obtain rfl := create_eq_ok hc
  obtain rfl := create_eq_ok hc'
  exact empty name capacity capacity'

theorem setCapacity_left (ha : h.Alike h') (capacity : Nat) :
    (h.setCapacity capacity).Alike h' := by
  obtain ⟨log, hm, hm'⟩ := ha.measured
  obtain ⟨log', hc, hc'⟩ := ha.commanded
  have hmin : minHistoryCapacity ≤ allowedCapacity capacity := Nat.le_max_right ..
  exact ⟨ha.name, ⟨log, hm.keepNewest hmin, hm'⟩, ⟨log', hc.keepNewest hmin, hc'⟩⟩

theorem recordMeasured (ha : h.Alike h') (now : Timestamp) (value : Single) :
    (h.recordMeasured now value).Alike (h'.recordMeasured now value) := by
  obtain ⟨log, hm, hm'⟩ := ha.measured
  exact ⟨ha.name, ⟨log ++ [⟨now, value⟩], hm.concat h.min_le_capacity _,
    hm'.concat h'.min_le_capacity _⟩, ha.commanded⟩

theorem recordCommanded (ha : h.Alike h') (now : Timestamp) (value : Single) :
    (h.recordCommanded now value).Alike (h'.recordCommanded now value) := by
  obtain ⟨log, hc, hc'⟩ := ha.commanded
  exact ⟨ha.name, ha.measured, ⟨log ++ [⟨now, value⟩], hc.concat h.min_le_capacity _,
    hc'.concat h'.min_le_capacity _⟩⟩

theorem lastMeasuredSample_eq (ha : h.Alike h') :
    h.lastMeasuredSample = h'.lastMeasuredSample := by
  obtain ⟨log, hm, hm'⟩ := ha.measured
  exact hm.getLast?_eq.trans hm'.getLast?_eq.symm

theorem lastCommandedSample_eq (ha : h.Alike h') :
    h.lastCommandedSample = h'.lastCommandedSample := by
  obtain ⟨log, hc, hc'⟩ := ha.commanded
  exact hc.getLast?_eq.trans hc'.getLast?_eq.symm

theorem lastMeasured_eq (ha : h.Alike h') : h.lastMeasured = h'.lastMeasured :=
  congrArg (Option.map Sample.value) ha.lastMeasuredSample_eq

theorem lastCommanded_eq (ha : h.Alike h') : h.lastCommanded = h'.lastCommanded :=
  congrArg (Option.map Sample.value) ha.lastCommandedSample_eq

theorem sameButReach (ha : h.Alike h') : h.SameButReach h' := by
  obtain ⟨log, hm, hm'⟩ := ha.measured
  obtain ⟨log', hc, hc'⟩ := ha.commanded
  exact ⟨ha.name, hm.sameButReach hm', hc.sameButReach hc'⟩

/-- Looking back less far than the least capacity reaches. -/
theorem nthFromEnd_eq (ha : h.Alike h') {n : Nat} (hn : n ≤ minHistoryCapacity) :
    h.nthFromEnd n = h'.nthFromEnd n := by
  obtain ⟨log, hm, hm'⟩ := ha.measured
  unfold nthFromEnd
  split
  · rfl
  · have hlt : n - 1 < minHistoryCapacity := by omega
    rw [hm.getElem?_reverse_eq hlt, hm'.getElem?_reverse_eq hlt]

end Alike

/-! ## Growing -/

/-- A history comes of another one by recording and by changes of its capacity. The log lists the
commands recorded on the way, oldest first; none of them is ever dropped from it. -/
inductive Reaches (h₀ : History) : List Sample → History → Prop where
  | refl : Reaches h₀ [] h₀
  | recordMeasured {log : List Sample} {h : History} (hr : Reaches h₀ log h) (now : Timestamp)
      (value : Single) : Reaches h₀ log (h.recordMeasured now value)
  | recordCommanded {log : List Sample} {h : History} (hr : Reaches h₀ log h) (now : Timestamp)
      (value : Single) : Reaches h₀ (log ++ [⟨now, value⟩]) (h.recordCommanded now value)
  | setCapacity {log : List Sample} {h : History} (hr : Reaches h₀ log h) (capacity : Nat) :
      Reaches h₀ log (h.setCapacity capacity)

namespace Reaches

variable {h₀ h₁ h₂ : History} {log log' : List Sample}

theorem trans (hr : h₀.Reaches log h₁) (hr' : h₁.Reaches log' h₂) :
    h₀.Reaches (log ++ log') h₂ := by
  induction hr' with
  | refl =>
    rw [List.append_nil]
    exact hr
  | recordMeasured _ now value ih => exact ih.recordMeasured now value
  | recordCommanded _ now value ih =>
    rw [← List.append_assoc]
    exact ih.recordCommanded now value
  | setCapacity _ capacity ih => exact ih.setCapacity capacity

theorem name_eq (hr : h₀.Reaches log h₁) : h₁.name = h₀.name := by
  induction hr with
  | refl => rfl
  | recordMeasured _ _ _ ih | recordCommanded _ _ _ ih | setCapacity _ _ ih => exact ih

/-- What is stored is the newest part of the log. -/
theorem holds (hr : h₀.Reaches log h₁) : Holds (h₀.commanded ++ log) h₁.commanded := by
  induction hr with
  | refl =>
    rw [List.append_nil]
    exact .refl _
  | recordMeasured _ _ _ ih => exact ih
  | @recordCommanded log h _ now value ih =>
    rw [← List.append_assoc]
    exact ih.concat h.min_le_capacity ⟨now, value⟩
  | setCapacity _ capacity ih => exact ih.keepNewest (Nat.le_max_right ..)

end Reaches

/-- Several histories that come of others, each at its place and with a log of its own. -/
structure ReachBy (logs : Nat → List Sample) (hs hs' : List History) : Prop where
  length_eq : hs'.length = hs.length
  reaches : ∀ (i : Nat) (h h' : History), hs[i]? = some h → hs'[i]? = some h' →
    h.Reaches (logs i) h'

namespace ReachBy

variable {logs logs' : Nat → List Sample} {hs hs' hs'' : List History}

/-- Nothing is commanded. -/
theorem of_forall₂ (h : List.Forall₂ (fun h h' => h.Reaches [] h') hs hs') :
    ReachBy (fun _ => []) hs hs' := by
  refine ⟨h.length_eq.symm, ?_⟩
  intro i g g' hg hg'
  obtain ⟨hi, rfl⟩ := List.getElem?_eq_some_iff.1 hg
  obtain ⟨hi', rfl⟩ := List.getElem?_eq_some_iff.1 hg'
  exact h.get hi hi'

theorem refl (hs : List History) : ReachBy (fun _ => []) hs hs :=
  of_forall₂ (List.forall₂_same.2 fun _ _ => .refl)

theorem trans (h : ReachBy logs hs hs') (h' : ReachBy logs' hs' hs'') :
    ReachBy (fun i => logs i ++ logs' i) hs hs'' := by
  refine ⟨h'.length_eq.trans h.length_eq, ?_⟩
  intro i g g'' hg hg''
  obtain ⟨hi, -⟩ := List.getElem?_eq_some_iff.1 hg''
  rw [h'.length_eq] at hi
  have hmid : hs'[i]? = some hs'[i] := List.getElem?_eq_getElem hi
  exact (h.reaches i g _ hg hmid).trans (h'.reaches i _ g'' hmid hg'')

theorem map_name_eq (h : ReachBy logs hs hs') : hs'.map name = hs.map name := by
  apply List.ext_getElem
  · rw [List.length_map, List.length_map, h.length_eq]
  · intro i hi' hi
    rw [List.length_map] at hi hi'
    rw [List.getElem_map, List.getElem_map]
    exact (h.reaches i _ _ (List.getElem?_eq_getElem hi) (List.getElem?_eq_getElem hi')).name_eq

end ReachBy

end History

end ChassisCooling
