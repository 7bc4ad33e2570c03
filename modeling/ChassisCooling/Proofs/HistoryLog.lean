import ChassisCooling.Proofs.History

/-!
# A history and its log

Beside a history stands the log of each of its two streams, from which nothing is ever dropped. A
stream is the end of its log, whatever was recorded and however often the capacity was changed in
between: it loses its oldest samples when it is full and when its capacity shrinks, and it does not
get them back when its capacity grows.

* `History.Change`: what may happen to a history.
* `History.Change.logged`, `History.Change.lastAsked`: the log of a stream, and the capacity that
  was asked for last.
* `History.applyAll_induction`: what relates a log to its stream through all changes.
* `History.holds_applyAll`, `History.keepNewest_applyAll`, `History.capacity_applyAll`: what is kept
  of the log, and how much of it may be kept.
* `History.applyAll_follows_log`: the main result.
-/

namespace ChassisCooling.History

/-- The samples of a stream, oldest first. -/
def samples (h : History) : Stream → List Sample
  | .measured => h.measured
  | .commanded => h.commanded

/-- The history after one more sample of a stream. -/
def record (h : History) : Stream → Sample → History
  | .measured, s => h.recordMeasured s.timestamp s.value
  | .commanded, s => h.recordCommanded s.timestamp s.value

/-- One thing that happens to a history. -/
inductive Change where
  | record (stream : Stream) (s : Sample)
  | setCapacity (asked : Nat)

def apply (h : History) : Change → History
  | .record stream s => h.record stream s
  | .setCapacity asked => h.setCapacity asked

/-- One change after the other. -/
def applyAll (h : History) (changes : List Change) : History := changes.foldl apply h

namespace Change

/-- Everything that was ever recorded in a stream, oldest first. -/
def logged (stream : Stream) : List Change → List Sample
  | [] => []
  | .record stream' s :: rest =>
    if stream' = stream then s :: logged stream rest else logged stream rest
  | .setCapacity _ :: rest => logged stream rest

/-- The sample that a change leaves in a stream. -/
def sample? (stream : Stream) : Change → Option Sample
  | .record stream' s => if stream' = stream then some s else none
  | .setCapacity _ => none

theorem logged_eq_filterMap (stream : Stream) (changes : List Change) :
    logged stream changes = changes.filterMap (sample? stream) := by
  induction changes with
  | nil => rfl
  | cons change changes ih =>
    rw [List.filterMap_cons]
    cases change with
    | record stream' s =>
      rw [logged, sample?, ih]
      split <;> rfl
    | setCapacity asked => exact ih

/-- The capacity that was asked for last; `first` is what a new history is asked for. -/
def lastAsked (first : Nat) : List Change → Nat
  | [] => first
  | .record .. :: rest => lastAsked first rest
  | .setCapacity asked :: rest => lastAsked asked rest

end Change

variable {h : History}

/-! ## One change -/

theorem samples_record_self (h : History) (stream : Stream) (s : Sample) :
    (h.record stream s).samples stream = keepNewest h.capacity (h.samples stream ++ [s]) := by
  cases stream <;> rfl

theorem samples_record_of_ne {stream other : Stream} (hne : stream ≠ other) (s : Sample) :
    (h.record stream s).samples other = h.samples other := by
  cases stream <;> cases other <;> first | rfl | exact absurd rfl hne

theorem samples_setCapacity (h : History) (asked : Nat) (stream : Stream) :
    (h.setCapacity asked).samples stream = keepNewest (allowedCapacity asked) (h.samples stream) := by
  cases stream <;> rfl

theorem capacity_record (h : History) (stream : Stream) (s : Sample) :
    (h.record stream s).capacity = h.capacity := by
  cases stream <;> rfl

theorem length_samples_le (h : History) (stream : Stream) :
    (h.samples stream).length ≤ h.capacity := by
  cases stream
  · exact h.measured_le
  · exact h.commanded_le

/-! ## All changes -/

/-- What relates a log to its stream throughout, if it holds at first, of one more sample in both
of them, and of a stream that is cut from the front. By induction on the changes: a sample that is
recorded goes to the end of the log and of the stream; the stream is then cut, and so it is when its
capacity changes. `bound` is what is left at least. -/
theorem applyAll_induction {R : List Sample → List Sample → Prop} {bound : Nat} {stream : Stream}
    (hconcat : ∀ log xs s, R log xs → R (log ++ [s]) (xs ++ [s]))
    (hkeep : ∀ log xs n, bound ≤ n → R log xs → R log (keepNewest n xs))
    {log : List Sample} (hlog : R log (h.samples stream)) (hroom : bound ≤ h.capacity)
    {changes : List Change}
    (hchanges : ∀ asked, .setCapacity asked ∈ changes → bound ≤ allowedCapacity asked) :
    R (log ++ Change.logged stream changes) ((h.applyAll changes).samples stream) := by
  induction changes generalizing h log with
  | nil =>
    rw [Change.logged, List.append_nil]
    exact hlog
  | cons change changes ih =>
    have hrest : ∀ asked, .setCapacity asked ∈ changes → bound ≤ allowedCapacity asked :=
      fun asked hasked => hchanges asked (List.mem_cons_of_mem _ hasked)
    cases change with
    | record stream' s =>
      have hroom' : bound ≤ (h.record stream' s).capacity := by
        rwa [capacity_record]
      by_cases hstream : stream' = stream
      · subst hstream
        rw [Change.logged, if_pos rfl, List.append_cons]
        refine ih (h := h.record stream' s) ?_ hroom' hrest
        rw [samples_record_self]
        exact hkeep _ _ _ hroom (hconcat _ _ s hlog)
      · rw [Change.logged, if_neg hstream]
        refine ih (h := h.record stream' s) ?_ hroom' hrest
        rw [samples_record_of_ne hstream]
        exact hlog
    | setCapacity asked =>
      have hasked : bound ≤ allowedCapacity asked := hchanges asked List.mem_cons_self
      refine ih (h := h.setCapacity asked) ?_ hasked hrest
      rw [samples_setCapacity]
      exact hkeep _ _ _ hasked hlog

theorem holds_applyAll {log : List Sample} {stream : Stream} (hlog : Holds log (h.samples stream))
    (changes : List Change) :
    Holds (log ++ Change.logged stream changes) ((h.applyAll changes).samples stream) :=
  applyAll_induction (fun _ _ s hxs => hxs.append_singleton s)
    (fun _ _ _ hn hxs => hxs.keepNewest hn) hlog h.min_le_capacity fun _ _ => Nat.le_max_right ..

/-- A stream lacks none of the newest samples of its log for which there was room all the time. -/
theorem keepNewest_applyAll {bound : Nat} {stream : Stream} {log : List Sample}
    (hlog : keepNewest bound (h.samples stream) = keepNewest bound log)
    (hroom : bound ≤ h.capacity) {changes : List Change}
    (hchanges : ∀ asked, .setCapacity asked ∈ changes → bound ≤ allowedCapacity asked) :
    keepNewest bound ((h.applyAll changes).samples stream) =
      keepNewest bound (log ++ Change.logged stream changes) := by
  refine applyAll_induction (R := fun log xs => keepNewest bound xs = keepNewest bound log)
    (fun _ _ s hxs => keepNewest_concat_eq hxs s) ?_ hlog hroom hchanges
  intro log xs n hn hxs
  rwa [keepNewest_keepNewest, Nat.min_eq_left hn]

theorem capacity_applyAll {first : Nat} (hfirst : h.capacity = allowedCapacity first)
    (changes : List Change) :
    (h.applyAll changes).capacity = allowedCapacity (Change.lastAsked first changes) := by
  induction changes generalizing h first with
  | nil => exact hfirst
  | cons change changes ih =>
    cases change with
    | record stream s => exact ih ((capacity_record h stream s).trans hfirst)
    | setCapacity asked => exact ih (h := h.setCapacity asked) rfl

theorem name_applyAll (h : History) (changes : List Change) :
    (h.applyAll changes).name = h.name := by
  induction changes generalizing h with
  | nil => rfl
  | cons change changes ih =>
    refine (ih (h.apply change)).trans ?_
    cases change with
    | record stream s => cases stream <;> rfl
    | setCapacity asked => rfl

/-! ## The main result -/

/-- A history after changes, beside the logs of its two streams and the capacity that was asked for
last. -/
structure Follows (h : History) (log : Stream → List Sample) (asked : Nat) : Prop where
  capacity : h.capacity = max 3 asked
  suffix : ∀ stream, h.samples stream <:+ log stream
  length_le : ∀ stream, (h.samples stream).length ≤ h.capacity
  lastMeasuredSample : h.lastMeasuredSample = (log .measured).getLast?
  lastMeasured : h.lastMeasured = (log .measured).getLast?.map Sample.value
  lastCommandedSample : h.lastCommandedSample = (log .commanded).getLast?
  lastCommanded : h.lastCommanded = (log .commanded).getLast?.map Sample.value
  /-- Looking back in the stream is looking back in the log, which is as long at least. -/
  nthFromEnd : ∀ n, h.nthFromEnd n =
    if 1 ≤ n ∧ n ≤ h.measured.length then (log .measured).reverse[n - 1]?.map Sample.value else none

/-- How the lengths of the streams change with the next change of a history. -/
structure StepsInLength (h : History) : Prop where
  record : ∀ stream s, ((h.record stream s).samples stream).length =
    min ((h.samples stream).length + 1) h.capacity
  record_other : ∀ stream other s, stream ≠ other →
    (h.record stream s).samples other = h.samples other
  setCapacity : ∀ asked stream, ((h.setCapacity asked).samples stream).length =
    min (h.samples stream).length (max 3 asked)

theorem nthFromEnd_of_suffix {log : List Sample} (hsuffix : h.measured <:+ log) (n : Nat) :
    h.nthFromEnd n =
      if 1 ≤ n ∧ n ≤ h.measured.length then log.reverse[n - 1]?.map Sample.value else none := by
  unfold History.nthFromEnd
  by_cases hzero : n = 0
  · rw [if_pos hzero, if_neg (by omega)]
  rw [if_neg hzero]
  obtain ⟨dropped, rfl⟩ := hsuffix
  by_cases hn : n ≤ h.measured.length
  · have hplace : n - 1 < h.measured.reverse.length := by
      rw [List.length_reverse]
      omega
    rw [if_pos ⟨by omega, hn⟩, List.reverse_append, List.getElem?_append_left hplace]
  · rw [if_neg (by omega), List.getElem?_eq_none (by rw [List.length_reverse]; omega)]
    rfl

theorem follows_of_holds {log : Stream → List Sample} {asked : Nat}
    (hcapacity : h.capacity = allowedCapacity asked)
    (hholds : ∀ stream, Holds (log stream) (h.samples stream)) : h.Follows log asked := by
  have hsuffix : ∀ stream, h.samples stream <:+ log stream := by
    intro stream
    obtain ⟨n, -, heq⟩ := hholds stream
    rw [heq]
    exact List.drop_suffix ..
  have hmeasured : h.lastMeasuredSample = (log .measured).getLast? := (hholds .measured).getLast?_eq
  have hcommanded : h.lastCommandedSample = (log .commanded).getLast? :=
    (hholds .commanded).getLast?_eq
  exact {
    capacity := hcapacity.trans (Nat.max_comm ..)
    suffix := hsuffix
    length_le := h.length_samples_le
    lastMeasuredSample := hmeasured
    lastMeasured := congrArg (Option.map Sample.value) hmeasured
    lastCommandedSample := hcommanded
    lastCommanded := congrArg (Option.map Sample.value) hcommanded
    nthFromEnd := nthFromEnd_of_suffix (hsuffix .measured) }

theorem stepsInLength (h : History) : h.StepsInLength where
  record stream s := by
    rw [samples_record_self, length_keepNewest, List.length_append]
    rfl
  record_other _ _ s hne := samples_record_of_ne hne s
  setCapacity asked stream := by
    rw [samples_setCapacity, length_keepNewest, allowedCapacity, Nat.max_comm]
    rfl

/-- Whatever capacity is asked for, there is an empty history of it, unless there cannot be room for
one; and after any changes it follows what was recorded and asked for. -/
theorem applyAll_follows_log (name : String) (first : Nat) (changes : List Change) :
    (create name first =
      if (max 3 first + 1) * 16 < UInt64.size / 2 then .ok (empty name first)
      else .error .historyTooLarge) ∧
    ((empty name first).applyAll changes).Follows (fun stream => Change.logged stream changes)
      (Change.lastAsked first changes) ∧
    ((empty name first).applyAll changes).StepsInLength := by
  refine ⟨?_, follows_of_holds (capacity_applyAll rfl changes) fun stream => ?_, stepsInLength _⟩
  · have hroom : reservable first = decide ((max first 3 + 1) * 16 < UInt64.size / 2) := rfl
    rw [create, hroom, Nat.max_comm]
    simp only [decide_eq_true_eq]
  · have hnew : Holds [] ((empty name first).samples stream) := by
      cases stream <;> exact .nil
    exact holds_applyAll hnew changes

end ChassisCooling.History
