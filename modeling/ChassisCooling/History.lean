import ChassisCooling.Config.Basic
import ChassisCooling.Json.Value

/-!
# Bounded histories

Every fan, sensor and zone keeps two streams of samples: values read back ("measured") and values
written ("commanded"). Both keep at most `capacity` samples, the newest ones, oldest first.

* `keepNewest`: the end of a list.
* `History.create`, `recordMeasured`, `recordCommanded`, `setCapacity`: the operations.
* `History.lastMeasured`, `nthFromEnd`, …: what is looked up.
-/

namespace ChassisCooling

/-- One value at one time. -/
structure Sample where
  timestamp : Timestamp
  value : Single
  deriving DecidableEq

/-- The two streams of a history. -/
inductive Stream where
  | measured
  | commanded
  deriving DecidableEq

def Stream.name : Stream → String
  | .measured => "measured"
  | .commanded => "commanded"

/-- The last `n` elements of a list, or all of a shorter one. -/
def keepNewest {α : Type} (n : Nat) (xs : List α) : List α := xs.drop (xs.length - n)

theorem length_keepNewest {α : Type} (n : Nat) (xs : List α) :
    (keepNewest n xs).length = min xs.length n := by
  simp only [keepNewest, List.length_drop]
  omega

theorem length_keepNewest_le {α : Type} (n : Nat) (xs : List α) :
    (keepNewest n xs).length ≤ n := by
  rw [length_keepNewest]; omega

/-- The measured and commanded samples of one object. -/
structure History where
  name : String
  capacity : Nat
  /-- Oldest first. -/
  measured : List Sample
  /-- Oldest first. -/
  commanded : List Sample
  min_le_capacity : minHistoryCapacity ≤ capacity
  measured_le : measured.length ≤ capacity
  commanded_le : commanded.length ≤ capacity

namespace History

/-- The capacity that is used where one is asked for. -/
def allowedCapacity (asked : Nat) : Nat := max asked minHistoryCapacity

/-- A history without samples. -/
def empty (name : String) (capacity : Nat) : History where
  name := name
  capacity := allowedCapacity capacity
  measured := []
  commanded := []
  min_le_capacity := Nat.le_max_right ..
  measured_le := Nat.zero_le _
  commanded_le := Nat.zero_le _

/-- The room that a sample takes, in bytes. -/
def sampleBytes : Nat := 16

/-- Each stream reserves room for one sample beyond its capacity. What is reserved has to stay below
half the range of 64 bits. The sum is that of a build that checks for overflow: the largest 64-bit
capacity is refused like those below it, where unchecked arithmetic would wrap the sum to zero and
reserve nothing. -/
def reservable (capacity : Nat) : Bool :=
  (allowedCapacity capacity + 1) * sampleBytes < UInt64.size / 2

/-- A new history, if there can be room for it. -/
def create (name : String) (capacity : Nat) : Except Breach History :=
  if reservable capacity then .ok (empty name capacity) else .error .historyTooLarge

theorem create_eq_ok {name : String} {capacity : Nat} {h : History}
    (hc : create name capacity = .ok h) : h = empty name capacity := by
  unfold create at hc
  split at hc
  · exact (Except.ok.inj hc).symm
  · cases hc

/-- The same history with another capacity; the oldest samples are dropped if it shrinks. -/
def setCapacity (h : History) (capacity : Nat) : History where
  name := h.name
  capacity := allowedCapacity capacity
  measured := keepNewest (allowedCapacity capacity) h.measured
  commanded := keepNewest (allowedCapacity capacity) h.commanded
  min_le_capacity := Nat.le_max_right ..
  measured_le := length_keepNewest_le ..
  commanded_le := length_keepNewest_le ..

/-- The history after one more measured sample. -/
def recordMeasured (h : History) (now : Timestamp) (value : Single) : History :=
  { h with
    measured := keepNewest h.capacity (h.measured ++ [⟨now, value⟩])
    measured_le := length_keepNewest_le .. }

/-- The history after one more commanded sample. -/
def recordCommanded (h : History) (now : Timestamp) (value : Single) : History :=
  { h with
    commanded := keepNewest h.capacity (h.commanded ++ [⟨now, value⟩])
    commanded_le := length_keepNewest_le .. }

def lastMeasuredSample (h : History) : Option Sample := h.measured.getLast?

def lastCommandedSample (h : History) : Option Sample := h.commanded.getLast?

def lastMeasured (h : History) : Option Single := h.lastMeasuredSample.map Sample.value

def lastCommanded (h : History) : Option Single := h.lastCommandedSample.map Sample.value

/-- The `n`-th newest measured value, counted from one. -/
def nthFromEnd (h : History) (n : Nat) : Option Single :=
  if n = 0 then none else h.measured.reverse[n - 1]?.map Sample.value

end History

/-- A sample as a JSON value. -/
def Sample.toValue (s : Sample) : Json.Value :=
  .object [("timestamp", .double s.timestamp), ("value", .single s.value)]

/-- A history as a JSON value. -/
def History.toValue (h : History) : Json.Value :=
  .object
    [("name", .string h.name), ("measured", .array (h.measured.map Sample.toValue)),
      ("commanded", .array (h.commanded.map Sample.toValue))]

end ChassisCooling
