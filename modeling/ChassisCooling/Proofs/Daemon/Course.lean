import ChassisCooling.Daemon.Program
import ChassisCooling.Proofs.Daemon.Loop
import Mathlib.Data.List.Chain

/-!
# Courses of the control loop

The program runs its control loop while files and devices change around it, signals arrive, and
requests to stop are made, in any order and number.

* `Happening`, `Loop.meet`: what may happen next.
* `Loop.follow`: a course of the loop, with its stages.
* `Loop.summoned_of_follow`: a complete request to stop is never lost.
* `Loop.startsIn_add_le`: after a request to stop only a tick that is due already starts.
* `Loop.isChain_marks`: starts and ends of ticks alternate.
-/

namespace ChassisCooling.Daemon

/-! ## Courses -/

/-- What happens to the program: a step of the loop or of those who make requests, or a change of
the machine by itself. -/
inductive Happening where
  | event (e : Event)
  | change (machine : Machine)

/-- One happening, with what it meets and what it leaves. -/
structure Stage where
  before : Loop Service
  happening : Happening
  after : Loop Service

namespace Happening

def completes : Happening → Bool
  | .event e => e.completes
  | .change _ => false

def starts : Happening → Bool
  | .event e => e.starts
  | .change _ => false

def mark? : Happening → Option Mark
  | .event e => e.mark?
  | .change _ => none

end Happening

/-- How many ticks start. -/
def startsIn (stages : List Stage) : Nat := stages.countP fun s => s.happening.starts

/-- Where ticks start and finish, in order. -/
def marksOf (stages : List Stage) : List Mark := stages.filterMap fun s => s.happening.mark?

theorem startsIn_cons (s : Stage) (rest : List Stage) :
    startsIn (s :: rest) = s.happening.starts.toNat + startsIn rest := by
  unfold startsIn
  rw [List.countP_cons, Nat.add_comm]
  cases s.happening.starts <;> rfl

theorem marksOf_cons (s : Stage) (rest : List Stage) :
    marksOf (s :: rest) = s.happening.mark?.toList ++ marksOf rest := by
  unfold marksOf
  rw [List.filterMap_cons]
  cases s.happening.mark? <;> rfl

namespace Loop

/-- What a happening leaves, if it is possible. -/
def meet (l : Loop Service) : Happening → Option (Loop Service)
  | .event e => l.step Service.work e
  | .change machine => some { l with state.machine := machine }

/-- The stages of a course, and what it leaves, if all that happens is possible. -/
def follow (l : Loop Service) : List Happening → Option (List Stage × Loop Service)
  | [] => some ([], l)
  | x :: xs => do
    let after ← l.meet x
    let (stages, last) ← after.follow xs
    return (⟨l, x, after⟩ :: stages, last)

theorem follow_nil_eq_some_iff {l last : Loop Service} {stages : List Stage} :
    l.follow [] = some (stages, last) ↔ stages = [] ∧ last = l := by
  simp [follow, eq_comm]

theorem follow_cons_eq_some_iff {l last : Loop Service} {x : Happening} {xs : List Happening}
    {stages : List Stage} :
    l.follow (x :: xs) = some (stages, last) ↔
      ∃ after rest, l.meet x = some after ∧ after.follow xs = some (rest, last) ∧
        stages = ⟨l, x, after⟩ :: rest := by
  simp only [follow, Option.bind_eq_bind, Option.bind_eq_some_iff, Option.pure_def,
    Option.some.injEq, Prod.mk.injEq, Prod.exists]
  constructor
  · rintro ⟨after, hmeet, rest, last, hrest, rfl, rfl⟩
    exact ⟨after, rest, hmeet, hrest, rfl⟩
  · rintro ⟨after, rest, hmeet, hrest, rfl⟩
    exact ⟨after, hmeet, rest, last, hrest, rfl, rfl⟩

variable {l l' last : Loop Service} {x : Happening} {xs : List Happening} {stages : List Stage}

/-- What every step of a course keeps, the whole course keeps. -/
theorem follow_keeps {I : Loop Service → Prop}
    (hkeep : ∀ {l l' : Loop Service} {x : Happening}, l.meet x = some l' → I l → I l')
    (h : l.follow xs = some (stages, last)) (hl : I l) : I last := by
  induction xs generalizing l stages with
  | nil =>
    obtain ⟨-, rfl⟩ := follow_nil_eq_some_iff.1 h
    exact hl
  | cons x xs ih =>
    obtain ⟨after, rest, hmeet, hrest, -⟩ := follow_cons_eq_some_iff.1 h
    exact ih hrest (hkeep hmeet hl)

theorem steps_of_meet {e : Event} (h : l.meet (.event e) = some l') :
    l.Steps Service.work e l' :=
  step_eq_some_iff.1 h

/-! ## Requests to stop -/

theorem Flagged.meet (h : l.meet x = some l') (hl : l.Flagged) : l'.Flagged := by
  cases x with
  | event e => exact (steps_of_meet h).flagged hl
  | change machine =>
    cases h
    exact ⟨hl.of_requests, hl.of_requesting⟩

theorem Summoned.meet (h : l.meet x = some l') (hl : l.Summoned) : l'.Summoned := by
  cases x with
  | event e => exact (steps_of_meet h).summoned hl
  | change machine =>
    cases h
    exact ⟨hl.shutdown, hl.noticed⟩

theorem summoned_of_meet (h : l.meet x = some l') (hl : l.Flagged) (hx : x.completes = true) :
    l'.Summoned := by
  cases x with
  | event e => exact (steps_of_meet h).summoned_of_completes hl hx
  | change machine => cases hx

/-- After a complete request to stop the loop is summoned, whatever happens later. -/
theorem summoned_of_follow (h : l.follow xs = some (stages, last)) (hl : l.Flagged)
    (hstage : ∃ s ∈ stages, s.happening.completes = true) : last.Summoned := by
  induction xs generalizing l stages with
  | nil =>
    obtain ⟨rfl, -⟩ := follow_nil_eq_some_iff.1 h
    obtain ⟨s, hs, -⟩ := hstage
    cases hs
  | cons x xs ih =>
    obtain ⟨after, rest, hmeet, hrest, rfl⟩ := follow_cons_eq_some_iff.1 h
    obtain ⟨s, hs, hcompletes⟩ := hstage
    rcases List.mem_cons.1 hs with rfl | hs
    · exact follow_keeps Summoned.meet hrest (summoned_of_meet hmeet hl hcompletes)
    · exact ih hrest (hl.meet hmeet) ⟨s, hs, hcompletes⟩

/-! ## Ticks -/

theorem starts_add_le_of_meet (h : l.meet x = some l') (hflag : l.shutdown = true) :
    l'.shutdown = true ∧ x.starts.toNat + l'.dueTicks ≤ l.dueTicks := by
  cases x with
  | event e =>
    have hsteps := steps_of_meet h
    exact ⟨hsteps.shutdown hflag, hsteps.starts_add_le hflag⟩
  | change machine =>
    cases h
    exact ⟨hflag, Nat.le_of_eq (Nat.zero_add _)⟩

/-- Once the flag is set, no tick starts any more but one that is due already. -/
theorem startsIn_add_le (h : l.follow xs = some (stages, last)) (hflag : l.shutdown = true) :
    startsIn stages + last.dueTicks ≤ l.dueTicks := by
  induction xs generalizing l stages with
  | nil =>
    obtain ⟨rfl, rfl⟩ := follow_nil_eq_some_iff.1 h
    exact Nat.le_of_eq (Nat.zero_add _)
  | cons x xs ih =>
    obtain ⟨after, rest, hmeet, hrest, rfl⟩ := follow_cons_eq_some_iff.1 h
    obtain ⟨hflag, hstep⟩ := starts_add_le_of_meet hmeet hflag
    have hcourse := ih hrest hflag
    rw [startsIn_cons]
    show x.starts.toNat + startsIn rest + last.dueTicks ≤ l.dueTicks
    omega

theorem mark_of_meet (h : l.meet x = some l') :
    match x.mark? with
    | some m => l.lastMark ≠ m ∧ l'.lastMark = m
    | none => l'.lastMark = l.lastMark := by
  cases x with
  | event e => exact (steps_of_meet h).mark
  | change machine =>
    cases h
    rfl

/-- Starts and ends of ticks alternate. -/
theorem isChain_marks (h : l.follow xs = some (stages, last)) :
    (l.lastMark :: marksOf stages).IsChain (· ≠ ·) := by
  induction xs generalizing l stages with
  | nil =>
    obtain ⟨rfl, -⟩ := follow_nil_eq_some_iff.1 h
    exact .singleton _
  | cons x xs ih =>
    obtain ⟨after, rest, hmeet, hrest, rfl⟩ := follow_cons_eq_some_iff.1 h
    have hmark := mark_of_meet hmeet
    have hcourse := ih hrest
    rw [marksOf_cons]
    cases hx : x.mark? with
    | none =>
      rw [hx] at hmark
      rwa [hmark] at hcourse
    | some m =>
      rw [hx] at hmark
      obtain ⟨hne, heq⟩ := hmark
      rw [heq] at hcourse
      exact .cons_cons hne hcourse

end Loop

end ChassisCooling.Daemon
