import ChassisCooling.Daemon.Loop

/-!
# Steps of the control loop

The loop's own steps, the requests to stop and the signals interleave in any order. What holds of
every single step is stated here, so that it holds of every interleaving.

* `Loop.Steps`: the steps as a relation, one rule for each; `Loop.step_eq_some_iff`,
  `Loop.exists_steps_of_run`: what the program does is made of them.
* `Loop.Flagged`: a request to stop that is half made has set its flag.
* `Loop.Summoned`: a request to stop is complete, and nothing can make the loop miss it.
* `Loop.Steps.starts_add_le`: once the flag is set, only a tick that is due already can start.
* `Loop.Steps.mark`: a tick starts when none is under way, and only that one can finish.
-/

namespace ChassisCooling.Daemon

namespace Event

/-- The second half of a request to stop. -/
def completes : Event → Bool
  | .wakeUp | .finishRequest => true
  | _ => false

def starts : Event → Bool
  | .startTick => true
  | _ => false

end Event

/-- The start and the end of a tick. -/
inductive Mark where
  | started
  | finished
  deriving DecidableEq

def Event.mark? : Event → Option Mark
  | .startTick => some .started
  | .finishTick _ => some .finished
  | _ => none

variable {σ : Type} {work : Work σ}

namespace Loop

variable {l l' : Loop σ} {e : Event}

theorem afterTick_ne {phase : Phase} (hwaiting : phase ≠ .waiting) (hbroken : phase ≠ .broken)
    (state : σ) : afterTick work state ≠ phase := by
  unfold afterTick
  split
  · exact hwaiting.symm
  · exact hbroken.symm

/-- One step of the loop or of its surroundings. -/
inductive Steps (work : Work σ) (l : Loop σ) : Event → Loop σ → Prop where
  | requestStop : Steps work l .requestStop { l with shutdown := true, requests := l.requests + 1 }
  | wakeUp (h : 0 < l.requests) :
      Steps work l .wakeUp { l with permit := true, requests := l.requests - 1 }
  | hangupArrives : Steps work l .hangupArrives { l with hangup := true }
  | terminateArrives : Steps work l .terminateArrives { l with terminate := true }
  | timerExpires (h : l.phase = .waiting) : Steps work l .timerExpires { l with expired := true }
  | stop (h : l.phase = .checking) (hflag : l.shutdown = true) :
      Steps work l .check { l with phase := .stopped }
  | goOn (h : l.phase = .checking) (hflag : l.shutdown = false) :
      Steps work l .check { l with phase := .due }
  | startTick (h : l.phase = .due) : Steps work l .startTick { l with phase := .ticking }
  | finishTick {now : Timestamp} {state : σ} (h : l.phase = .ticking)
      (htick : work.tick now l.state = some state) :
      Steps work l (.finishTick now) { l with phase := afterTick work state, state }
  | timeout (h : l.phase = .waiting) (hready : l.expired = true) :
      Steps work l .timeout (l.leaveWait .checking)
  | takePermit (h : l.phase = .waiting) (hready : l.permit = true) :
      Steps work l .takePermit { l.leaveWait .checking with permit := false }
  | takeTerminate (h : l.phase = .waiting) (hready : l.terminate = true) :
      Steps work l .takeTerminate
        { l.leaveWait .requesting with terminate := false, shutdown := true }
  | finishRequest (h : l.phase = .requesting) :
      Steps work l .finishRequest { l with phase := .checking, permit := true }
  | takeHangup (h : l.phase = .waiting) (hready : l.hangup = true) :
      Steps work l .takeHangup
        { l.leaveWait .checking with hangup := false, state := (work.reload l.state).2 }

theorem step_eq_some_iff : l.step work e = some l' ↔ l.Steps work e l' := by
  constructor
  · intro h
    cases e <;> simp only [step, Option.ite_none_right_eq_some, Option.some.injEq,
      Option.map_eq_some_iff] at h
    case requestStop => exact h ▸ .requestStop
    case wakeUp => exact h.2 ▸ .wakeUp h.1
    case hangupArrives => exact h ▸ .hangupArrives
    case terminateArrives => exact h ▸ .terminateArrives
    case timerExpires => exact h.2 ▸ .timerExpires h.1
    case check =>
      obtain ⟨hphase, rfl⟩ := h
      by_cases hflag : l.shutdown = true
      · rw [if_pos hflag]
        exact .stop hphase hflag
      · rw [if_neg hflag]
        exact .goOn hphase (Bool.eq_false_iff.2 hflag)
    case startTick => exact h.2 ▸ .startTick h.1
    case finishTick =>
      obtain ⟨hphase, state, htick, rfl⟩ := h
      exact .finishTick hphase htick
    case timeout => exact h.2 ▸ .timeout h.1.1 h.1.2
    case takePermit => exact h.2 ▸ .takePermit h.1.1 h.1.2
    case takeTerminate => exact h.2 ▸ .takeTerminate h.1.1 h.1.2
    case finishRequest => exact h.2 ▸ .finishRequest h.1
    case takeHangup => exact h.2 ▸ .takeHangup h.1.1 h.1.2
  · intro h
    cases h <;> simp [step, *]

/-- A run without delay is a list of steps, which has a start of a tick wherever one is due. -/
theorem exists_steps_of_run {events : List Event} (h : l.run work events = some l') :
    ∃ events' : List Event, events'.foldlM (step work) l = some l' ∧
      events'.filter (fun e => !e.starts) = events.filter fun e => !e.starts := by
  induction events generalizing l with
  | nil => exact ⟨[], h, rfl⟩
  | cons e events ih =>
    obtain ⟨next, hnext, h⟩ := Option.bind_eq_some_iff.1 h
    obtain ⟨l₁, hstep, rfl⟩ := Option.map_eq_some_iff.1 hnext
    obtain ⟨events', hrun, hfilter⟩ := ih h
    by_cases hdue : l₁.phase = .due
    · have hstart : l₁.step work .startTick = some l₁.proceed := by
        unfold proceed
        rw [if_pos hdue]
        exact step_eq_some_iff.2 (.startTick hdue)
      refine ⟨e :: .startTick :: events', ?_, ?_⟩
      · rw [List.foldlM_cons, hstep]
        show (List.foldlM (step work) l₁ (.startTick :: events')) = some l'
        rw [List.foldlM_cons, hstart]
        exact hrun
      · rw [List.filter_cons, List.filter_cons, List.filter_cons, hfilter]
        rfl
    · have hproceed : l₁.proceed = l₁ := if_neg hdue
      rw [hproceed] at hrun
      refine ⟨e :: events', ?_, ?_⟩
      · rw [List.foldlM_cons, hstep]
        exact hrun
      · rw [List.filter_cons, List.filter_cons, hfilter]

/-! ## Requests to stop -/

/-- A request to stop that is between its halves has set the flag. -/
structure Flagged (l : Loop σ) : Prop where
  of_requests : 0 < l.requests → l.shutdown = true
  of_requesting : l.phase = .requesting → l.shutdown = true

theorem flagged_start (state : σ) : (start state).Flagged := by
  constructor
  · intro h
    exact absurd h (Nat.lt_irrefl 0)
  · intro h
    cases h

/-- The flag stays. -/
theorem Steps.shutdown (h : l.Steps work e l') (hflag : l.shutdown = true) :
    l'.shutdown = true := by
  cases h with
  | requestStop | takeTerminate => rfl
  | _ => exact hflag

theorem Steps.flagged (h : l.Steps work e l') (hl : l.Flagged) : l'.Flagged := by
  obtain ⟨hrequests, hrequesting⟩ := hl
  cases h with
  | requestStop => exact ⟨fun _ => rfl, fun _ => rfl⟩
  | wakeUp hpos => exact ⟨fun _ => hrequests hpos, hrequesting⟩
  | takeTerminate => exact ⟨fun _ => rfl, fun _ => rfl⟩
  | hangupArrives | terminateArrives | timerExpires => exact ⟨hrequests, hrequesting⟩
  | finishTick =>
    exact ⟨hrequests, fun h => absurd h (afterTick_ne (by decide) (by decide) _)⟩
  | stop | goOn | startTick | timeout | takePermit | finishRequest | takeHangup =>
    exact ⟨hrequests, nofun⟩

/-- A request to stop is complete: the flag is set, and the loop will look at it, since it is on
its way to the check or its next wait cannot last. -/
structure Summoned (l : Loop σ) : Prop where
  shutdown : l.shutdown = true
  noticed : l.permit = true ∨ l.phase = .checking ∨ l.phase = .stopped

theorem Steps.summoned (h : l.Steps work e l') (hl : l.Summoned) : l'.Summoned := by
  obtain ⟨hflag, hnoticed⟩ := hl
  refine ⟨h.shutdown hflag, ?_⟩
  cases h with
  | requestStop | hangupArrives | terminateArrives | timerExpires => exact hnoticed
  | wakeUp | finishRequest => exact .inl rfl
  | stop => exact .inr (.inr rfl)
  | timeout | takePermit | takeHangup => exact .inr (.inl rfl)
  | goOn _ hclear =>
    rw [hflag] at hclear
    cases hclear
  | startTick hphase | finishTick hphase | takeTerminate hphase =>
    -- Here the loop is neither at the check nor stopped, so the wake-up is what is left.
    rw [hphase] at hnoticed
    exact .inl (hnoticed.resolve_right (by simp))

theorem Steps.summoned_of_completes (h : l.Steps work e l') (hl : l.Flagged)
    (he : e.completes = true) : l'.Summoned := by
  cases h with
  | wakeUp hpos => exact ⟨hl.of_requests hpos, .inl rfl⟩
  | finishRequest hphase => exact ⟨hl.of_requesting hphase, .inl rfl⟩
  | _ => cases he

/-- A loop that is to stop never waits without something that ends the wait, and after the wait it
is at the check. -/
theorem Summoned.exists_takePermit (hl : l.Summoned) (hphase : l.phase = .waiting)
    (work : Work σ) :
    ∃ l', l.step work .takePermit = some l' ∧ l'.phase = .checking ∧ l'.shutdown = true := by
  have hpermit : l.permit = true := hl.noticed.resolve_right (by simp [hphase])
  exact ⟨_, step_eq_some_iff.2 (.takePermit hphase hpermit), rfl, hl.shutdown⟩

/-! ## Ticks -/

/-- The number of ticks that are due. -/
def dueTicks (l : Loop σ) : Nat := if l.phase = .due then 1 else 0

/-- Once the flag is set, no further tick becomes due. -/
theorem Steps.starts_add_le (h : l.Steps work e l') (hflag : l.shutdown = true) :
    e.starts.toNat + l'.dueTicks ≤ l.dueTicks := by
  cases h with
  | requestStop | wakeUp | hangupArrives | terminateArrives =>
    exact Nat.le_of_eq (Nat.zero_add _)
  | timerExpires => exact Nat.le_of_eq (Nat.zero_add _)
  | goOn _ hclear =>
    rw [hflag] at hclear
    cases hclear
  | startTick hphase => simp [dueTicks, hphase, Event.starts]
  | finishTick =>
    simp [dueTicks, Event.starts, afterTick_ne (show Phase.due ≠ .waiting by decide)]
  | stop | timeout | takePermit | takeTerminate | finishRequest | takeHangup =>
    exact Nat.zero_le _

/-- The mark that was set last. -/
def lastMark (l : Loop σ) : Mark := if l.phase = .ticking then .started else .finished

theorem Steps.mark (h : l.Steps work e l') :
    match e.mark? with
    | some m => l.lastMark ≠ m ∧ l'.lastMark = m
    | none => l'.lastMark = l.lastMark := by
  cases h with
  | requestStop | wakeUp | hangupArrives | terminateArrives => rfl
  | timerExpires => rfl
  | startTick hphase => simp [Event.mark?, lastMark, hphase]
  | finishTick hphase =>
    simp [Event.mark?, lastMark, hphase, afterTick_ne (show Phase.ticking ≠ .waiting by decide)]
  | stop hphase | goOn hphase | timeout hphase | takePermit hphase | takeTerminate hphase
  | finishRequest hphase | takeHangup hphase =>
    simp [Event.mark?, lastMark, leaveWait, hphase]

end Loop

end ChassisCooling.Daemon
