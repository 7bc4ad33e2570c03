import ChassisCooling.Config.Basic

/-!
# The control loop

The loop checks whether it is to stop, runs one tick, and waits for something that wakes it: the
timer, a stored wake-up, or a signal. It breaks off where the timer cannot be set. Requests from
outside arrive at any moment; each is kept until the loop takes it, and repeated ones count once. A
request to stop comes in two halves: it sets a flag that the check looks at, and then it stores a
wake-up.

* `Loop`: where the loop stands, and what has arrived.
* `Loop.step`: one step of the loop or of its surroundings, if it is possible.
* `Loop.run`: several steps, where no tick that is due is put off.
-/

namespace ChassisCooling.Daemon

/-- Where the loop stands. -/
inductive Phase where
  | checking
  /-- The check has been passed, and the tick has not begun. -/
  | due
  | ticking
  | waiting
  /-- Between the two halves of a request to stop that the loop makes itself. -/
  | requesting
  | stopped
  /-- The loop broke off: no timer runs as long as it was to wait. -/
  | broken
  deriving DecidableEq

structure Loop (σ : Type) where
  phase : Phase
  state : σ
  /-- The loop is to stop. -/
  shutdown : Bool
  /-- A wake-up that was not taken yet. -/
  permit : Bool
  /-- How many requests to stop from outside are between their halves. -/
  requests : Nat
  /-- The timer of this wait has run out. -/
  expired : Bool
  /-- A hang-up signal that was not taken yet. -/
  hangup : Bool
  /-- A termination signal that was not taken yet. -/
  terminate : Bool

/-- What the loop works with: a tick at a time of the clock, the time to wait after it, if a timer
can run that long, and a reload, which tells what came of it and what it leaves. -/
structure Work (σ : Type) where
  tick : Timestamp → σ → Option σ
  interval : σ → Option Duration
  reload : σ → Except Error Unit × σ

inductive Event where
  /-- The first half of a request to stop, from outside. -/
  | requestStop
  /-- The second half of a request to stop. -/
  | wakeUp
  | hangupArrives
  | terminateArrives
  | timerExpires
  | check
  | startTick
  | finishTick (now : Timestamp)
  | timeout
  | takePermit
  | takeTerminate
  /-- The second half of the loop's own request to stop. -/
  | finishRequest
  | takeHangup
  deriving DecidableEq

namespace Loop

variable {σ : Type}

/-- A loop before its first check. -/
def start (state : σ) : Loop σ := ⟨.checking, state, false, false, 0, false, false, false⟩

/-- Where the loop stands when a tick is done. -/
def afterTick (work : Work σ) (state : σ) : Phase :=
  if (work.interval state).isSome then .waiting else .broken

/-- The loop at the end of a wait, whose timer is of no use any more. -/
def leaveWait (l : Loop σ) (phase : Phase) : Loop σ := { l with phase, expired := false }

/-- One step, if it is possible where the loop stands. -/
def step (work : Work σ) (l : Loop σ) : Event → Option (Loop σ)
  | .requestStop => some { l with shutdown := true, requests := l.requests + 1 }
  | .wakeUp =>
    if 0 < l.requests then some { l with permit := true, requests := l.requests - 1 } else none
  | .hangupArrives => some { l with hangup := true }
  | .terminateArrives => some { l with terminate := true }
  | .timerExpires => if l.phase = .waiting then some { l with expired := true } else none
  | .check =>
    if l.phase = .checking then
      some { l with phase := if l.shutdown then .stopped else .due }
    else none
  | .startTick => if l.phase = .due then some { l with phase := .ticking } else none
  | .finishTick now =>
    if l.phase = .ticking then
      (work.tick now l.state).map fun state => { l with phase := afterTick work state, state }
    else none
  | .timeout => if l.phase = .waiting ∧ l.expired then some (l.leaveWait .checking) else none
  | .takePermit =>
    if l.phase = .waiting ∧ l.permit then some { l.leaveWait .checking with permit := false }
    else none
  | .takeTerminate =>
    if l.phase = .waiting ∧ l.terminate then
      some { l.leaveWait .requesting with terminate := false, shutdown := true }
    else none
  | .finishRequest =>
    if l.phase = .requesting then some { l with phase := .checking, permit := true } else none
  | .takeHangup =>
    if l.phase = .waiting ∧ l.hangup then
      some { l.leaveWait .checking with hangup := false, state := (work.reload l.state).2 }
    else none

/-- The loop with a tick under way that was due. -/
def proceed (l : Loop σ) : Loop σ := if l.phase = .due then { l with phase := .ticking } else l

/-- Steps one after the other, if all are possible. A tick starts as soon as it is due. -/
def run (work : Work σ) (l : Loop σ) (events : List Event) : Option (Loop σ) :=
  events.foldlM (fun l e => (l.step work e).map proceed) l

end Loop

end ChassisCooling.Daemon
