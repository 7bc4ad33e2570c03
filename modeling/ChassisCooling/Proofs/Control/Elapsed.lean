import ChassisCooling.Proofs.Control.Access
import ChassisCooling.Proofs.Control.Gap
import ChassisCooling.Proofs.Control.Routing

/-!
# What a tick measures

A tick measures from the clock reading of the tick right before it, whoever gave that tick its
elapsed time and whatever was done in between. An elapsed time that the caller gives holds for its
own tick and is forgotten with it.

* `lastTime`: the clock at the last of several operations that is a tick.
* `Controller.KeepsTime`: both of the controller's times are that reading.
* `Event.Measures`: what an event does to the times; `System.step_measures`: every operation does.
* `System.run_elapsed`: all events of a new controller.
-/

namespace ChassisCooling

open Binary

/-- What a gap below the bound counts as. A gap that is no number is none. -/
theorem Duration.ofSeconds?_maxNum_zero {gap : Double} (h : ¬secondsBound ≤ gap) :
    ofSeconds? (gap.maxNum (ofNat 0)) = some (ofGap gap) := by
  cases hnum : gap.isNaN with
  | false => exact (ofSeconds?_gap hnum h).2.2
  | true =>
    rw [ofGap_of_isNaN hnum, maxNum_of_isNaN_left hnum]
    decide +kernel

section Times

variable {World Probe Drive Outlet : Type} {P : Platform World Probe Drive Outlet}

/-- What the clock shows at a tick. -/
def Operation.time? : Operation World Probe Drive Outlet → Option Timestamp
  | .tick now _ => some now
  | _ => none

/-- What the clock showed at the last tick among some operations. -/
def lastTime (ops : List (Operation World Probe Drive Outlet)) : Option Timestamp :=
  (ops.filterMap Operation.time?).getLast?

/-- The controller measures from a time, and tells that the last tick was then. -/
structure Controller.KeepsTime (c : Controller Probe Drive Outlet) (time : Option Timestamp) :
    Prop where
  lastTick : c.lastTick = time
  tickedAt : c.tickedAt = time

/-- What an event does to the times, if the last tick before it was at a time. -/
structure Event.Measures (e : Event World Probe Drive Outlet) (last : Option Timestamp) :
    Prop where
  before : e.before.controller.KeepsTime last
  /-- A tick keeps its own time, whatever elapsed time it uses; nothing else changes the times. -/
  after : e.after.controller.KeepsTime (e.operation.time?.or last)
  elapsed_eq : e.operation.time? = none →
    e.after.controller.elapsed = e.before.controller.elapsed
  /-- The elapsed time of a tick is the one that it is given, or else the gap since the last tick,
  as a duration. -/
  tick : ∀ now options, e.operation = .tick now options →
    ∃ report, e.outcome = .ticked report ∧ report.now = now ∧
      e.after.controller.elapsed = report.elapsed ∧
      (∀ given, options.elapsed = some given → report.elapsed = given) ∧
      ∀ previous, options.elapsed = none → last = some previous →
        ¬Duration.secondsBound ≤ now - previous →
          Duration.ofSeconds? ((now - previous).maxNum (ofNat 0)) = some report.elapsed

namespace System

variable {s s' : System World Probe Drive Outlet} {op : Operation World Probe Drive Outlet}
  {outcome : Outcome} {log : Log Drive Outlet} {last : Option Timestamp}

/-! ## One operation -/

theorem step_tick_measures {now : Timestamp} {options : TickOptions Probe Drive}
    (hs : s.controller.KeepsTime last)
    (h : s.step P (.tick now options) = .ok (outcome, s', log)) :
    Event.Measures ⟨.tick now options, s, outcome, log, s'⟩ last := by
  rw [step_tick_eq] at h
  obtain ⟨r, -, heq⟩ := map_eq_ok_iff.1 h
  cases heq
  refine ⟨hs, ⟨rfl, rfl⟩, nofun, ?_⟩
  rintro _ _ ⟨⟩
  refine ⟨_, rfl, rfl, rfl, ?_, ?_⟩
  · intro given hgiven
    show options.elapsed.getD _ = given
    rw [hgiven, Option.getD_some]
  · intro previous hnone hlast hbound
    show _ = some (options.elapsed.getD (s.controller.elapsedAt now))
    rw [hnone, Option.getD_none, Controller.elapsedAt_eq (hs.lastTick.trans hlast)]
    exact Duration.ofSeconds?_maxNum_zero hbound

/-- Only a tick changes the times. -/
theorem step_times_eq (hop : op.time? = none) (h : s.step P op = .ok (outcome, s', log)) :
    s'.controller.lastTick = s.controller.lastTick ∧
      s'.controller.tickedAt = s.controller.tickedAt ∧
      s'.controller.elapsed = s.controller.elapsed := by
  cases op with
  | tick now options => cases hop
  | change | withOutlet =>
    cases h
    exact ⟨rfl, rfl, rfl⟩
  | load zone members =>
    obtain ⟨z, heq, -⟩ := Controller.exists_load_eq s.controller zone members
    rw [step_load, heq] at h
    cases h
    exact ⟨rfl, rfl, rfl⟩
  | reconfigure config =>
    rw [step_reconfigure] at h
    cases hvalid : config.validate <;> rw [hvalid] at h <;> cases h <;> exact ⟨rfl, rfl, rfl⟩
  | recordTemperature sensor now value =>
    obtain ⟨z, heq, -⟩ := Controller.exists_recordTemperature_eq s.controller sensor now value
    unfold step at h
    simp only [heq] at h
    cases h
    exact ⟨rfl, rfl, rfl⟩
  | recordSpeed fan now value =>
    obtain ⟨z, heq, -⟩ := Controller.exists_recordSpeed_eq s.controller fan now value
    unfold step at h
    simp only [heq] at h
    cases h
    exact ⟨rfl, rfl, rfl⟩

theorem step_measures (hs : s.controller.KeepsTime last)
    (h : s.step P op = .ok (outcome, s', log)) :
    Event.Measures ⟨op, s, outcome, log, s'⟩ last := by
  cases hop : op.time? with
  | none =>
    obtain ⟨hlast, htold, helapsed⟩ := step_times_eq hop h
    refine ⟨hs, ?_, fun _ => helapsed, ?_⟩
    · show s'.controller.KeepsTime (op.time?.or last)
      rw [hop, Option.none_or]
      exact ⟨hlast.trans hs.lastTick, htold.trans hs.tickedAt⟩
    · rintro now options rfl
      cases hop
  | some now =>
    cases op with
    | tick now options => exact step_tick_measures hs h
    | change | load | reconfigure | withOutlet | recordTemperature | recordSpeed => cases hop

/-! ## Runs -/

/-- By induction on the operations: the last tick before an event is the last one among them, or
else the one before the run. -/
theorem run_measures {ops : List (Operation World Probe Drive Outlet)}
    {events : List (Event World Probe Drive Outlet)} (hs : s.controller.KeepsTime last)
    (h : s.run P ops = .ok events) {i : Nat} {e : Event World Probe Drive Outlet}
    (he : events[i]? = some e) : e.Measures ((lastTime (ops.take i)).or last) := by
  induction ops generalizing s last events i with
  | nil =>
    cases h
    cases he
  | cons op ops ih =>
    obtain ⟨outcome, s', log, later, hstep, hlater, rfl⟩ := run_cons_eq_ok_iff.1 h
    have hfirst := step_measures hs hstep
    cases i with
    | zero =>
      cases he
      exact hfirst
    | succ i =>
      rw [List.take_succ_cons, lastTime, getLast?_filterMap_cons_or]
      exact ih hfirst.after hlater he

/-- Whatever happens to a new controller and its world, in any order and with any movement of the
clock, both times of the controller are the clock reading of the last tick, which only a tick
changes. A tick without an elapsed time of its own, if it is not the first, uses the gap since the
clock reading of the tick right before it, and no less than none: that tick's own elapsed time, the
configurations in between and what became of exports do not matter. -/
theorem run_elapsed {config : Config} {c : Controller Probe Drive Outlet}
    (hcreate : Controller.create config = .ok c) (w : World)
    (ops : List (Operation World Probe Drive Outlet)) :
    ∃ events, (System.mk c w).run P ops = .ok events ∧ events.map Event.operation = ops ∧
      ∀ (i : Nat) (e : Event World Probe Drive Outlet), events[i]? = some e →
        e.Measures (lastTime (ops.take i)) := by
  obtain ⟨events, hrun⟩ :=
    exists_run_eq_ok (P := P) (s := ⟨c, w⟩) (Controller.settled_create hcreate) ops
  have hnew : c.KeepsTime none := by
    obtain ⟨-, -, elapsed, -, rfl⟩ := Controller.create_eq_ok_iff.1 hcreate
    exact ⟨rfl, rfl⟩
  refine ⟨events, hrun, map_operation_of_run hrun, fun i e he => ?_⟩
  rw [← Option.or_none (o := lastTime (ops.take i))]
  exact run_measures hnew hrun he

end System

end Times

/-- A tick that is told to count as five seconds, a shorter interval, a refused configuration, a
tick 12.5 seconds later, a clock that goes back, and a tick a minute after that. -/
theorem System.run_elapsed_of_turned_clock :
    let tick (now : Timestamp) (elapsed : Option Duration) :
        Operation Machine Probe Drive Recorder := .tick now { elapsed := elapsed }
    let every (seconds : Nat) : Config := { Config.default with intervalSecs := ofNat seconds }
    let ops := [tick (ofNat 1000) (some ⟨5000000000, by decide⟩), .reconfigure (every 10),
      .reconfigure (every 0), tick (ofDecimal false 10125 (-1)) none, tick (ofNat 990) none,
      tick (ofNat 1050) none]
    ∃ (c : Controller Probe Drive Recorder) (events : List (Event Machine Probe Drive Recorder)),
      Controller.create .default = .ok c ∧
      (System.mk c Machine.blank).run Machine.platform ops = .ok events ∧
      (events.map fun e => e.outcome.report?.map fun r => r.elapsed.nanoseconds) =
        [some 5000000000, none, none, some 12500000000, some 0, some 60000000000] ∧
      ∀ (i : Nat) (e : Event Machine Probe Drive Recorder), events[i]? = some e →
        e.Measures (lastTime (ops.take i)) := by
  intro tick every ops
  obtain ⟨c, hcreate, htimes⟩ : ∃ c : Controller Probe Drive Recorder,
      Controller.create .default = .ok c ∧
        ((System.mk c Machine.blank).run Machine.platform ops).toOption.map (fun events =>
          events.map fun e => e.outcome.report?.map fun r => r.elapsed.nanoseconds) =
          some [some 5000000000, none, none, some 12500000000, some 0, some 60000000000] :=
    ⟨_, Controller.create_default, by decide +kernel⟩
  obtain ⟨events, hrun, -, hevents⟩ :=
    run_elapsed (P := Machine.platform) hcreate Machine.blank ops
  rw [hrun] at htimes
  exact ⟨c, events, hcreate, hrun, Option.some.inj htimes, hevents⟩

end ChassisCooling
