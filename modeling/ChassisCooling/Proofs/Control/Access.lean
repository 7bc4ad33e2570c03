import ChassisCooling.Proofs.Control.Reachable

/-!
# Ticks past the controller

A caller may also reach through a controller to its zone and tick the zone by itself. Then the zone
does what it does in any tick, at a time that the caller gives, while the controller neither takes
note of the time nor hands out rows.

* `Access`: an operation on the controller, or a tick past it.
* `System.access`, `System.perform`: what comes of one access, and of a list of them.
* `System.step_tick_eq`, `System.access_runZone_eq`: a tick of either kind in terms of its zone's.
-/

namespace ChassisCooling

/-- What is done to a controller: one of its operations, or a tick of its zone past it. -/
inductive Access (World Probe Drive Outlet : Type) where
  | operate (op : Operation World Probe Drive Outlet)
  | runZone (tick : Tick) (offered : Option (Members Probe Drive)) (refresh : Bool)

/-- One access, with what it answered, what it asked of the platform and what it left. -/
structure AccessEvent (World Probe Drive Outlet : Type) where
  access : Access World Probe Drive Outlet
  outcome : Outcome
  log : Log Drive Outlet
  after : System World Probe Drive Outlet

variable {World Probe Drive Outlet : Type}

/-- What came of an access. -/
def AccessEvent.result (e : AccessEvent World Probe Drive Outlet) :
    Outcome × System World Probe Drive Outlet × Log Drive Outlet :=
  (e.outcome, e.after, e.log)

namespace System

section Accesses

variable (P : Platform World Probe Drive Outlet)

/-- What comes of one access: an answer, the next system, and what the platform was asked to do. -/
def access (s : System World Probe Drive Outlet) :
    Access World Probe Drive Outlet →
      Except Breach (Outcome × System World Probe Drive Outlet × Log Drive Outlet)
  | .operate op => s.step P op
  | .runZone tick offered refresh => do
    let (report, zone, world, log) ←
      s.controller.zone.run P.logged (s.world, .empty) tick offered refresh
    return (.ticked ⟨tick.now, tick.elapsed, report⟩, ⟨{ s.controller with zone }, world⟩, log)

/-- The events of a list of accesses, each of which meets what the one before it left. -/
def perform (s : System World Probe Drive Outlet) :
    List (Access World Probe Drive Outlet) →
      Except Breach (List (AccessEvent World Probe Drive Outlet))
  | [] => .ok []
  | a :: as => do
    let (outcome, after, log) ← s.access P a
    let events ← after.perform as
    return ⟨a, outcome, log, after⟩ :: events

/-! ## Ticks of either kind -/

/-- A tick of the zone, kept and handed out by the controller. -/
theorem step_tick_eq (s : System World Probe Drive Outlet) (now : Timestamp)
    (options : TickOptions Probe Drive) :
    s.step P (.tick now options) =
      (s.controller.zone.run P s.world
        ⟨now, options.elapsed.getD (s.controller.elapsedAt now)⟩
        (options.members.lookup s.controller.zone.name) options.refresh).map fun r =>
          let c := { s.controller with
            lastTick := some now
            tickedAt := some now
            elapsed := options.elapsed.getD (s.controller.elapsedAt now)
            zone := r.2.1 }
          (.ticked ⟨now, c.elapsed, r.1⟩, ⟨c, c.exportRows P r.2.2⟩,
            ⟨(s.controller.commandedFans options).map fun f => (f.drive, r.1.speed),
              c.deliveries⟩) := by
  show (s.controller.tick P.logged (s.world, .empty) now options).bind _ = _
  rw [Controller.tick_logged, Controller.tick_eq]
  cases s.controller.zone.run P s.world _ _ _ <;> rfl

/-- A tick of the zone alone. -/
theorem access_runZone_eq (s : System World Probe Drive Outlet) (tick : Tick)
    (offered : Option (Members Probe Drive)) (refresh : Bool) :
    s.access P (.runZone tick offered refresh) =
      (s.controller.zone.run P s.world tick offered refresh).map fun r =>
        (.ticked ⟨tick.now, tick.elapsed, r.1⟩,
          ⟨{ s.controller with zone := r.2.1 }, r.2.2⟩,
          Log.empty.command ((s.controller.zone.load (offered.getD .empty)).fans.map fun f =>
            (f.drive, r.1.speed))) := by
  show (s.controller.zone.run P.logged (s.world, .empty) tick offered refresh).bind _ = _
  rw [Zone.run_logged]
  cases s.controller.zone.run P s.world tick offered refresh <;> rfl

end Accesses

/-! ## Runs -/

variable {P : Platform World Probe Drive Outlet} {s s' : System World Probe Drive Outlet}
  {a : Access World Probe Drive Outlet} {outcome : Outcome} {log : Log Drive Outlet}

theorem perform_cons_eq_ok_iff {as : List (Access World Probe Drive Outlet)}
    {events : List (AccessEvent World Probe Drive Outlet)} :
    s.perform P (a :: as) = .ok events ↔
      ∃ outcome s' log later, s.access P a = .ok (outcome, s', log) ∧
        s'.perform P as = .ok later ∧ events = ⟨a, outcome, log, s'⟩ :: later := by
  constructor
  · intro h
    obtain ⟨⟨outcome, s', log⟩, haccess, h⟩ := bind_eq_ok_iff.1 h
    obtain ⟨later, hlater, h⟩ := bind_eq_ok_iff.1 h
    exact ⟨outcome, s', log, later, haccess, hlater, (Except.ok.inj h).symm⟩
  · rintro ⟨outcome, s', log, later, haccess, hlater, rfl⟩
    exact bind_eq_ok_iff.2 ⟨_, haccess, bind_eq_ok_iff.2 ⟨later, hlater, rfl⟩⟩

/-- The results of several accesses are that of the first and those of the others. -/
theorem results_perform_cons (s : System World Probe Drive Outlet)
    (a : Access World Probe Drive Outlet) (as : List (Access World Probe Drive Outlet)) :
    (s.perform P (a :: as)).map (List.map AccessEvent.result) =
      s.access P a >>= fun r =>
        ((r.2.1.perform P as).map (List.map AccessEvent.result)).map (r :: ·) := by
  show ((s.access P a).bind _).map _ = _
  cases s.access P a with
  | error b => rfl
  | ok r =>
    show ((r.2.1.perform P as).bind _).map _ = ((r.2.1.perform P as).map _).map _
    cases r.2.1.perform P as <;> rfl

theorem map_access_of_perform {as : List (Access World Probe Drive Outlet)}
    {events : List (AccessEvent World Probe Drive Outlet)} (h : s.perform P as = .ok events) :
    events.map AccessEvent.access = as := by
  induction as generalizing s events with
  | nil =>
    cases h
    rfl
  | cons a as ih =>
    obtain ⟨outcome, s', log, later, -, hlater, rfl⟩ := perform_cons_eq_ok_iff.1 h
    rw [List.map_cons, ih hlater]

theorem access_settled (hs : s.controller.Settled) (h : s.access P a = .ok (outcome, s', log)) :
    s'.controller.Settled := by
  cases a with
  | operate op => exact step_settled hs h
  | runZone tick offered refresh =>
    rw [access_runZone_eq] at h
    cases hrun : s.controller.zone.run P s.world tick offered refresh with
    | error b =>
      rw [hrun] at h
      cases h
    | ok r =>
      obtain ⟨-, -, -, hconfig⟩ := Zone.of_run_eq_ok P hrun
      rw [hrun] at h
      cases h
      exact hs.withZone hconfig

/-- Every access to a controller with a valid configuration comes to an end. -/
theorem exists_access_eq_ok (hs : s.controller.Settled)
    (a : Access World Probe Drive Outlet) : ∃ r, s.access P a = .ok r := by
  cases a with
  | operate op => exact exists_step_eq_ok hs op
  | runZone tick offered refresh =>
    have hvalid : s.controller.zone.config.Valid := hs.config_eq ▸ hs.valid
    obtain ⟨r, hrun, -⟩ := Zone.exists_run_eq_ok P hvalid s.world tick offered refresh
    rw [access_runZone_eq, hrun]
    exact ⟨_, rfl⟩

theorem exists_perform_eq_ok (hs : s.controller.Settled)
    (as : List (Access World Probe Drive Outlet)) : ∃ events, s.perform P as = .ok events := by
  induction as generalizing s with
  | nil => exact ⟨[], rfl⟩
  | cons a as ih =>
    obtain ⟨⟨outcome, s', log⟩, haccess⟩ := exists_access_eq_ok (P := P) hs a
    obtain ⟨later, hlater⟩ := ih (access_settled hs haccess)
    exact ⟨_, perform_cons_eq_ok_iff.2 ⟨_, _, _, _, haccess, hlater, rfl⟩⟩

end System

end ChassisCooling
