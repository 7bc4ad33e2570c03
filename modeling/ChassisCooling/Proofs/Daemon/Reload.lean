import ChassisCooling.Daemon.Startup
import ChassisCooling.Proofs.Config.Load
import ChassisCooling.Proofs.Control.Reachable

/-!
# Configurations that are refused

A controller is asked to take a configuration, or what a file holds. The update works on the
controller itself, one field after the other, and yet a refused one leaves no trace: whatever is
asked of the controller later is answered as if the request had never been made.

* `Proposal`: a configuration that is proposed; `Proposal.found`: what is found of it.
* `Proposal.Unfit`: the reasons why one cannot be taken; `Proposal.found_eq_error_iff`.
* `Proposal.apply_update`: a proposal is taken as a whole or not at all.
* `System.serve`, `System.serveAll`: requests, and the answers to them.
* `System.refused_leaves_no_trace`: the main result.
-/

namespace ChassisCooling

section Requests

variable {World Probe Drive Outlet : Type} (P : Platform World Probe Drive Outlet)

/-! ## Proposals -/

/-- A configuration that a controller is to take: it is handed over, or a file is to hold it. -/
inductive Proposal where
  | direct (config : Config)
  | file (path : String) (files : Files.Tree)

namespace Proposal

/-- The configuration that is proposed, or why it cannot be taken. -/
def found : Proposal → Except Error Config
  | .direct config => config.validate.map fun _ => config
  | .file path files => Config.load files path

/-- Why a proposal cannot be taken, with the error that is reported: a field of a configuration that
is handed over fails its check, or the file is there and gives no configuration. -/
inductive Unfit : Proposal → Error → Prop where
  | direct {config : Config} {problem : Config.Problem} (h : config.check = .error problem) :
      Unfit (.direct config) problem.toError
  | file {path : String} {files : Files.Tree} {e : Error} (hholds : files.holds path)
      (h : Config.Unloadable files path e) : Unfit (.file path files) e

theorem found_eq_error_iff {p : Proposal} {e : Error} : p.found = .error e ↔ p.Unfit e := by
  cases p with
  | direct config =>
    show (config.validate.map fun _ => config) = .error e ↔ _
    rw [map_eq_error_iff, Config.validate_eq_error_iff]
    constructor
    · rintro ⟨problem, hcheck, rfl⟩
      exact .direct hcheck
    · intro h
      cases h with
      | direct hcheck => exact ⟨_, hcheck, rfl⟩
  | file path files =>
    show Config.load files path = .error e ↔ _
    rw [Config.load_eq_error_iff]
    constructor
    · rintro ⟨hholds, hreason⟩
      exact .file hholds hreason
    · intro h
      cases h with
      | file hholds hreason => exact ⟨hholds, hreason⟩

/-- What a proposal does to a controller. -/
def update : Proposal → Controller.Update Probe Drive Outlet Unit
  | .direct config => Controller.reconfigureInPlace config
  | .file path files => Daemon.reloadInPlace path files

/-- A proposal is taken as a whole, or the controller stays as it is. A file is checked when it is
loaded and again when it is taken, and the second check never disagrees with the first. -/
theorem apply_update (p : Proposal) (c : Controller Probe Drive Outlet) :
    (p.update : Controller.Update Probe Drive Outlet Unit).apply c =
      match p.found with
      | .ok config => (.ok (), c.withConfig config)
      | .error e => (.error e, c) := by
  cases p with
  | direct config =>
    show (Controller.reconfigureInPlace config).apply c =
      match config.validate.map fun _ => config with
      | .ok config => (.ok (), c.withConfig config)
      | .error e => (.error e, c)
    rw [Controller.apply_reconfigureInPlace]
    cases config.validate <;> rfl
  | file path files =>
    show (Daemon.reloadInPlace path files).apply c =
      match Config.load files path with
      | .ok config => (.ok (), c.withConfig config)
      | .error e => (.error e, c)
    unfold Daemon.reloadInPlace
    cases hload : Config.load files path with
    | error e => rfl
    | ok config =>
      show (Controller.reconfigureInPlace config).apply c = _
      rw [Controller.apply_reconfigureInPlace, Config.validate_of_load hload]

end Proposal

/-- In place a reload does what it does otherwise. -/
theorem Daemon.apply_reloadInPlace (path : String) (t : Files.Tree)
    (c : Controller Probe Drive Outlet) :
    (Daemon.reloadInPlace path t).apply c =
      match Daemon.reload path t c with
      | .ok c' => (.ok (), c')
      | .error e => (.error e, c) := by
  have hupdate := (Proposal.file path t).apply_update c
  unfold Daemon.reload
  cases hload : Config.load t path with
  | error e =>
    have hfound : (Proposal.file path t).found = .error e := hload
    rwa [hfound] at hupdate
  | ok config =>
    have hfound : (Proposal.file path t).found = .ok config := hload
    have hvalid := Config.validate_eq_ok_iff.1 (Config.validate_of_load hload)
    rw [hfound] at hupdate
    show _ = match c.reconfigure config with
      | .ok c' => (Except.ok (), c')
      | .error e => (Except.error e, c)
    rwa [Controller.reconfigure_eq_ok hvalid]

/-! ## Requests -/

/-- What is asked of a controller and of its world. -/
inductive Request (World Probe Drive Outlet : Type) where
  | operate (op : Operation World Probe Drive Outlet)
  | propose (p : Proposal)

def Outcome.ofResult : Except Error Unit → Outcome
  | .ok () => .none
  | .error e => .refused e

namespace System

/-- What comes of one request. -/
def serve (s : System World Probe Drive Outlet) :
    Request World Probe Drive Outlet →
      Except Breach (Outcome × System World Probe Drive Outlet × Log Drive Outlet)
  | .operate op => s.step P op
  | .propose p =>
    let (result, controller) := p.update.apply s.controller
    .ok (.ofResult result, { s with controller }, .empty)

/-- What is told and asked for on a list of requests, and what they leave. -/
def serveAll (s : System World Probe Drive Outlet) :
    List (Request World Probe Drive Outlet) →
      Except Breach (List (Outcome × Log Drive Outlet) × System World Probe Drive Outlet)
  | [] => .ok ([], s)
  | r :: rs => do
    let (outcome, s, log) ← s.serve P r
    let (answers, s) ← s.serveAll rs
    return ((outcome, log) :: answers, s)

variable {P}

theorem serve_propose (s : System World Probe Drive Outlet) (p : Proposal) :
    s.serve P (.propose p) =
      match p.found with
      | .ok config =>
        .ok (.none, { s with controller := s.controller.withConfig config }, .empty)
      | .error e => .ok (.refused e, s, .empty) := by
  unfold serve
  simp only
  rw [Proposal.apply_update]
  cases p.found <;> rfl

/-- To hand a configuration over is the operation of that kind. -/
theorem serve_propose_direct (s : System World Probe Drive Outlet) (config : Config) :
    s.serve P (.propose (.direct config)) = s.step P (.reconfigure config) := by
  rw [serve_propose]
  unfold Proposal.found step
  simp only
  rw [Controller.reconfigure_eq]
  cases config.validate <;> rfl

theorem serve_eq_refused_iff {s s' : System World Probe Drive Outlet} {p : Proposal} {e : Error}
    {log : Log Drive Outlet} :
    s.serve P (.propose p) = .ok (.refused e, s', log) ↔
      p.found = .error e ∧ s' = s ∧ log = .empty := by
  rw [serve_propose]
  cases p.found <;> simp [eq_comm]

theorem serve_eq_taken_iff {s s' : System World Probe Drive Outlet} {p : Proposal}
    {log : Log Drive Outlet} :
    s.serve P (.propose p) = .ok (.none, s', log) ↔
      ∃ config, p.found = .ok config ∧
        s' = { s with controller := s.controller.withConfig config } ∧ log = .empty := by
  rw [serve_propose]
  cases p.found <;> simp [eq_comm]

theorem serveAll_cons_of_serve {s s' : System World Probe Drive Outlet}
    {r : Request World Probe Drive Outlet} {outcome : Outcome} {log : Log Drive Outlet}
    (h : s.serve P r = .ok (outcome, s', log)) (rs : List (Request World Probe Drive Outlet)) :
    s.serveAll P (r :: rs) =
      (s'.serveAll P rs).map fun (answers, last) => ((outcome, log) :: answers, last) := by
  show (s.serve P r).bind _ = _
  rw [h]
  show (s'.serveAll P rs).bind _ = _
  cases s'.serveAll P rs <;> rfl

/-- A proposal is refused exactly if nothing was found that can be taken, for that reason, which is
a file that cannot be read, a text of another form or a field that fails its check. It then leaves
everything as it was, and all later requests are answered as they would have been without it.
Otherwise the controller and its zone hold what was found. -/
theorem refused_leaves_no_trace (s : System World Probe Drive Outlet) (p : Proposal) :
    (∀ e, p.found = .error e ↔ p.Unfit e) ∧
    (∀ e, p.found = .error e ↔
      ∃ s' log, s.serve P (.propose p) = .ok (.refused e, s', log)) ∧
    (∀ e s' log, s.serve P (.propose p) = .ok (.refused e, s', log) →
      s' = s ∧ ∀ later, s.serveAll P (.propose p :: later) =
        (s.serveAll P later).map fun (answers, last) => ((.refused e, log) :: answers, last)) ∧
    ∀ config, p.found = .ok config ↔
      ∃ s' log, s.serve P (.propose p) = .ok (.none, s', log) ∧ s'.controller.config = config ∧
        s'.controller.zone.config = config := by
  refine ⟨fun e => Proposal.found_eq_error_iff, ?_, ?_, ?_⟩
  · intro e
    simp only [serve_eq_refused_iff]
    exact ⟨fun h => ⟨s, .empty, h, rfl, rfl⟩, fun ⟨_, _, h, _⟩ => h⟩
  · intro e s' log hserve
    obtain ⟨-, rfl, -⟩ := serve_eq_refused_iff.1 hserve
    exact ⟨rfl, serveAll_cons_of_serve hserve⟩
  · intro config
    constructor
    · intro h
      exact ⟨_, _, serve_eq_taken_iff.2 ⟨config, h, rfl, rfl⟩, rfl, Zone.config_reconfigure ..⟩
    · rintro ⟨s', log, hserve, rfl, -⟩
      obtain ⟨config, h, rfl, -⟩ := serve_eq_taken_iff.1 hserve
      exact h

end System

end Requests

/-- A file that asks for a speed floor of 450 percent. -/
theorem System.refused_leaves_no_trace_of_high_floor :
    let text := "\x7b\"min_speed\": 450.0\x7d"
    let p := Proposal.file "c" ⟨[(["c"], .file text.toUTF8)], []⟩
    let e := Error.invalidConfig "min_speed" "450 is not a percentage (0.0-100.0)"
    ∃ c : Controller Probe Drive Recorder, Controller.create .default = .ok c ∧
      (System.mk c Machine.blank).serve Machine.platform (.propose p) =
        .ok (.refused e, ⟨c, .blank⟩, .empty) ∧
      ∀ later, (System.mk c Machine.blank).serveAll Machine.platform (.propose p :: later) =
        ((System.mk c Machine.blank).serveAll Machine.platform later).map fun (answers, last) =>
          ((.refused e, .empty) :: answers, last) := by
  intro text p e
  have hfound : p.found = .error e := by
    have hreason : p.found.map (fun _ => ()) = .error e := by decide +kernel
    cases hp : p.found with
    | ok config =>
      rw [hp] at hreason
      cases hreason
    | error e' =>
      rw [hp] at hreason
      rw [Except.error.inj hreason]
  obtain ⟨c, hc⟩ : ∃ c : Controller Probe Drive Recorder, Controller.create .default = .ok c :=
    ⟨_, Controller.create_default⟩
  have hserve : (System.mk c Machine.blank).serve Machine.platform (.propose p) =
      .ok (.refused e, ⟨c, .blank⟩, .empty) :=
    serve_eq_refused_iff.2 ⟨hfound, rfl, rfl⟩
  obtain ⟨-, -, hlater, -⟩ := refused_leaves_no_trace (P := Machine.platform) ⟨c, .blank⟩ p
  exact ⟨c, hc, hserve, (hlater e _ _ hserve).2⟩

end ChassisCooling
