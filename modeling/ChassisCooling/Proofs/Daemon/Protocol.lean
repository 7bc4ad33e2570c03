import ChassisCooling.Proofs.Daemon.Course
import ChassisCooling.Proofs.Daemon.Reload

/-!
# What the running program keeps to

Whatever happens to the running program, and in whatever order, its ticks do not overlap, a request
to stop is noticed, and every tick runs under the configuration that was taken last.

* `Service.Under`: what the service works with under a configuration.
* `Stage.taken?`, `configAfter`: the configuration that was taken last.
* `Loop.stage_of_follow`: every stage of a course works under it.
* `Orderly`: what a course keeps to; `orderly_of_start`: every course does.
-/

namespace ChassisCooling.Daemon

/-! ## Configurations -/

namespace Service

/-- What the service works with under a configuration. -/
structure Under (config : Config) (s : Service) : Prop where
  settled : s.controller.Settled
  config_eq : s.controller.config = config

variable {s s' : Service} {config : Config} {now : Timestamp}

theorem tick_eq_some_iff :
    s.tick now = some s' ↔ ∃ report controller machine,
      s.controller.tick Machine.platform s.machine now { refresh := true } =
          .ok (report, controller, machine) ∧
        s' = { s with controller, machine } := by
  unfold tick
  split
  · next report controller machine h => simp [h, eq_comm]
  · next b h => simp [h]

theorem Under.tick (hs : s.Under config) (h : s.tick now = some s') : s'.Under config := by
  obtain ⟨report, controller, machine, htick, rfl⟩ := tick_eq_some_iff.1 h
  have hsettled := hs.settled.tick htick
  obtain ⟨z, rfl, -⟩ := Controller.exists_tick_eq htick
  exact ⟨hsettled, hs.config_eq⟩

/-- A valid configuration lets every tick come to an end. -/
theorem Under.exists_tick (hs : s.Under config) (now : Timestamp) : ∃ s', s.tick now = some s' := by
  have hvalid := hs.settled.valid
  rw [← hs.settled.config_eq] at hvalid
  obtain ⟨⟨report, controller, machine⟩, htick⟩ :=
    Controller.exists_tick_eq_ok Machine.platform hvalid s.machine now { refresh := true }
  exact ⟨_, tick_eq_some_iff.2 ⟨report, controller, machine, htick, rfl⟩⟩

/-- After a tick the loop waits, unless no timer runs as long as the configuration asks. -/
theorem Under.afterTick_eq (hs : s.Under config) :
    (∃ interval, config.interval = .ok interval ∧ Loop.afterTick work s = .waiting) ∨
      ∃ b, config.interval = .error b ∧ Loop.afterTick work s = .broken := by
  have hinterval : work.interval s = config.interval.toOption :=
    congrArg (fun c : Config => c.interval.toOption) hs.config_eq
  unfold Loop.afterTick
  rw [hinterval]
  cases config.interval with
  | ok interval => exact .inl ⟨interval, rfl, rfl⟩
  | error b => exact .inr ⟨b, rfl, rfl⟩

/-- A reload takes what is loaded, or leaves everything as it is. -/
theorem reload_eq (s : Service) :
    s.reload =
      match Config.load s.machine.files s.configPath with
      | .ok config => (.ok (), { s with controller := s.controller.withConfig config })
      | .error e => (.error e, s) := by
  have hupdate := (Proposal.file s.configPath s.machine.files).apply_update s.controller
  unfold Proposal.update Proposal.found at hupdate
  simp only at hupdate
  unfold reload
  rw [hupdate]
  cases Config.load s.machine.files s.configPath <;> rfl

theorem reload_fst (s : Service) :
    s.reload.1 = (Config.load s.machine.files s.configPath).map fun _ => () := by
  rw [reload_eq]
  cases Config.load s.machine.files s.configPath <;> rfl

theorem reload_snd_of_error {e : Error} (h : s.reload.1 = .error e) : s.reload.2 = s := by
  rw [reload_eq] at h ⊢
  cases hload : Config.load s.machine.files s.configPath with
  | ok config =>
    rw [hload] at h
    cases h
  | error e' => rfl

theorem Under.reload (hs : s.Under config) :
    s.reload.2.Under (((Config.load s.machine.files s.configPath).toOption).getD config) := by
  rw [reload_eq]
  cases hload : Config.load s.machine.files s.configPath with
  | ok taken =>
    have hvalid := Config.validate_eq_ok_iff.1 (Config.validate_of_load hload)
    exact ⟨Controller.settled_withConfig _ hvalid, rfl⟩
  | error e => exact hs

end Service

/-- The configuration that a stage takes, if it takes one: what the file holds at that moment. -/
def Stage.taken? (s : Stage) : Option Config :=
  match s.happening with
  | .event .takeHangup =>
    (Config.load s.before.state.machine.files s.before.state.configPath).toOption
  | _ => none

/-- The configuration that was taken last. -/
def configAfter (config : Config) (stages : List Stage) : Config :=
  ((stages.filterMap Stage.taken?).getLast?).getD config

theorem configAfter_cons (config : Config) (s : Stage) (rest : List Stage) :
    configAfter config (s :: rest) = configAfter (s.taken?.getD config) rest := by
  unfold configAfter
  rw [List.filterMap_cons]
  cases s.taken? with
  | none => rfl
  | some taken => rw [List.getLast?_cons, Option.getD_some, Option.getD_some]

namespace Loop

variable {l l' last : Loop Service} {x : Happening} {xs : List Happening} {stages : List Stage}
  {config : Config}

/-- The configuration stays, except where one is taken. -/
theorem under_of_meet (h : l.meet x = some l') (hl : l.state.Under config) :
    l'.state.Under ((Stage.mk l x l').taken?.getD config) := by
  cases x with
  | change machine =>
    cases h
    exact ⟨hl.settled, hl.config_eq⟩
  | event e =>
    cases steps_of_meet h with
    | finishTick hphase htick => exact hl.tick htick
    | takeHangup hphase hready => exact hl.reload
    | _ => exact hl

/-- Every stage of a course works under the configuration that was taken last before it. -/
theorem stage_of_follow (h : l.follow xs = some (stages, last)) (hl : l.state.Under config)
    {pre post : List Stage} {s : Stage} (hs : stages = pre ++ s :: post) :
    s.before.meet s.happening = some s.after ∧ s.before.state.Under (configAfter config pre) := by
  induction xs generalizing l stages pre config with
  | nil =>
    obtain ⟨rfl, -⟩ := follow_nil_eq_some_iff.1 h
    simp at hs
  | cons x xs ih =>
    obtain ⟨after, rest, hmeet, hrest, rfl⟩ := follow_cons_eq_some_iff.1 h
    cases pre with
    | nil =>
      obtain ⟨rfl, -⟩ := List.cons.inj hs
      exact ⟨hmeet, hl⟩
    | cons first pre =>
      obtain ⟨rfl, hrests⟩ := List.cons.inj hs
      rw [configAfter_cons]
      exact ih hrest (under_of_meet hmeet hl) hrests

theorem under_of_follow (h : l.follow xs = some (stages, last)) (hl : l.state.Under config) :
    last.state.Under (configAfter config stages) := by
  induction xs generalizing l stages config with
  | nil =>
    obtain ⟨rfl, rfl⟩ := follow_nil_eq_some_iff.1 h
    exact hl
  | cons x xs ih =>
    obtain ⟨after, rest, hmeet, hrest, rfl⟩ := follow_cons_eq_some_iff.1 h
    rw [configAfter_cons]
    exact ih hrest (under_of_meet hmeet hl)

theorem tick_of_meet {now : Timestamp} (h : l.meet (.event (.finishTick now)) = some l') :
    l.state.tick now = some l'.state := by
  cases steps_of_meet h with
  | finishTick hphase htick => exact htick

theorem state_of_meet_takeHangup (h : l.meet (.event .takeHangup) = some l') :
    l'.state = l.state.reload.2 := by
  cases steps_of_meet h with
  | takeHangup => rfl

/-- While a tick is under way, nothing but its end touches the controller. -/
theorem controller_of_meet (h : l.meet x = some l') (hphase : l.phase = .ticking)
    (hx : ∀ now, x ≠ .event (.finishTick now)) : l'.state.controller = l.state.controller := by
  cases x with
  | change machine =>
    cases h
    rfl
  | event e =>
    cases steps_of_meet h with
    | finishTick => exact absurd rfl (hx _)
    | takeHangup hwaiting =>
      rw [hphase] at hwaiting
      cases hwaiting
    | _ => rfl

end Loop

/-! ## Starting -/

theorem build_eq_ok {config : Config} {root : String} {t : Files.Tree}
    {c : Controller Probe Drive Recorder} (h : build config root t = .ok c) :
    c.Settled ∧ c.config = config := by
  unfold build at h
  obtain ⟨members, -, h⟩ := bind_eq_ok_iff.1 h
  obtain ⟨created, hcreate, h⟩ := bind_eq_ok_iff.1 h
  rw [mapError_eq_ok_iff] at hcreate
  obtain ⟨-, -, elapsed, -, rfl⟩ := Controller.create_eq_ok_iff.1 hcreate
  cases h
  refine ⟨(Controller.settled_create hcreate).load systemZone members, ?_⟩
  unfold Controller.load
  split <;> rfl

/-- The control loop of a program that is running. -/
def Started.loop? : Started → Option (Loop Service)
  | .running loop => some loop
  | .ended _ => none

theorem Started.loop?_eq_some_iff {s : Started} {l : Loop Service} :
    s.loop? = some l ↔ s = .running l := by
  cases s <;> simp [loop?]

/-- The running program begins at the check, under the configuration that it has loaded. -/
theorem start_eq_running {arguments : List String} {m : Machine} {l : Loop Service}
    (h : start arguments m = .running l) :
    ∃ config, Config.load m.files l.state.configPath = .ok config ∧ l = .start l.state ∧
      l.state.Under config := by
  unfold start at h
  split at h
  · cases h
  · cases h
  · cases h
  · next options _ =>
    unfold startWith at h
    split at h
    · cases h
    · next config hload =>
      split at h
      · cases h
      · split at h
        · cases h
        · cases h
        · next c hbuild =>
          cases h
          obtain ⟨hsettled, hconfig⟩ := build_eq_ok hbuild
          exact ⟨config, hload, rfl, hsettled, hconfig⟩

/-! ## The main result -/

/-- What a course from a configuration to the present keeps to. -/
structure Orderly (config : Config) (stages : List Stage) (here : Loop Service) : Prop where
  /-- Ticks do not overlap: the next one starts when the one before it has finished. -/
  alternate : (Mark.finished :: marksOf stages).IsChain (· ≠ ·)
  /-- During a tick nothing but its end touches the controller. -/
  controller_eq : ∀ s ∈ stages, s.before.phase = .ticking →
    (∀ now, s.happening ≠ .event (.finishTick now)) →
      s.after.state.controller = s.before.state.controller
  /-- Every tick can come to an end. The loop then waits, unless no timer runs as long as the
  configuration asks. -/
  exists_finish : here.phase = .ticking → ∀ now, ∃ next,
    here.step Service.work (.finishTick now) = some next ∧
      ((∃ interval, (configAfter config stages).interval = .ok interval ∧ next.phase = .waiting) ∨
        ∃ b, (configAfter config stages).interval = .error b ∧ next.phase = .broken)
  /-- Once the flag is set, at most one further tick starts, and only if the check was passed
  already. -/
  startsIn_le : here.shutdown = true → ∀ later stages' last,
    here.follow later = some (stages', last) →
      startsIn stages' ≤ if here.phase = .due then 1 else 0
  /-- After a complete request to stop, every wait can be left, and the check comes next. -/
  exists_wake : (∃ s ∈ stages, s.happening.completes = true) → here.phase = .waiting →
    ∃ next, here.step Service.work .takePermit = some next ∧ next.phase = .checking ∧
      next.shutdown = true
  /-- A tick runs under the configuration that was taken last, or else under the first one. -/
  tick : ∀ pre s post now, stages = pre ++ s :: post → s.happening = .event (.finishTick now) →
    s.before.state.tick now = some s.after.state ∧
      s.before.state.controller.config = configAfter config pre ∧
      s.before.state.controller.zone.config = configAfter config pre
  /-- A reload succeeds exactly if the configuration can be loaded, and changes nothing if it
  fails. -/
  reload : ∀ s ∈ stages, s.happening = .event .takeHangup →
    s.before.state.reload.1 =
        (Config.load s.before.state.machine.files s.before.state.configPath).map (fun _ => ()) ∧
      ∀ e, s.before.state.reload.1 = .error e → s.after.state = s.before.state

/-- Every course of the running program is orderly. The first configuration is the one that was
loaded at the start. -/
theorem orderly_of_start {arguments : List String} {m : Machine} {l here : Loop Service}
    {past : List Happening} {stages : List Stage} (hstart : start arguments m = .running l)
    (hpast : l.follow past = some (stages, here)) :
    Config.load m.files l.state.configPath = .ok l.state.controller.config ∧
      Orderly l.state.controller.config stages here := by
  obtain ⟨config, hload, hl, hunder⟩ := start_eq_running hstart
  rw [hunder.config_eq]
  refine ⟨hload, ?_⟩
  have hflagged : l.Flagged := hl ▸ Loop.flagged_start l.state
  have hmark : l.lastMark = .finished := by
    rw [hl]
    rfl
  have hstage : ∀ s ∈ stages, s.before.meet s.happening = some s.after := by
    intro s hs
    obtain ⟨pre, post, hsplit⟩ := List.append_of_mem hs
    exact (Loop.stage_of_follow hpast hunder hsplit).1
  exact
    { alternate := hmark ▸ Loop.isChain_marks hpast
      controller_eq := fun s hs => Loop.controller_of_meet (hstage s hs)
      exists_finish := by
        intro hphase now
        have hhere := Loop.under_of_follow hpast hunder
        obtain ⟨s', htick⟩ := hhere.exists_tick now
        exact ⟨_, Loop.step_eq_some_iff.2 (.finishTick hphase htick),
          (hhere.tick htick).afterTick_eq⟩
      startsIn_le := by
        intro hflag later stages' last hlater
        exact Nat.le_of_add_right_le (Loop.startsIn_add_le hlater hflag)
      exists_wake := by
        intro hcompletes hphase
        exact (Loop.summoned_of_follow hpast hflagged hcompletes).exists_takePermit hphase _
      tick := by
        intro pre s post now hsplit hs
        obtain ⟨hmeet, hconfig⟩ := Loop.stage_of_follow hpast hunder hsplit
        rw [hs] at hmeet
        refine ⟨Loop.tick_of_meet hmeet, hconfig.config_eq, ?_⟩
        exact hconfig.settled.config_eq.trans hconfig.config_eq
      reload := by
        intro s hs hreload
        have hmeet := hstage s hs
        rw [hreload] at hmeet
        rw [Loop.state_of_meet_takeHangup hmeet]
        exact ⟨s.before.state.reload_fst, fun e => Service.reload_snd_of_error⟩ }

/-- A reload raises the speed floor, the next one fails, and a request to stop comes between a check
and its tick. -/
theorem orderly_of_start_of_two_reloads :
    let machine (config : String) : Machine :=
      { Machine.blank with
        files :=
          { entries :=
              [(["work"], .directory), (["work", "hw"], .directory),
                (["work", "c"], .file config.toUTF8)]
            start := ["work"] } }
    let raised := machine "\x7b\"min_speed\": 45.0\x7d"
    let broken := machine "\x7b\"min_speed\": 450.0\x7d"
    let tick (seconds : Nat) : List Event :=
      [.check, .startTick, .finishTick (Binary.ofNat seconds)]
    let hangUp : List Event := [.hangupArrives, .takeHangup]
    let stop : List Event :=
      [.check, .requestStop, .startTick, .finishTick (Binary.ofNat 120), .wakeUp]
    let past : List Happening :=
      (tick 0).map .event ++ .change raised :: (hangUp ++ tick 60).map .event ++
        .change broken :: (hangUp ++ stop).map .event
    ∃ l stages here, start ["-c", "c", "-r", "hw"] (machine "\x7b\x7d") = .running l ∧
      l.follow past = some (stages, here) ∧ here.phase = .waiting ∧ here.shutdown = true ∧
      (configAfter l.state.controller.config stages).minSpeed = Binary.ofNat 45 ∧
      Config.load (machine "\x7b\x7d").files l.state.configPath = .ok l.state.controller.config ∧
      Orderly l.state.controller.config stages here := by
  intro machine raised broken tick hangUp stop past
  have hcourse : ((start ["-c", "c", "-r", "hw"] (machine "\x7b\x7d")).loop?.bind fun l =>
      (l.follow past).map fun course =>
        (course.2.phase, course.2.shutdown,
          (configAfter l.state.controller.config course.1).minSpeed)) =
        some (.waiting, true, Binary.ofNat 45) := by
    decide +kernel
  obtain ⟨l, hloop, hcourse⟩ := Option.bind_eq_some_iff.1 hcourse
  obtain ⟨⟨stages, here⟩, hpast, hend⟩ := Option.map_eq_some_iff.1 hcourse
  obtain ⟨hphase, hend⟩ := Prod.mk.inj hend
  obtain ⟨hflag, hfloor⟩ := Prod.mk.inj hend
  have hstart := Started.loop?_eq_some_iff.1 hloop
  exact ⟨l, stages, here, hstart, hpast, hphase, hflag, hfloor, orderly_of_start hstart hpast⟩

end ChassisCooling.Daemon
