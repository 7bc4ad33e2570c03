import ChassisCooling.Proofs.Control.Frame

/-!
# Writes

Each tick asks every fan of a zone, once and in order, for the one speed. A write that fails is
counted and is missing from that fan's record, and from no other.

* `Platform.witnessed`: a platform that keeps what was written and whether that succeeded.
* `Zone.map_writesTo`, `Zone.failed_commandAll`, `Zone.histories_commandAll`: what is asked of the
  fans, how the failures are counted, and what the fans record.
* `Zone.run_witnessed`, `Zone.run_writes`: a tick and its writes.
-/

namespace ChassisCooling

/-- One write that was asked for, and whether it succeeded. -/
structure Write (Drive : Type) where
  drive : Drive
  speed : Single
  succeeded : Bool

variable {World Probe Drive Outlet : Type}

/-- The platform with a list of what was written beside its world, oldest first. -/
def Platform.witnessed (P : Platform World Probe Drive Outlet) :
    Platform (World × List (Write Drive)) Probe Drive Outlet where
  probeName := P.probeName
  temperature probe w := P.temperature probe w.1
  limits probe w := P.limits probe w.1
  driveName := P.driveName
  speed drive w := P.speed drive w.1
  setSpeed drive speed w :=
    let (result, drive', w') := P.setSpeed drive speed w.1
    (result, drive', (w', w.2 ++ [⟨drive, speed, result.isOk⟩]))
  deliver destination zone rows w :=
    let (result, w') := P.deliver destination zone rows w.1
    (result, (w', w.2))

variable (P : Platform World Probe Drive Outlet)

/-! ## Writes to several fans -/

theorem Fan.command_witnessed (w : World) (ws : List (Write Drive)) (now : Timestamp)
    (speed : Single) (f : Fan Drive) :
    f.command P.witnessed (w, ws) now speed =
      let (written, f', w') := f.command P w now speed
      (written, f', (w', ws ++ [⟨f.drive, speed, written⟩])) := by
  rcases hset : P.setSpeed f.drive speed w with ⟨result, drive, w'⟩
  unfold command Platform.witnessed
  simp only [hset]
  cases result <;> rfl

theorem Fan.history_command (w : World) (now : Timestamp) (speed : Single) (f : Fan Drive) :
    (f.command P w now speed).2.1.history =
      if (f.command P w now speed).1 then f.history.recordCommanded now speed else f.history := by
  unfold command
  split <;> rfl

namespace Zone

/-- The writes of one speed to several fans. -/
def writesTo (now : Timestamp) (speed : Single) : List (Fan Drive) → World → List (Write Drive)
  | [], _ => []
  | f :: fs, w =>
    let (written, _, w') := f.command P w now speed
    ⟨f.drive, speed, written⟩ :: writesTo now speed fs w'

theorem commandAll_witnessed (now : Timestamp) (speed : Single) (fs : List (Fan Drive)) (w : World)
    (ws : List (Write Drive)) :
    commandAll P.witnessed now speed fs (w, ws) =
      let (failed, fs', w') := commandAll P now speed fs w
      (failed, fs', (w', ws ++ writesTo P now speed fs w)) := by
  induction fs generalizing w ws with
  | nil => simp [commandAll, writesTo]
  | cons f fs ih =>
    rw [commandAll_cons, commandAll_cons, Fan.command_witnessed]
    simp only
    rw [ih]
    simp only [writesTo, List.append_assoc, List.cons_append, List.nil_append]

/-- Later fans meet the world that the earlier ones left. -/
theorem commandAll_append (now : Timestamp) (speed : Single) (fs gs : List (Fan Drive))
    (w : World) :
    commandAll P now speed (fs ++ gs) w =
      let first := commandAll P now speed fs w
      let rest := commandAll P now speed gs first.2.2
      (first.1 + rest.1, first.2.1 ++ rest.2.1, rest.2.2) := by
  induction fs generalizing w with
  | nil => simp [commandAll]
  | cons f fs ih =>
    rw [List.cons_append, commandAll_cons, commandAll_cons]
    simp only [ih, List.cons_append]
    split
    · rfl
    · rw [Nat.add_right_comm]

/-- A write that fails counts as one, and its fan keeps its history. -/
theorem commandAll_of_error {now : Timestamp} {speed : Single} {before : List (Fan Drive)}
    {f : Fan Drive} {w w' : World} {e : Error} {drive : Drive}
    (h : P.setSpeed f.drive speed (commandAll P now speed before w).2.2 = (.error e, drive, w'))
    (after : List (Fan Drive)) :
    commandAll P now speed (before ++ f :: after) w =
      let first := commandAll P now speed before w
      let rest := commandAll P now speed after w'
      (first.1 + 1 + rest.1, first.2.1 ++ ⟨drive, f.history⟩ :: rest.2.1, rest.2.2) := by
  have hcommand : f.command P (commandAll P now speed before w).2.2 now speed =
      (false, ⟨drive, f.history⟩, w') := by
    unfold Fan.command
    rw [h]
  rw [commandAll_append]
  simp only [commandAll_cons, hcommand, Bool.false_eq_true, if_false]
  rw [Nat.add_assoc, Nat.add_comm 1]

/-- Every fan is asked once, in order, for the one speed. -/
theorem map_writesTo (now : Timestamp) (speed : Single) (fs : List (Fan Drive)) (w : World) :
    (writesTo P now speed fs w).map (fun write => (write.drive, write.speed)) =
      fs.map fun f => (f.drive, speed) := by
  induction fs generalizing w with
  | nil => rfl
  | cons f fs ih => exact congrArg (List.cons _) (ih _)

/-- The count is that of the writes that failed. -/
theorem failed_commandAll (now : Timestamp) (speed : Single) (fs : List (Fan Drive)) (w : World) :
    (commandAll P now speed fs w).1 =
      (writesTo P now speed fs w).countP fun write => !write.succeeded := by
  induction fs generalizing w with
  | nil => rfl
  | cons f fs ih =>
    rw [commandAll_cons, writesTo]
    simp only
    rw [ih, List.countP_cons]
    cases (f.command P w now speed).1 <;> rfl

/-- A fan's record depends on its own write alone. -/
theorem histories_commandAll (now : Timestamp) (speed : Single) (fs : List (Fan Drive))
    (w : World) :
    (commandAll P now speed fs w).2.1.map Fan.history =
      List.zipWith (fun h write => if write.succeeded then h.recordCommanded now speed else h)
        (fs.map Fan.history) (writesTo P now speed fs w) := by
  induction fs generalizing w with
  | nil => rfl
  | cons f fs ih =>
    rw [commandAll_cons, writesTo]
    simp only [List.map_cons, List.zipWith_cons_cons]
    rw [ih, Fan.history_command]

theorem length_writesTo (now : Timestamp) (speed : Single) (fs : List (Fan Drive)) (w : World) :
    (writesTo P now speed fs w).length = fs.length := by
  have h := congrArg List.length (map_writesTo P now speed fs w)
  rwa [List.length_map, List.length_map] at h

/-! ## Ticks -/

/-- The writes of a tick that reports a speed. -/
def writesOf (z : Zone Probe Drive) (w : World) (now : Timestamp)
    (offered : Option (Members Probe Drive)) (refresh : Bool) (speed : Single) :
    List (Write Drive) :=
  writesTo P now speed (z.prepared P w now offered refresh).fans w

theorem conclude_witnessed (z : Zone Probe Drive) (w : World) (ws : List (Write Drive))
    (tick : Tick) (last : Single) :
    z.conclude P.witnessed (w, ws) tick last =
      let (report, z', w') := z.conclude P w tick last
      (report, z', (w', ws ++ writesTo P tick.now report.speed z.fans w)) := by
  unfold conclude
  simp only
  rw [commandAll_witnessed]
  rfl

/-- A tick does what it does without witness, and its writes are known. -/
theorem run_witnessed (z : Zone Probe Drive) (w : World) (ws : List (Write Drive)) (tick : Tick)
    (offered : Option (Members Probe Drive)) (refresh : Bool) :
    z.run P.witnessed (w, ws) tick offered refresh =
      (z.run P w tick offered refresh).map fun (report, z', w') =>
        (report, z', (w', ws ++ z.writesOf P w tick.now offered refresh report.speed)) := by
  have hprepared : z.prepared P.witnessed (w, ws) tick.now offered refresh =
      z.prepared P w tick.now offered refresh := rfl
  rw [run_eq, run_eq, hprepared]
  cases (z.prepared P w tick.now offered refresh).startingSpeed with
  | error b => rfl
  | ok last =>
    simp only [Except.map]
    rw [conclude_witnessed]
    rfl

/-- What a tick does to its zone. -/
theorem run_writes {z z' : Zone Probe Drive} {w w' : World} {tick : Tick}
    {offered : Option (Members Probe Drive)} {refresh : Bool} {report : ZoneReport}
    (h : z.run P w tick offered refresh = .ok (report, z', w')) :
    z'.isInitialized = true ∧ z'.speed = z.speed.recordCommanded tick.now report.speed ∧
      report.failedWrites =
        (z.writesOf P w tick.now offered refresh report.speed).countP (fun write =>
          !write.succeeded) ∧
      z'.fans.map Fan.history =
        List.zipWith
          (fun h write => if write.succeeded then h.recordCommanded tick.now report.speed else h)
          ((z.prepared P w tick.now offered refresh).fans.map Fan.history)
          (z.writesOf P w tick.now offered refresh report.speed) := by
  have hspeed : (z.prepared P w tick.now offered refresh).speed = z.speed := by
    unfold prepared
    split <;> rfl
  rw [run_eq] at h
  cases hlast : (z.prepared P w tick.now offered refresh).startingSpeed with
  | error b =>
    rw [hlast] at h
    cases h
  | ok last =>
    rw [hlast] at h
    obtain ⟨rfl, hrest⟩ := Prod.mk.inj (Except.ok.inj h)
    obtain ⟨rfl, -⟩ := Prod.mk.inj hrest
    rw [← hspeed]
    exact ⟨rfl, rfl, failed_commandAll .., histories_commandAll ..⟩

/-- A tick in which the write to one of the fans fails. -/
theorem run_of_error {z z' : Zone Probe Drive} {w w' met : World} {tick : Tick}
    {offered : Option (Members Probe Drive)} {refresh : Bool} {report : ZoneReport}
    (h : z.run P w tick offered refresh = .ok (report, z', w')) {before after : List (Fan Drive)}
    {f : Fan Drive} (hfans : (z.prepared P w tick.now offered refresh).fans = before ++ f :: after)
    {e : Error} {drive : Drive}
    (hset : P.setSpeed f.drive report.speed (commandAll P tick.now report.speed before w).2.2 =
      (.error e, drive, met)) :
    report.failedWrites = (commandAll P tick.now report.speed before w).1 + 1 +
        (commandAll P tick.now report.speed after met).1 ∧
      z'.fans = (commandAll P tick.now report.speed before w).2.1 ++
        ⟨drive, f.history⟩ :: (commandAll P tick.now report.speed after met).2.1 := by
  obtain ⟨last, hconclude, -, -⟩ := of_run_eq_ok P h
  rw [conclude_eq] at hconclude
  obtain ⟨rfl, hrest⟩ := Prod.mk.inj hconclude
  obtain ⟨rfl, -⟩ := Prod.mk.inj hrest
  have hall := commandAll_of_error P hset after
  rw [← hfans] at hall
  exact ⟨congrArg Prod.fst hall, congrArg (fun r => r.2.1) hall⟩

end Zone

end ChassisCooling
