import ChassisCooling.Machine.Basic
import ChassisCooling.Proofs.Control.Writes
import ChassisCooling.Proofs.Hwmon.Calls

/-!
# Fans that cannot be controlled

A fan whose mode cannot be switched is left alone, and each further call tries again. To the zone it
is one failed write, which leaves no trace in the fan's record of commands.

* `switch_retried_until_in_control`: all calls of one channel, and what a failed call is to a tick.
-/

namespace ChassisCooling

open Files (Tree)
open Hwmon (FanChannel)

theorem Hwmon.FanChannel.dutyPath_ne_enablePath (chip directory : String) (index : Nat) :
    (ofIndex chip directory index).dutyPath ≠ (ofIndex chip directory index).enablePath := by
  intro h
  exact place_enablePath_ne [] chip directory index (congrArg _ h.symm)

/-- A drive is a channel, and its call fails. -/
theorem Drive.setSpeed_of_error {c c' : FanChannel} {speed : Single} {m : Machine} {e : Error}
    {files : Tree} (h : c.setSpeed speed m.files = (.error e, c', files)) :
    Machine.platform.setSpeed (.channel c) speed m =
      (.error e, .channel c', { m with files }) := by
  show Drive.setSpeed (.channel c) speed m = _
  unfold setSpeed
  simp only [h]

/-- The calls of a channel come in two parts. As long as the enable file cannot be written, calls
say so and write nothing, and each one tries again. The first one that writes the enable file or
finds none goes on to the duty cycle, and after it all calls write to the duty cycle alone, also if
some of these writes fail. A tick counts a call that fails as one failed write, and keeps the record
of the fan as it was before. -/
theorem switch_retried_until_in_control (chip directory : String) (index : Nat)
    (inputs : List (Tree × Single)) :
    let channel := FanChannel.ofIndex chip directory index
    channel.dutyPath ≠ channel.enablePath ∧
    (channel.calls inputs).map (fun x => (x.met, x.speed)) = inputs ∧
    (∃ refused rest, channel.calls inputs = refused ++ rest ∧ channel.Phases refused rest) ∧
    ∀ (z z' : Zone Probe Drive) (m m' : Machine) (tick : Tick)
      (offered : Option (Members Probe Drive)) (refresh : Bool) (report : ZoneReport),
      z.run Machine.platform m tick offered refresh = .ok (report, z', m') →
      let commandAll := Zone.commandAll Machine.platform tick.now report.speed
      let fans := (z.prepared Machine.platform m tick.now offered refresh).fans
      fans.map (fun f => f.history.commanded) =
          (z.load (offered.getD .empty)).fans.map (fun f => f.history.commanded) ∧
      ∀ (before after : List (Fan Drive)) (f : Fan Drive) (c c' : FanChannel) (e : Error)
        (files : Tree), fans = before ++ f :: after → f.drive = .channel c →
        c.setSpeed report.speed (commandAll before m).2.2.files = (.error e, c', files) →
        let rest := commandAll after { (commandAll before m).2.2 with files }
        report.failedWrites = (commandAll before m).1 + 1 + rest.1 ∧
          z'.fans = (commandAll before m).2.1 ++ ⟨.channel c', f.history⟩ :: rest.2.1 := by
  intro channel
  refine ⟨FanChannel.dutyPath_ne_enablePath chip directory index,
    FanChannel.map_calls channel inputs, FanChannel.exists_phases rfl inputs, ?_⟩
  intro z z' m m' tick offered refresh report hrun commandAll fans
  refine ⟨Zone.commanded_prepared .., ?_⟩
  intro before after f c c' e files hfans hdrive hset
  have hfailed := Drive.setSpeed_of_error hset
  rw [← hdrive] at hfailed
  exact Zone.run_of_error Machine.platform hrun hfans hfailed

/-- The enable file is a directory until before the third call, and in a tick at full speed. -/
theorem switch_retried_where_enable_file_is_blocked :
    let c := FanChannel.ofIndex "nct6775" "hw" 1
    let chip (enable : Files.Node) : Tree :=
      ⟨[(["work"], .directory), (["work", "hw"], .directory),
        (["work", "hw", "pwm1"], .file "0".toUTF8), (["work", "hw", "pwm1_enable"], enable)],
        ["work"]⟩
    let inputs := [(chip .directory, .ofNat 50), (chip .directory, .ofNat 60),
      (chip (.file "2\n".toUTF8), .ofNat 70)]
    let z : Zone Probe Drive :=
      ⟨"System", .default, .empty "target" 10, some ⟨[⟨.channel c, .empty "fan" 10⟩], []⟩⟩
    let m : Machine := ⟨chip .directory, .empty, []⟩
    ∃ report z' m', z.run Machine.platform m ⟨.ofNat 0, .zero⟩ none false = .ok (report, z', m') ∧
      report.failedWrites = 1 ∧ z'.fans.map (fun f => f.history.commanded) = [[]] ∧
      ∃ refused rest, c.calls inputs = refused ++ rest ∧ c.Phases refused rest ∧
        (c.calls inputs).map (fun x => x.result.isOk) = [false, false, true] := by
  intro c chip inputs z m
  obtain ⟨-, -, ⟨refused, rest, hcalls, hphases⟩, hticks⟩ :=
    switch_retried_until_in_control "nct6775" "hw" 1 inputs
  obtain ⟨⟨report, z', m'⟩, hrun⟩ :
      ∃ r, z.run Machine.platform m ⟨.ofNat 0, .zero⟩ none false = .ok r :=
    exists_eq_ok_of_isOk (by decide +kernel)
  obtain ⟨e, hset⟩ : ∃ e, c.setSpeed report.speed m.files = (.error e, c, m.files) := by
    have hholds : m.files.holds c.enablePath = true := by decide +kernel
    have hwrite : (m.files.writeText c.enablePath FanChannel.manualMode).isOk = false := by
      decide +kernel
    rcases FanChannel.setSpeed_cases (c := c) rfl report.speed m.files with
      ⟨result, hset, hrefused⟩ | ⟨_, ready, _, _, htaken, _⟩
    · obtain ⟨failure, -, rfl⟩ := hrefused.error
      exact ⟨_, hset⟩
    · cases htaken with
      | absent habsent => exact absurd hholds habsent
      | switched _ hswitched =>
        rw [hswitched] at hwrite
        cases hwrite
  obtain ⟨hfailed, hfans⟩ := (hticks z z' m m' _ none false report hrun).2 [] []
    ⟨.channel c, .empty "fan" 10⟩ c c e m.files rfl rfl hset
  refine ⟨report, z', m', hrun, hfailed, ?_, refused, rest, hcalls, hphases, by decide +kernel⟩
  rw [hfans]
  rfl

end ChassisCooling
