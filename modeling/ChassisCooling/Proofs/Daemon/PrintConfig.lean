import ChassisCooling.Daemon.Program
import ChassisCooling.Proofs.Config.Load
import ChassisCooling.Proofs.Config.Text
import ChassisCooling.Proofs.Files.Tree

/-!
# A printed configuration is loaded as it was

The program can print the configuration that it would run with. The text, put into a file, is
accepted and stands for the same configuration in all its fields, whatever names the targets have
and whatever characters are in the export path. So a configuration that was loaded can be printed
and loaded again any number of times.

The digits of a number are the shortest that stand for it, but numbers are read by way of doubles,
and a long row of digits may be read as the neighbour of the number that was meant. So it is asked
of the finite numbers of the configuration that they read back one by one; of everything else
nothing is asked.

* `Config.NumbersReadBack`: the finite numbers read back.
* `Daemon.printed_config_loads_back`: the main result.
-/

namespace ChassisCooling

open Json (ReadsBack)

namespace Config

variable {c : Config}

/-- Every number of the configuration, if it is finite, is read as itself. -/
structure NumbersReadBack (c : Config) : Prop where
  singles : ∀ x ∈ c.singles, x.isFinite → ReadsBack x
  interval : c.intervalSecs.isFinite → ReadsBack c.intervalSecs

-- The double next to 1 / 11 is written with sixteen digits, and its neighbour is read.
example : ¬ReadsBack (Binary.ofNat 1 / Binary.ofNat 11 : Double) := by decide +kernel

theorem Valid.isFinite_of_mem_singles (hc : c.Valid) : ∀ x ∈ c.singles, x.isFinite := by
  have hzero : (Binary.ofNat 0 : Single).isFinite := Binary.isFinite_ofNat_zero
  have hone : (Binary.ofNat 1 : Single).isFinite := by decide +kernel
  have hspeed : c.minSpeed.isFinite :=
    Binary.isFinite_of_le_of_le hzero isFinite_maxSpeed hc.minSpeed_nonneg hc.minSpeed_le
  have hfactor : c.targetFactor.isFinite :=
    Binary.isFinite_of_le_of_le hzero hone (Binary.le_of_lt hc.targetFactor_pos) hc.targetFactor_le
  intro x hx
  rcases List.mem_append.1 hx with hx | hx
  · simp only [List.mem_cons, List.not_mem_nil, or_false] at hx
    rcases hx with rfl | rfl | rfl | rfl | rfl | rfl | rfl
    · exact hspeed
    · exact hc.maxDecrease_finite
    · exact hc.maxIncrease_finite
    · exact hc.targetOffset_finite
    · exact hc.deadbandLow_finite
    · exact hc.deadbandHigh_finite
    · exact hfactor
  · obtain ⟨entry, hentry, rfl⟩ := List.mem_map.1 hx
    exact hc.sensorTargets_finite entry hentry

/-- The numbers of a valid configuration are all finite, so all of them read back. -/
theorem Valid.readable (hc : c.Valid) (hnumbers : c.NumbersReadBack)
    (hcapacity : c.historyCapacity < UInt64.size) : c.Readable where
  singles x hx := hnumbers.singles x hx (hc.isFinite_of_mem_singles x hx)
  interval := hnumbers.interval hc.intervalSecs_finite
  capacity := hcapacity

theorem load_of_writeText {t t' : Files.Tree} {path text : String}
    (hwrite : t.writeText path text = .ok t') : load t' path = ofValidText text := by
  unfold load
  rw [if_neg (not_not.2 (Files.Tree.holds_of_writeText hwrite)),
    Files.Tree.readText_of_writeText hwrite]
  rfl

theorem ofValidText_pretty (hvalid : c.validate = .ok ()) (hreadable : c.Readable) :
    ofValidText (c.toValue.pretty ++ "\n") = .ok c := by
  unfold ofValidText
  rw [ofText_pretty hreadable]
  simp only [Except.mapError, hvalid, bind, Except.bind]
  rfl

end Config

namespace Daemon

/-- What the program prints for a valid configuration is a file from which the configuration is
loaded again. A configuration that was loaded is valid, so this holds of all that it prints. -/
theorem printed_config_loads_back {config : Config} (hnumbers : config.NumbersReadBack)
    (hcapacity : config.historyCapacity < UInt64.size) {t t' : Files.Tree} {path : String}
    (hwrite : t.writeText path (config.toValue.pretty ++ "\n") = .ok t') :
    (config.validate = .ok () → Config.load t' path = .ok config) ∧
      ∀ (options : Options) (m : Machine), options.printConfig →
        Config.load m.files options.configPath = .ok config →
        startWith options m = .ended ⟨0, config.toValue.pretty ++ "\n", ""⟩ ∧
          Config.load t' path = .ok config := by
  have hload : config.validate = .ok () → Config.load t' path = .ok config := by
    intro hvalid
    have hreadable := (Config.validate_eq_ok_iff.1 hvalid).readable hnumbers hcapacity
    rw [Config.load_of_writeText hwrite]
    exact Config.ofValidText_pretty hvalid hreadable
  refine ⟨hload, fun options m hprint hloaded => ⟨?_, hload (Config.validate_of_load hloaded)⟩⟩
  unfold startWith
  rw [hloaded]
  simp only [hprint, if_true]

/-- Decimal fractions, a negative zero, and texts with quotes, backslashes, control characters and a
character outside the basic plane. -/
theorem printed_config_loads_back_with_escapes :
    let config : Config :=
      { Config.default with
        minSpeed := Binary.ofDecimal false 333 (-1)
        targetOffset := Binary.signedZero true
        intervalSecs := Binary.ofDecimal false 1 (-1)
        exportPath := some "/srv/\"rows\"\\\n\x01"
        sensorTargets :=
          (Targets.empty.insert "cpu \t\x7f" (Binary.ofNat 70)).insert "🌡" (Binary.ofInt (-5)) }
    ∃ t', Files.Tree.blank.writeText "cooling.json" (config.toValue.pretty ++ "\n") = .ok t' ∧
      Config.load t' "cooling.json" = .ok config ∧
      startWith ⟨"cooling.json", defaultHwmonRoot, true⟩ { Machine.blank with files := t' } =
        .ended ⟨0, config.toValue.pretty ++ "\n", ""⟩ := by
  intro config
  have hnumbers : config.NumbersReadBack := ⟨by decide +kernel, by decide +kernel⟩
  have hcapacity : config.historyCapacity < UInt64.size := by decide +kernel
  have hvalid : config.validate = .ok () := by decide +kernel
  have hopen : Files.Tree.blank.openFile "cooling.json" = .ok (["work", "cooling.json"], .empty) := by
    decide +kernel
  have hwritable : ∀ text, ∃ t', Files.Tree.blank.writeText "cooling.json" text = .ok t' := by
    intro text
    unfold Files.Tree.writeText Files.Tree.write
    rw [hopen]
    exact ⟨_, rfl⟩
  obtain ⟨t', hwrite⟩ := hwritable (config.toValue.pretty ++ "\n")
  have hround := printed_config_loads_back hnumbers hcapacity hwrite
  refine ⟨t', hwrite, hround.1 hvalid, ?_⟩
  exact (hround.2 ⟨"cooling.json", defaultHwmonRoot, true⟩ { Machine.blank with files := t' } rfl
    (hround.1 hvalid)).1

end Daemon

end ChassisCooling
