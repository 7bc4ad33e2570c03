import ChassisCooling.Proofs.Binary.Whole
import ChassisCooling.Proofs.Config.Valid
import ChassisCooling.Proofs.Hwmon.DutyCycle

/-!
# The numbers in a chip's files

A file holds a number if its bytes are the UTF-8 of a numeral between blanks. Temperatures and their
thresholds take a sign and 32 bits, duty cycles take no minus and a byte. Every such file has its
value, and no other file has one: reading it is an error of hardware that names the file, or the
threshold is not there.

* `Tree.Inscribed`: what a file holds.
* `readNumber_eq_ok_iff`: reading a number.
* `Tree.Millidegrees`, `Tree.DutyCycle`: the numbers of the two kinds of files.
* `channels_read_numerals`: the main result.
-/

namespace ChassisCooling

open Binary

namespace Files.Tree

variable {t : Tree} {path : String}

/-- The bytes of a file are a numeral between blanks, as UTF-8. -/
def Inscribed {α : Type} (numeral : List Char → α → Prop) (t : Tree) (path : String) (a : α) :
    Prop :=
  ∃ (text : String) (before cs after : List Char), t.readBytes path = .ok text.toUTF8 ∧
    text.toList = before ++ (cs ++ after) ∧ (∀ c ∈ before, Text.isBlank c) ∧
    (∀ c ∈ after, Text.isBlank c) ∧ numeral cs a

/-- A file holds millidegrees of 32 bits. -/
def Millidegrees (t : Tree) (path : String) (z : Int) : Prop :=
  t.Inscribed Text.Signed path z ∧ -2147483648 ≤ z ∧ z ≤ 2147483647

/-- A file holds a duty cycle. -/
def Duty (t : Tree) (path : String) (n : Nat) : Prop :=
  t.Inscribed Text.Unsigned path n ∧ n ≤ 255

theorem fromUTF8?_eq_some_iff {content : ByteArray} {text : String} :
    String.fromUTF8? content = some text ↔ content = text.toUTF8 := by
  constructor
  · intro h
    unfold String.fromUTF8? at h
    split at h
    · obtain rfl := Option.some.inj h
      rfl
    · cases h
  · rintro rfl
    exact dif_pos text.isValidUTF8

theorem readText_eq_ok_iff {text : String} :
    t.readText path = .ok text ↔ t.readBytes path = .ok text.toUTF8 := by
  unfold readText
  rw [bind_eq_ok_iff]
  constructor
  · rintro ⟨content, hbytes, h⟩
    split at h
    · next decoded hdecode =>
      obtain rfl := Except.ok.inj h
      rwa [fromUTF8?_eq_some_iff.1 hdecode] at hbytes
    · cases h
  · intro hbytes
    refine ⟨_, hbytes, ?_⟩
    rw [fromUTF8?_eq_some_iff.2 rfl]
    rfl

end Files.Tree

namespace Hwmon

open Files (Tree)
open Files.Path (join)

variable {t : Tree} {path : String}

/-- A number is read where a numeral of it stands between blanks, if numerals have no blanks. -/
theorem readNumber_eq_ok_iff {α : Type} {parse : List Char → Except Text.IntegerFault α}
    {numeral : List Char → α → Prop} {within : α → Prop}
    (hparse : ∀ cs a, parse cs = .ok a ↔ numeral cs a ∧ within a)
    (hblank : ∀ cs a, numeral cs a → ∀ c ∈ cs, Text.isBlank c = false) {a : α} :
    readNumber parse t path = .ok a ↔ t.Inscribed numeral path a ∧ within a := by
  constructor
  · intro h
    unfold readNumber at h
    cases htext : t.readText path with
    | error cause =>
      rw [htext] at h
      cases h
    | ok text =>
      rw [htext] at h
      obtain ⟨hnumeral, hwithin⟩ := (hparse _ a).1 (mapError_eq_ok_iff.1 h)
      rw [Text.trim, String.toList_ofList] at hnumeral
      obtain ⟨before, after, hbefore, hafter, heq⟩ :=
        Text.exists_append_of_stripBoth Text.isBlank text.toList
      exact ⟨⟨text, before, _, after, Tree.readText_eq_ok_iff.1 htext, heq, hbefore, hafter,
        hnumeral⟩, hwithin⟩
  · rintro ⟨⟨text, before, cs, after, hbytes, heq, hbefore, hafter, hnumeral⟩, hwithin⟩
    have htrim : (Text.trim text).toList = cs := by
      rw [Text.trim, String.toList_ofList, heq,
        Text.stripBoth_append hbefore hafter (hblank cs a hnumeral)]
    unfold readNumber
    rw [Tree.readText_eq_ok_iff.2 hbytes]
    refine mapError_eq_ok_iff.2 ?_
    rw [htrim]
    exact (hparse cs a).2 ⟨hnumeral, hwithin⟩

theorem readNumber_millidegrees {z : Int} :
    readNumber (Text.readSigned (UInt32.size / 2) (UInt32.size / 2 - 1)) t path = .ok z ↔
      t.Millidegrees path z :=
  readNumber_eq_ok_iff (fun _ _ => Text.readSigned_eq_ok_iff) fun _ _ => Text.isBlank_of_signed

theorem readNumber_duty {n : Nat} :
    readNumber (Text.readUnsigned 255) t path = .ok n ↔ t.Duty path n :=
  readNumber_eq_ok_iff (fun _ _ => Text.readUnsigned_eq_ok_iff_unsigned) fun _ _ h =>
    Text.isBlank_of_signed (.unsigned h)

/-! ## Values -/

/-- The temperature that a file shows, if it holds one. -/
def Temperature (t : Tree) (path : String) (v : Single) : Prop :=
  ∃ z, t.Millidegrees path z ∧ v = ofInt z / ofNat 1000

/-- The speed that a file shows, if it holds one. -/
def Speed (t : Tree) (path : String) (v : Single) : Prop :=
  ∃ n, t.Duty path n ∧ v = DutyCycle.toPercent (UInt8.ofNat n)

/-- All 32-bit numbers of degrees are finite, as they lie between the two at the ends. -/
theorem isFinite_of_temperature {v : Single} (h : Temperature t path v) : v.isFinite := by
  obtain ⟨z, ⟨-, hlow, hhigh⟩, hv⟩ := h
  have hpos : (ofNat 0 : Single) < ofNat 1000 := by decide +kernel
  have hfinite : (ofNat 1000 : Single).isFinite := by decide +kernel
  have hbottom : (ofInt (-2147483648) / ofNat 1000 : Single).isFinite := by decide +kernel
  have htop : (ofInt 2147483647 / ofNat 1000 : Single).isFinite := by decide +kernel
  rw [hv]
  exact isFinite_of_le_of_le hbottom htop (div_le_div_right hfinite hpos (ofInt_le_ofInt hlow))
    (div_le_div_right hfinite hpos (ofInt_le_ofInt hhigh))

theorem range_of_speed {v : Single} (h : Speed t path v) : ofNat 0 ≤ v ∧ v ≤ maxSpeed := by
  obtain ⟨n, -, hv⟩ := h
  rw [hv]
  exact ⟨DutyCycle.zero_le_toPercent _, DutyCycle.toPercent_le_maxSpeed _⟩

/-- What reading a file gives: the value that it shows, or an error of hardware if it shows none. -/
structure Reads (r : Except Error Single) (shows : Single → Prop) (refusal : String → Error) :
    Prop where
  ok_iff : ∀ v, r = .ok v ↔ shows v
  error : (∀ v, ¬shows v) → ∃ reason, r = .error (refusal reason) ∧ (refusal reason).isHardware

/-- A reader that gives the value of a number, and an error if there is none. -/
theorem reads_of_number {α : Type} {number : Except NumberFault α} {holds : α → Prop}
    {value : α → Single} {refusal : String → Error} {r : Except Error Single}
    (hnumber : ∀ a, number = .ok a ↔ holds a) (hok : ∀ a, number = .ok a → r = .ok (value a))
    (herror : ∀ fault, number = .error fault → r = .error (refusal fault.reason))
    (hardware : ∀ reason, (refusal reason).isHardware) :
    Reads r (fun v => ∃ a, holds a ∧ v = value a) refusal := by
  cases number with
  | ok a =>
    rw [hok a rfl]
    refine ⟨fun v => ⟨?_, ?_⟩, fun hnone => absurd ⟨a, (hnumber a).1 rfl, rfl⟩ (hnone (value a))⟩
    · intro h
      exact ⟨a, (hnumber a).1 rfl, (Except.ok.inj h).symm⟩
    · rintro ⟨b, hb, rfl⟩
      obtain rfl := Except.ok.inj ((hnumber b).2 hb)
      rfl
  | error fault =>
    rw [herror fault rfl]
    refine ⟨fun v => ⟨?_, ?_⟩, fun _ => ⟨_, rfl, hardware _⟩⟩
    · intro h
      cases h
    · rintro ⟨b, hb, rfl⟩
      cases (hnumber b).2 hb

theorem readMillidegrees_reads (t : Tree) (path : String) :
    Reads (readMillidegrees t path) (Temperature t path) (.temperatureRead path) := by
  refine reads_of_number (fun _ => readNumber_millidegrees) ?_ ?_ fun _ => rfl
  · intro z h
    unfold readMillidegrees
    rw [h]
    rfl
  · intro fault h
    unfold readMillidegrees
    rw [h]

theorem readDutyCycle_reads (t : Tree) (path : String) :
    Reads (readDutyCycle t path) (Speed t path) (.fanRead path) := by
  refine reads_of_number (fun _ => readNumber_duty) ?_ ?_ fun _ => rfl
  · intro n h
    unfold readDutyCycle
    rw [h]
  · intro fault h
    unfold readDutyCycle
    rw [h]

theorem succeeded_eq_some_iff {α : Type} {r : Except Error α} {a : α} :
    succeeded r = some a ↔ r = .ok a := by
  cases r with
  | ok b => simp [succeeded]
  | error e => simp [succeeded]

/-! ## No minus -/

/-- A text that begins with a minus holds no duty cycle, not even zero. -/
theorem not_duty_of_minus {text : String} {before rest : List Char}
    (hbytes : t.readBytes path = .ok text.toUTF8) (heq : text.toList = before ++ '-' :: rest)
    (hbefore : ∀ c ∈ before, Text.isBlank c) (n : Nat) : ¬t.Duty path n := by
  rintro ⟨⟨text', before', cs, after, hbytes', heq', hbefore', -, hnumeral⟩, -⟩
  obtain rfl : text' = text := Except.ok.inj ((Tree.readText_eq_ok_iff.2 hbytes').symm.trans
    (Tree.readText_eq_ok_iff.2 hbytes))
  have hblank := Text.isBlank_of_signed (.unsigned hnumeral)
  obtain ⟨c, cs, rfl, hc⟩ := hnumeral.exists_cons
  -- Behind the blanks in front the text begins with the numeral, and so with the minus.
  have hfront := congrArg (List.dropWhile Text.isBlank) (heq'.symm.trans heq)
  rw [List.cons_append, Text.dropWhile_append_cons hbefore' (hblank c List.mem_cons_self),
    Text.dropWhile_append_cons hbefore (by decide)] at hfront
  obtain ⟨rfl, -⟩ := List.cons.inj hfront
  exact absurd hc (by decide)

/-! ## The main result -/

/-- How a thermal channel shows what its files hold when it is described. -/
structure Describes (c : ThermalChannel) (t : Tree) (directory : String) (index : Nat) : Prop where
  inputPath : c.inputPath = join directory ("temp" ++ toString index ++ "_input")
  overheat : ∀ v, c.overheat = some v ↔
    Temperature t (join directory ("temp" ++ toString index ++ "_max")) v
  critical : ∀ v, c.critical = some v ↔
    Temperature t (join directory ("temp" ++ toString index ++ "_crit")) v

/-- In any state of the files, each channel shows the number that its file holds, in its unit and in
its range, and reports an error that names the file if it holds none. -/
theorem channels_read_numerals (t : Tree) :
    (∀ c : ThermalChannel, Reads (c.temperature t) (Temperature t c.inputPath)
      (.temperatureRead c.inputPath)) ∧
    (∀ chip directory index,
      Describes (.describedAt t chip directory index) t directory index) ∧
    (∀ path v, Temperature t path v → v.isFinite) ∧
    (∀ c : FanChannel, Reads (c.speed t) (Speed t c.dutyPath) (.fanRead c.dutyPath)) ∧
    (∀ path v, Speed t path v → ofNat 0 ≤ v ∧ v ≤ ofNat 100) ∧
    ∀ (c : FanChannel) (text : String) (before rest : List Char),
      t.readBytes c.dutyPath = .ok text.toUTF8 → text.toList = before ++ '-' :: rest →
      (∀ c ∈ before, Text.isBlank c) →
      ∃ reason, c.speed t = .error (.fanRead c.dutyPath reason) := by
  refine ⟨fun c => readMillidegrees_reads t c.inputPath, fun chip directory index => ?_,
    fun path v => isFinite_of_temperature, fun c => readDutyCycle_reads t c.dutyPath,
    fun path v => range_of_speed, ?_⟩
  · constructor
    · rfl
    · intro v
      simp only [ThermalChannel.describedAt, succeeded_eq_some_iff]
      exact (readMillidegrees_reads t _).ok_iff v
    · intro v
      simp only [ThermalChannel.describedAt, succeeded_eq_some_iff]
      exact (readMillidegrees_reads t _).ok_iff v
  · intro c text before rest hbytes heq hbefore
    have hnone : ∀ v, ¬Speed t c.dutyPath v := by
      rintro v ⟨n, hn, -⟩
      exact not_duty_of_minus hbytes heq hbefore n hn
    obtain ⟨reason, hread, -⟩ := (readDutyCycle_reads t c.dutyPath).error hnone
    exact ⟨reason, hread⟩

/-- Zeros and a sign in front, the least number of 32 bits, one above the greatest, blanks of both
sides, and a zero below zero. -/
theorem channels_read_numerals_of_edges :
    let t : Tree :=
      ⟨[(["work"], .directory), (["work", "hw"], .directory),
        (["work", "hw", "temp1_input"], .file "+00042500\n".toUTF8),
        (["work", "hw", "temp1_max"], .file "-2147483648".toUTF8),
        (["work", "hw", "temp1_crit"], .file "2147483648".toUTF8),
        (["work", "hw", "pwm1"], .file "\t0255 ".toUTF8),
        (["work", "hw", "pwm2"], .file "-0".toUTF8)], ["work"]⟩
    let cpu := ThermalChannel.describedAt t "chip" "hw" 1
    Temperature t "hw/temp1_input" (ofDecimal false 425 (-1)) ∧
      (ofDecimal false 425 (-1) : Single).isFinite ∧
      (∃ v, Temperature t "hw/temp1_max" v) ∧ (∀ v, ¬Temperature t "hw/temp1_crit" v) ∧
      cpu.critical = none ∧ Speed t "hw/pwm1" (ofNat 100) ∧
      ∃ reason,
        (FanChannel.ofIndex "chip" "hw" 2).speed t = .error (.fanRead "hw/pwm2" reason) := by
  intro t cpu
  obtain ⟨hread, hdescribed, hfinite, hspeed, -, hminus⟩ := channels_read_numerals t
  have hcpu := hdescribed "chip" "hw" 1
  have hinput : (cpu.temperature t).toOption = some (ofDecimal false 425 (-1)) := by
    decide +kernel
  have htemperature := ((hread cpu).ok_iff _).1 (toOption_eq_some_iff.1 hinput)
  have hmax : cpu.overheat.isSome := by decide +kernel
  have hcrit : cpu.critical = none := by decide +kernel
  obtain ⟨v, hv⟩ := Option.isSome_iff_exists.1 hmax
  have hduty : ((FanChannel.ofIndex "chip" "hw" 1).speed t).toOption = some (ofNat 100) := by
    decide +kernel
  refine ⟨htemperature, hfinite _ _ htemperature, ⟨v, (hcpu.overheat v).1 hv⟩, fun v hv => ?_,
    hcrit, ((hspeed _).ok_iff _).1 (toOption_eq_some_iff.1 hduty), ?_⟩
  · cases hcrit.symm.trans ((hcpu.critical v).2 hv)
  · have hpath : (FanChannel.ofIndex "chip" "hw" 2).dutyPath = "hw/pwm2" := by decide +kernel
    have hbytes : t.readBytes "hw/pwm2" = .ok "-0".toUTF8 := by decide +kernel
    have htext : "-0".toList = [] ++ '-' :: ['0'] := by decide +kernel
    rw [← hpath] at hbytes ⊢
    exact hminus _ _ _ _ hbytes htext (List.forall_mem_nil _)

end Hwmon

end ChassisCooling
