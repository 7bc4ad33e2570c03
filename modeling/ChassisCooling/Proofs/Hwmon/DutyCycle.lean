import ChassisCooling.Proofs.Binary.Arithmetic
import ChassisCooling.Proofs.Hwmon.FanFiles
import ChassisCooling.Proofs.Text.Blank
import ChassisCooling.Proofs.Text.Integer

/-!
# Duty cycles read back

A duty cycle that is read as a speed in percent and written again is the same duty cycle, and its
text reads as the number that was written.

* `DutyCycle.ofPercent_toPercent`: rounding undoes the conversion to percent for each of the 256
  values.
* `DutyCycle.toPercent_mono`: higher duty cycles read back as higher speeds, or the same;
  `DutyCycle.zero_le_toPercent`, `DutyCycle.toPercent_le_maxSpeed`, `DutyCycle.isFinite_toPercent`:
  so all lie between the two at the ends.
* `FanChannel.duty?`: the duty cycle that a channel shows; `FanChannel.duty?_of_readText`: one that
  was written.
* `FanChannel.firstReadable?`: the first channel that shows one.
-/

namespace ChassisCooling

/-! ## Conversions -/

namespace DutyCycle

open Binary

/-- What holds of every number below 256 holds of every byte. -/
theorem forall_byte {p : UInt8 → Prop} (h : ∀ n < 256, p (UInt8.ofNat n)) (v : UInt8) : p v := by
  have hv := h v.toNat v.toNat_lt
  rwa [UInt8.ofNat_toNat] at hv

theorem ofPercent_toPercent (v : UInt8) : ofPercent (toPercent v) = v :=
  forall_byte (p := fun v => ofPercent (toPercent v) = v) (by decide +kernel) v

/-- The part of the range that a duty cycle is. -/
def fraction (v : UInt8) : Single := ofNat v.toNat / ofNat maxValue.toNat

theorem le_maxValue (v : UInt8) : v ≤ maxValue := Nat.le_of_lt_succ v.toNat_lt

theorem fraction_mono {v w : UInt8} (h : v ≤ w) : fraction v ≤ fraction w :=
  div_le_div_right (by decide +kernel) (by decide +kernel)
    (ofNat_le_ofNat (UInt8.le_iff_toNat_le.1 h))

theorem isFinite_fraction (v : UInt8) : (fraction v).isFinite := by
  have hbottom : (fraction 0).isFinite := by decide +kernel
  have htop : (fraction maxValue).isFinite := by decide +kernel
  exact isFinite_of_le_of_le hbottom htop (fraction_mono (Nat.zero_le _))
    (fraction_mono (le_maxValue v))

theorem toPercent_mono {v w : UInt8} (h : v ≤ w) : toPercent v ≤ toPercent w :=
  mul_le_mul_right (isFinite_fraction v) (isFinite_fraction w) (by decide +kernel)
    (zero_le_ofNat 100) (fraction_mono h)

theorem zero_le_toPercent (v : UInt8) : ofNat 0 ≤ toPercent v := by
  have hzero : ofNat 0 ≤ toPercent 0 := by decide +kernel
  exact Binary.le_trans hzero (toPercent_mono (Nat.zero_le _))

theorem toPercent_le_maxSpeed (v : UInt8) : toPercent v ≤ maxSpeed := by
  have hmax : toPercent maxValue ≤ maxSpeed := by decide +kernel
  exact Binary.le_trans (toPercent_mono (le_maxValue v)) hmax

theorem isFinite_toPercent (v : UInt8) : (toPercent v).isFinite := by
  have hmax : maxSpeed.isFinite := by decide +kernel
  exact isFinite_of_le_of_le isFinite_ofNat_zero hmax (zero_le_toPercent v)
    (toPercent_le_maxSpeed v)

end DutyCycle

/-! ## Decimal texts -/

namespace Text

theorem isDigit_of_mem_toString {n : Nat} {c : Char} (h : c ∈ (toString n).toList) :
    c.isDigit :=
  by_contra fun hc => Hwmon.FanChannel.not_mem_toString hc n h

theorem trim_toString (n : Nat) : trim (toString n) = toString n := by
  unfold trim
  rw [stripBoth_eq_self fun c hc => isBlank_of_isDigit (isDigit_of_mem_toString hc),
    String.ofList_toList]

theorem readUnsigned_toString {n limit : Nat} (h : n ≤ limit) :
    readUnsigned limit (toString n).toList = .ok n := by
  have hdigits : (toString n).toList = Nat.toDigits 10 n := Nat.toList_repr
  have hsome : (toString n).toList ≠ [] := by
    rw [hdigits]
    exact Nat.toDigits_ne_nil
  refine (readUnsigned_eq_ok_iff hsome fun c hc => isDigit_of_mem_toString hc).2 ⟨?_, h⟩
  rw [hdigits]
  exact Nat.ofDigitChars_toDigits (by decide) (by decide)

end Text

/-! ## What channels show -/

namespace Hwmon.FanChannel

open Files (Tree)

variable {c c' : FanChannel} {t : Tree} {v : UInt8}

/-- The duty cycle that a channel shows, if its file can be read and holds one. -/
def duty? (c : FanChannel) (t : Tree) : Option UInt8 :=
  (readNumber (Text.readUnsigned 255) t c.dutyPath).toOption.map UInt8.ofNat

/-- The first channel whose duty cycle can be read. -/
def firstReadable? (t : Tree) (channels : List FanChannel) : Option FanChannel :=
  channels.find? fun c => (c.duty? t).isSome

theorem mem_of_firstReadable? {channels : List FanChannel}
    (h : firstReadable? t channels = some c) : c ∈ channels ∧ (c.duty? t).isSome := by
  have hp := List.find?_some (p := fun c : FanChannel => (c.duty? t).isSome) h
  exact ⟨List.mem_of_find?_eq_some h, hp⟩

theorem findSome?_duty? {channels : List FanChannel} (h : firstReadable? t channels = some c) :
    (channels.findSome? fun c => c.duty? t) = c.duty? t := by
  induction channels with
  | nil => cases h
  | cons d channels ih =>
    unfold firstReadable? at h
    rw [List.find?_cons] at h
    rw [List.findSome?_cons]
    cases hd : d.duty? t with
    | some v =>
      rw [hd] at h
      obtain rfl : d = c := Option.some.inj h
      rw [hd]
    | none =>
      rw [hd] at h
      exact ih h

/-- What a channel shows depends on where its path leads. -/
theorem duty?_of_resolve_eq (h : t.resolve true c'.dutyPath = t.resolve true c.dutyPath) :
    c'.duty? t = c.duty? t := by
  unfold duty? readNumber Tree.readText Tree.readBytes
  rw [h]

theorem duty?_congr (h : c'.dutyPath = c.dutyPath) (t : Tree) : c'.duty? t = c.duty? t :=
  duty?_of_resolve_eq (congrArg (t.resolve true) h)

/-- A channel that shows a duty cycle has a file for it. -/
theorem exists_resolve_of_duty? (h : (c.duty? t).isSome) :
    ∃ l content, t.resolve true c.dutyPath = .ok (.existing l (.file content)) := by
  unfold duty? readNumber at h
  cases htext : t.readText c.dutyPath with
  | ok text => exact Tree.exists_resolve_of_readText htext
  | error failure =>
    rw [htext] at h
    cases h

theorem toOption_speed (c : FanChannel) (t : Tree) :
    (c.speed t).toOption = (c.duty? t).map DutyCycle.toPercent := by
  unfold speed readDutyCycle duty?
  cases readNumber (Text.readUnsigned 255) t c.dutyPath <;> rfl

theorem dutyText_toPercent (v : UInt8) : dutyText (DutyCycle.toPercent v) = toString v.toNat := by
  unfold dutyText
  rw [DutyCycle.ofPercent_toPercent]

/-- A duty cycle that was written is read. -/
theorem duty?_of_readText (h : t.readText c.dutyPath = .ok (toString v.toNat)) :
    c.duty? t = some v := by
  have hv : v.toNat ≤ 255 := Nat.le_of_lt_succ v.toNat_lt
  unfold duty? readNumber
  rw [h]
  simp only [Text.trim_toString, Text.readUnsigned_toString hv]
  show some (UInt8.ofNat v.toNat) = some v
  rw [UInt8.ofNat_toNat]

end Hwmon.FanChannel

end ChassisCooling
