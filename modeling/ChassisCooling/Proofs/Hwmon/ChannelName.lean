import ChassisCooling.Hwmon.Inventory
import ChassisCooling.Proofs.Text.Integer
import Mathlib.Data.List.TakeWhile

/-!
# File names of channels

The digits of a channel's number end where the text after them begins, since that text starts with
no digit. A number that 32 bits do not hold makes the file none of a channel.

* `Hwmon.Numbered`: a file name with a number in it.
* `Hwmon.channelIndex_eq_some_iff`: the names of channels are the numbered ones.
-/

namespace ChassisCooling.Hwmon

/-- The name consists of a text, the decimal digits of a 32-bit number, and another text. -/
def Numbered (before after : String) (index : Nat) (name : String) : Prop :=
  ∃ digits : List Char, digits ≠ [] ∧ (∀ c ∈ digits, '0' ≤ c ∧ c ≤ '9') ∧
    Nat.ofDigitChars 10 digits 0 = index ∧ index < UInt32.size ∧
    name = before ++ String.ofList digits ++ after

theorem isDigit_iff {c : Char} : c.isDigit ↔ '0' ≤ c ∧ c ≤ '9' := by
  simp [Char.isDigit, Char.le_def]

theorem between_eq_some_iff {before after name digits : List Char}
    (hafter : ∀ c ∈ after.head?, ¬c.isDigit) :
    between before after name = some digits ↔
      (∀ c ∈ digits, c.isDigit) ∧ name = before ++ digits ++ after := by
  unfold between
  constructor
  · intro h
    split at h
    · next hbefore =>
      obtain ⟨rest, rfl⟩ := List.isPrefixOf_iff_prefix.1 hbefore
      rw [List.drop_left] at h
      dsimp only at h
      split at h
      · next hrest =>
        obtain rfl := Option.some.inj h
        refine ⟨fun c hc => List.mem_takeWhile_imp hc, ?_⟩
        rw [List.append_assoc, ← hrest, List.prefix_iff_eq_append.1 (List.takeWhile_prefix _)]
      · cases h
    · cases h
  · rintro ⟨hdigits, rfl⟩
    rw [List.append_assoc, if_pos (List.isPrefixOf_iff_prefix.2 (List.prefix_append _ _)),
      List.drop_left]
    dsimp only
    rw [Text.takeWhile_append_of_head (by simpa using hafter),
      List.takeWhile_eq_self_iff.2 hdigits, List.drop_left, if_pos rfl]

theorem channelIndex_eq_some_iff {before after name : String} {index : Nat}
    (hafter : ∀ c ∈ after.toList.head?, ¬c.isDigit) :
    channelIndex before after name = some index ↔ Numbered before after index name := by
  have hname : ∀ digits : List Char, name.toList = before.toList ++ digits ++ after.toList ↔
      name = before ++ String.ofList digits ++ after := by
    intro digits
    rw [← String.toList_inj]
    simp
  have hvalue : ∀ digits : List Char, digits ≠ [] → (∀ c ∈ digits, c.isDigit) →
      (Text.readUnsigned (UInt32.size - 1) digits = .ok index ↔
        Nat.ofDigitChars 10 digits 0 = index ∧ index < UInt32.size) := by
    intro digits hsome hdigits
    rw [Text.readUnsigned_eq_ok_iff hsome hdigits]
    exact and_congr_right' Nat.le_iff_lt_add_one
  unfold channelIndex Numbered
  constructor
  · intro h
    split at h
    · cases h
    · cases h
    · next digits hsome hbetween =>
      obtain ⟨hdigits, heq⟩ := (between_eq_some_iff hafter).1 hbetween
      have hsome : digits ≠ [] := hsome
      split at h
      · next n hread =>
        obtain rfl := Option.some.inj h
        obtain ⟨hn, hlt⟩ := (hvalue digits hsome hdigits).1 hread
        exact ⟨digits, hsome, fun c hc => isDigit_iff.1 (hdigits c hc), hn, hlt,
          (hname digits).1 heq⟩
      · cases h
  · rintro ⟨digits, hsome, hdigits, hn, hlt, heq⟩
    have hdigits : ∀ c ∈ digits, c.isDigit := fun c hc => isDigit_iff.2 (hdigits c hc)
    rw [(between_eq_some_iff hafter).2 ⟨hdigits, (hname digits).2 heq⟩]
    split
    · next hnil => exact absurd (Option.some.inj hnil) hsome
    · next hnone => cases hnone
    · next digits' _ heq' =>
      obtain rfl := Option.some.inj heq'
      rw [(hvalue digits hsome hdigits).2 ⟨hn, hlt⟩]

end ChassisCooling.Hwmon
