import Mathlib.Data.List.Basic
import Mathlib.Tactic.SplitIfs

/-!
# The order of texts is that of their bytes

Texts are compared character by character, by code point. Comparing their UTF-8 bytes instead gives
the same order: the encoding of a lower code point is lower at the first byte that differs.

* `Text.encodeChar_lt`: two characters.
* `Text.bytes_lt_of_lt`: two texts.
-/

namespace ChassisCooling.Text

/-- The bytes of a text. -/
def bytes (text : String) : List UInt8 := text.toUTF8.data.toList

theorem bytes_eq_flatMap (text : String) :
    bytes text = text.toList.flatMap String.utf8EncodeChar := by
  have h : text.toByteArray = text.toList.utf8Encode := by
    rw [← String.toByteArray_ofList, String.ofList_toList]
  unfold bytes String.toUTF8
  rw [h, List.utf8Encode]
  simp

theorem toNat_val_lt (c : Char) : c.val.toNat < 0x110000 := by
  have h := c.valid
  unfold UInt32.isValidChar Nat.isValidChar at h
  omega

/-- The encoding of a lower character comes first, whatever follows either of them. -/
theorem encodeChar_lt {c d : Char} (h : c < d) (xs ys : List UInt8) :
    String.utf8EncodeChar c ++ xs < String.utf8EncodeChar d ++ ys := by
  have hlt : c.val.toNat < d.val.toNat := h
  have hd := toNat_val_lt d
  unfold String.utf8EncodeChar
  generalize c.val.toNat = m at *
  generalize d.val.toNat = n at *
  dsimp only
  by_cases hfour : m ≤ 0xffff
  -- One case for each pair of lengths; the first bytes of different lengths are in order.
  · split_ifs <;>
      simp only [List.cons_append, List.nil_append, List.cons_lt_cons_iff,
        UInt8.lt_iff_toNat_lt, ← UInt8.toNat_inj, UInt8.toNat_ofNat'] <;>
      omega
  · rw [if_neg (by omega), if_neg (by omega), if_neg hfour, if_neg (by omega),
      if_neg (by omega), if_neg (by omega)]
    simp only [List.cons_append, List.nil_append, List.cons_lt_cons_iff, UInt8.lt_iff_toNat_lt,
      ← UInt8.toNat_inj, UInt8.toNat_ofNat']
    rcases Nat.lt_or_ge (m / 262144) (n / 262144) with hfirst | hfirst
    · exact .inl (by omega)
    refine .inr ⟨by omega, ?_⟩
    rcases Nat.lt_or_ge (m / 4096) (n / 4096) with hsecond | hsecond
    · exact .inl (by omega)
    refine .inr ⟨by omega, ?_⟩
    omega

theorem flatMap_encodeChar_lt {cs ds : List Char} (h : cs < ds) :
    cs.flatMap String.utf8EncodeChar < ds.flatMap String.utf8EncodeChar := by
  induction h with
  | nil =>
    rw [List.flatMap_nil, List.flatMap_cons]
    cases hbytes : String.utf8EncodeChar _ with
    | nil => exact absurd hbytes String.utf8EncodeChar_ne_nil
    | cons => exact List.nil_lt_cons _ _
  | cons _ ih => exact List.append_left_lt ih
  | rel hlt => exact encodeChar_lt hlt _ _

theorem bytes_lt_of_lt {s t : String} (h : s < t) : bytes s < bytes t := by
  rw [bytes_eq_flatMap, bytes_eq_flatMap]
  exact flatMap_encodeChar_lt h

end ChassisCooling.Text
