/-!
# Texts of any bytes

Bytes are read as UTF-8 one by one. A sequence that is no character is shown by one replacement
character, as far as it could have been the front of one.

* `Text.Pending`: the front of a sequence of bytes for one character.
* `Text.step`: one byte more.
* `Text.decode`: the text of any bytes.
-/

namespace ChassisCooling.Text

/-- The front of a character: its value so far, how many bytes are to come, and the bounds of the
next one. -/
structure Pending where
  value : Nat
  more : Nat
  low : Nat
  high : Nat

def replacement : Char := '\ufffd'

/-- A byte at the front of a character: the characters that it ends, and what it begins. -/
def beginWith (b : Nat) : List Char × Option Pending :=
  if b < 0x80 then ([Char.ofNat b], none)
  else if b < 0xc2 then ([replacement], none)
  else if b < 0xe0 then ([], some ⟨b - 0xc0, 1, 0x80, 0xbf⟩)
  else if b < 0xf0 then
    ([], some ⟨b - 0xe0, 2, if b = 0xe0 then 0xa0 else 0x80, if b = 0xed then 0x9f else 0xbf⟩)
  else if b < 0xf5 then
    ([], some ⟨b - 0xf0, 3, if b = 0xf0 then 0x90 else 0x80, if b = 0xf4 then 0x8f else 0xbf⟩)
  else ([replacement], none)

/-- One byte more: the characters that it ends, and what is pending after it. -/
def step : Option Pending → Nat → List Char × Option Pending
  | none, b => beginWith b
  | some p, b =>
    if p.low ≤ b ∧ b ≤ p.high then
      let value := p.value * 0x40 + (b - 0x80)
      if p.more ≤ 1 then ([Char.ofNat value], none)
      else ([], some ⟨value, p.more - 1, 0x80, 0xbf⟩)
    else
      let (chars, pending) := beginWith b
      (replacement :: chars, pending)

/-- The characters of bytes that follow pending ones. -/
def decodeFrom (pending : Option Pending) : List UInt8 → List Char
  | [] => if pending.isSome then [replacement] else []
  | b :: bs => (step pending b.toNat).1 ++ decodeFrom (step pending b.toNat).2 bs

/-- The text of any bytes. -/
def decode (bytes : ByteArray) : String := String.ofList (decodeFrom none bytes.toList)

end ChassisCooling.Text
